import Reconcile.Proofs.Mapping.Passes

/-!
The two directions of the mapping agree. Reading an item in translation and renaming what comes out like a declared
object gives the same object as reading the item in the device's own names.
-/

namespace Reconcile

theorem withoutPartition_isNull (value : Value) : (withoutPartition value).isNull = value.isNull := by
  cases value <;> rfl

namespace PropertyRule

variable {rule : PropertyRule}

/-- Only truth values, omitted values and amounts have a spelling of their own on the device. -/
theorem toDevice_eq_self (reversible : rule.Reversible) (truthless : rule.hasTruth = false) (value : Value) :
    rule.toDevice value = value := by
  have falseless : rule.hasFalsehood = false := by
    rw [← Bool.not_eq_true]
    exact fun falsehood => Bool.false_ne_true (truthless.symm.trans (reversible.truth falsehood))
  cases value with
  | bool flag => cases flag <;> simp [toDevice, truthless, falseless]
  | null => simp [toDevice, falseless]
  | int number => simp [toDevice, scaledDown, reversible.unscaled]
  | _ => rfl

theorem toDevice_flag_isNull (truth : rule.hasTruth = true) (flag : Bool) :
    (rule.toDevice (.bool flag)).isNull = false := by
  cases flag with
  | true =>
    rw [toDevice, if_pos truth]
    exact Bool.not_eq_true' _ ▸ truth
  | false =>
    rw [toDevice]
    split
    next falsehood => exact Bool.not_eq_true' _ ▸ falsehood
    next => rfl

theorem Parses.isNull {value stored : Value} (parses : rule.Parses value stored) : stored.isNull = value.isNull := by
  cases parses <;> rfl

theorem read_isNull (rule : PropertyRule) (value : Value) : (rule.read value).isNull = value.isNull := by
  unfold read
  split
  next => rfl
  next => exact withoutPartition_isNull value

theorem returned?_some {value : Value} (given : (rule.toDevice value).isNull = false) :
    rule.returned? (some value) = some (rule.toDevice value) := by
  rw [returned?, Option.getD_some]
  split
  next nothing =>
    rw [nothing] at given
    cases given
  next => rfl

theorem returned?_word (truth : rule.hasTruth = true) (flag : Bool) :
    rule.returned? (some (rule.wordFor true flag)) = some (rule.wordFor false flag) := by
  have word : rule.toDevice (rule.wordFor true flag) = rule.wordFor false flag := by
    cases flag <;> simp [wordFor, toDevice, truth]
  have given : (rule.toDevice (rule.wordFor true flag)).isNull = false := by
    cases flag <;> exact toDevice_flag_isNull truth _
  rw [returned?_some given, word]

theorem returned?_plain (reversible : rule.Reversible) (truthless : rule.hasTruth = false) {value : Value}
    (given : value.isNull = false) : rule.returned? (some value) = some value := by
  have same := toDevice_eq_self reversible truthless value
  rw [returned?_some (same.symm ▸ given), same]

theorem Reads.returned (reversible : rule.Reversible) {found? stored? : Option Value}
    (given : ∀ value ∈ found?, value.isNull = false) (translated : rule.Reads true found? stored?) :
    rule.Reads false found? (rule.returned? stored?) := by
  cases translated with
  | affirmed truth affirms =>
    rw [returned?_word truth]
    exact .affirmed truth affirms
  | denied truth other =>
    rw [returned?_word truth]
    exact .denied truth other
  | unsaid truth counted =>
    rw [returned?_word truth]
    exact .unsaid truth counted
  | parsed truthless parses =>
    have known := parses.isNull.trans ((rule.read_isNull _).trans (given _ rfl))
    rw [returned?_plain reversible truthless known]
    exact .parsed truthless parses
  | default silent default parses =>
    have truthless : rule.hasTruth = false := by
      rw [← Bool.not_eq_true]
      intro truth
      cases default.symm.trans (reversible.undefaulted truth)
    rw [returned?_plain reversible truthless (parses.isNull.trans (reversible.default _ default))]
    exact .default silent default parses
  | nothing silent undefaulted =>
    have quiet : (rule.hasFalsehood && !rule.skipWhenOmitted) = false := by
      cases falsehood : rule.hasFalsehood with
      | false => rfl
      | true => simpa [reversible.truth falsehood] using silent
    have nothing : rule.returned? none = none := by simp [returned?, toDevice, quiet]
    rw [nothing]
    exact .nothing silent undefaulted

end PropertyRule

namespace ItemMapper

open PropertyRule

variable {rule : PropertyRule} {translating reconciling : ItemMapper}

/-- A device item that the rules can be applied to in either direction: it has each key once, no null under the id of a
rule, and nothing yet under the head of a new id. -/
structure Suits (item : Fields) (rules : List PropertyRule) : Prop where
  unique : (Assoc.keys item).Nodup
  given : ∀ rule ∈ rules, ∀ value ∈ Assoc.get? item (.named rule.id), value.isNull = false
  fresh : ∀ newId ∈ newIds rules, .named (RenamingPass.headOf newId) ∉ Assoc.keys item

instance (item : Fields) (rules : List PropertyRule) : Decidable (Suits item rules) :=
  decidable_of_iff ((Assoc.keys item).Nodup ∧
      (∀ rule ∈ rules, ∀ value ∈ Assoc.get? item (.named rule.id), value.isNull = false) ∧
      ∀ newId ∈ newIds rules, .named (RenamingPass.headOf newId) ∉ Assoc.keys item)
    ⟨fun ⟨unique, given, fresh⟩ => ⟨unique, given, fresh⟩, fun ⟨unique, given, fresh⟩ => ⟨unique, given, fresh⟩⟩

section Modes

variable {rules : List PropertyRule} {item translated native : Fields}

theorem Suits.fresh_head (suits : Suits item rules) :
    ∀ newId ∈ newIds rules, Assoc.get? item (.named (RenamingPass.headOf newId)) = none :=
  fun newId member => Assoc.get?_eq_none_iff.mpr (suits.fresh newId member)

variable (translates : translating.translate = true) (reconciles : reconciling.translate = false)
  (separate : Separate rules) (reversible : ∀ rule ∈ rules, rule.Reversible) (suits : Suits item rules)
  (translation : translating.mapFields item rules = .ok translated)
  (reconciliation : reconciling.mapFields item rules = .ok native)

include separate reversible suits translation

theorem settled_translated_other (naming : Naming) {key : Key} (foreign : ∀ rule ∈ rules, key ≠ .named rule.id) :
    Assoc.get? (settled rules naming translated) key = Assoc.get? item key := by
  rw [get?_settled separate reversible]
  split
  next stale =>
    obtain ⟨newId, among, rfl⟩ := stale
    exact (suits.fresh_head newId among).symm
  next kept =>
    have clear : ∀ rule ∈ rules, rule.Clear [key] := fun rule member =>
      separate.clear_key foreign (fun newId among same => kept ⟨newId, among, same.symm⟩) member
    have same := get?_mapFields_clear separate clear translation
    rw [Path.get?_singleton, Path.get?_singleton] at same
    rw [get?_takeOverAll_other reversible _ foreign, same]

include translates

theorem reads_translated (member : rule ∈ rules) :
    rule.Reads true (Assoc.get? item (.named rule.id)) (rule.declaredPath.get? (.object translated)) := by
  have stored := (get?_mapFields separate member (reversible rule member).toSimple (fun _ => suits.fresh_head)
    translation).1
  rw [placeOf, if_pos translates, outcome?_eq_ok (reversible rule member).toSimple, translates] at stored
  exact stored

include reconciles reconciliation

theorem settled_translated_id (naming : Naming) (member : rule ∈ rules) :
    Assoc.get? (settled rules naming translated) (.named rule.id) = Assoc.get? native (.named rule.id) := by
  have stays : ¬∃ newId ∈ newIds rules, Key.named (RenamingPass.headOf newId) = .named rule.id := by
    rintro ⟨newId, among, same⟩
    exact separate.free newId among rule member (Key.named.inj same)
  have simple := (reversible rule member).toSimple
  have reads := reads_translated translates separate reversible suits translation member
  have returned := reads.returned (reversible rule member) (suits.given rule member)
  have stored := (get?_mapFields separate member simple (fun other => by simp [reconciles] at other) reconciliation).1
  have outcome : reconciling.outcome? rule (Assoc.get? item (.named rule.id)) = .ok _ :=
    (outcome?_eq_ok simple).mpr (reconciles ▸ returned)
  rw [placeOf, reconciles, if_neg Bool.false_ne_true, Path.get?_singleton, outcome, Except.ok.injEq] at stored
  rw [get?_settled separate reversible, if_neg stays, get?_takeOverAll separate reversible _ member, ← stored]
  cases back : rule.returned? (rule.declaredPath.get? (.object translated)) with
  | some value => rfl
  | none =>
    -- What has no outcome in the device's own names has none in translation either.
    have nothing : rule.Reads true (Assoc.get? item (.named rule.id)) none := by
      rw [back] at returned
      generalize Assoc.get? item (.named rule.id) = found? at returned ⊢
      cases returned with
      | nothing silent undefaulted => exact .nothing silent undefaulted
    rw [Option.none_or]
    exact (get?_mapFields separate member simple (fun _ => suits.fresh_head) translation).2
      ((outcome?_eq_ok simple).mpr (translates ▸ nothing))

/-- At every key the renamed translation and the item in the device's own names have the same value. -/
theorem settled_translated (naming : Naming) (key : Key) :
    Assoc.get? (settled rules naming translated) key = Assoc.get? native key := by
  by_cases ruled : ∃ rule ∈ rules, key = .named rule.id
  · obtain ⟨rule, member, rfl⟩ := ruled
    exact settled_translated_id translates reconciles separate reversible suits translation reconciliation naming member
  · have foreign : ∀ rule ∈ rules, key ≠ .named rule.id := fun rule member same => ruled ⟨rule, member, same⟩
    rw [settled_translated_other separate reversible suits translation naming foreign,
      get?_native_other reconciles separate foreign reconciliation]

end Modes

end ItemMapper

namespace Catalog

open PropertyRule

variable {catalog : Catalog} {schemaClass : String} {entry : Entry} {translating reconciling : ItemMapper}

/-- Reading an item in translation, which puts what each rule stores at its declared path, and renaming what comes out
gives the same object as reading the item in the device's own names: each key once, and the same value at each. This is so
if every rule can read what the item has for it. If a numeral has more digits than can be read, the item is read neither
way. -/
theorem directions_agree (describes : catalog.Describes schemaClass entry) (separate : Separate entry.properties)
    (reversible : ∀ rule ∈ entry.properties, rule.Reversible) {item : Fields}
    (suits : ItemMapper.Suits item entry.properties) (translates : translating.translate = true)
    (reconciles : reconciling.translate = false) (filed : Option String) :
    ((∀ rule ∈ entry.properties, rule.Legible (Assoc.get? item (.named rule.id))) →
      ∃ declared renamed native,
        translating.mapItem (.object item) entry.properties false = .ok (.object declared) ∧
        (∀ rule ∈ entry.properties,
          rule.Reads true (Assoc.get? item (.named rule.id)) (rule.declaredPath.get? (.object declared))) ∧
        catalog.renameObject schemaClass declared filed = .ok renamed ∧
        reconciling.mapItem (.object item) entry.properties false = .ok (.object native) ∧
        (Assoc.keys native).Nodup ∧ renamed.Perm native) ∧
    ((∃ rule ∈ entry.properties, ¬rule.Legible (Assoc.get? item (.named rule.id))) →
      translating.mapItem (.object item) entry.properties false = .error .unreadableText ∧
      reconciling.mapItem (.object item) entry.properties false = .error .unreadableText) := by
  have simple : ∀ rule ∈ entry.properties, rule.Simple := fun rule member => (reversible rule member).toSimple
  have mapped (mapper : ItemMapper) := ItemMapper.mapFields_succeeds_iff mapper separate simple item
  constructor
  · intro legible
    obtain ⟨declared, translation⟩ := (mapped translating).mpr legible
    obtain ⟨native, reconciliation⟩ := (mapped reconciling).mpr legible
    obtain ⟨naming, renamed⟩ := describes.renameObject_eq (fun rule member => (reversible rule member).flat) declared filed
    have unique := ItemMapper.nodup_keys_mapFields separate suits.unique translation
    have unique' := ItemMapper.nodup_keys_mapFields separate suits.unique reconciliation
    refine ⟨declared, _, native, ?_, ?_, renamed, ?_, unique', ?_⟩
    · rw [ItemMapper.mapItem_object, translation]
      rfl
    · exact fun rule member => ItemMapper.reads_translated translates separate reversible suits translation member
    · rw [ItemMapper.mapItem_object, reconciliation]
      rfl
    · exact Assoc.perm_of_get? (nodup_keys_settled reversible unique) unique'
        (ItemMapper.settled_translated translates reconciles separate reversible suits translation reconciliation naming)
  · rintro ⟨rule, member, illegible⟩
    exact ⟨ItemMapper.mapItem_illegible separate simple member illegible,
      ItemMapper.mapItem_illegible separate simple member illegible⟩

def timedProfile : Entry where
  path := "/tm/ltm/profile/timed"
  schemaClass := some "Timed_Profile"
  properties := [
    { renamed "idleTimeout" "timers.idle" with stringToInt := true },
    (renamed "closeTimeout" "timers.close").defaulting "5",
    (renamed "syslog" "logging.enabled").sentinels "enabled" "disabled",
    (renamed "reuse" "shared").trueAs "yes",
    plain "pool"]

/-- A profile with two timers, one of them omitted, and a pool in the common partition. -/
theorem directions_agree_profile :
    let item : Fields := [("name", .text "slow"), ("idleTimeout", .text "300 seconds"), ("syslog", .text "disabled"),
      ("pool", .text "/Common/web")]
    let declared : Fields := [("name", .text "slow"), ("pool", .text "web"),
      ("timers", .object [("idle", .int 300), ("close", .text "5")]), ("logging", .object [("enabled", .bool false)]),
      ("shared", .bool false)]
    let native : Fields := [("name", .text "slow"), ("idleTimeout", .int 300), ("syslog", .text "disabled"),
      ("pool", .text "web"), ("closeTimeout", .text "5"), ("reuse", .bool false)]
    Describes ⟨[timedProfile]⟩ "Timed_Profile" timedProfile ∧ Separate timedProfile.properties ∧
      (∀ rule ∈ timedProfile.properties, rule.Reversible) ∧ ItemMapper.Suits item timedProfile.properties ∧
      (∀ rule ∈ timedProfile.properties, rule.Legible (Assoc.get? item (.named rule.id))) ∧
      ({ translate := true } : ItemMapper).mapItem (.object item) timedProfile.properties false =
        .ok (.object declared) ∧
      ({ version := some [15, 1] } : ItemMapper).mapItem (.object item) timedProfile.properties false =
        .ok (.object native) ∧
      ∃ renamed, renameObject ⟨[timedProfile]⟩ "Timed_Profile" declared (some "slow") = .ok renamed ∧
        renamed.Perm native := by
  intro item declared native
  have describes : Describes ⟨[timedProfile]⟩ "Timed_Profile" timedProfile := ⟨rfl, rfl, rfl⟩
  have separate : Separate timedProfile.properties := by decide +kernel
  have reversible : ∀ rule ∈ timedProfile.properties, rule.Reversible := by decide +kernel
  have suits : ItemMapper.Suits item timedProfile.properties := by decide +kernel
  have legible : ∀ rule ∈ timedProfile.properties, rule.Legible (Assoc.get? item (.named rule.id)) := by decide +kernel
  have translated : ({ translate := true } : ItemMapper).mapItem (.object item) timedProfile.properties false =
      .ok (.object declared) := rfl
  have reconciled : ({ version := some [15, 1] } : ItemMapper).mapItem (.object item) timedProfile.properties false =
      .ok (.object native) := rfl
  have translates : ({ translate := true } : ItemMapper).translate = true := rfl
  have reconciles : ({ version := some [15, 1] } : ItemMapper).translate = false := rfl
  obtain ⟨_, renamed, _, first, _, done, second, _, same⟩ :=
    (directions_agree describes separate reversible suits translates reconciles (some "slow")).1 legible
  cases translated.symm.trans first
  cases reconciled.symm.trans second
  exact ⟨describes, separate, reversible, suits, legible, translated, reconciled, renamed, done, same⟩

def longTimed (exponent : Nat) : Fields :=
  [("idleTimeout", .text (toString (Nat.pow 10 exponent)))]

theorem longTimed_suits (exponent : Nat) : ItemMapper.Suits (longTimed exponent) timedProfile.properties where
  unique := List.nodup_singleton _
  given := by
    intro rule _ value found
    have same : value = .text (toString (Nat.pow 10 exponent)) :=
      congrArg Prod.snd (List.mem_singleton.mp (Assoc.mem_of_get? found))
    rw [same]
    rfl
  fresh := by
    have keys : Assoc.keys (longTimed exponent) = ["idleTimeout"] := rfl
    rw [keys]
    decide +kernel

theorem longTimed_illegible (exponent : Nat) (many : Text.digitLimit ≤ exponent) :
    ∃ rule ∈ timedProfile.properties, ¬rule.Legible (Assoc.get? (longTimed exponent) (.named rule.id)) := by
  refine ⟨_, List.mem_cons_self .., fun legible => ?_⟩
  have short := legible rfl _ (congrArg some (withoutPartition_toString (Nat.pow 10 exponent)))
  have long := many.trans_lt (Text.lt_length_power exponent (Nat.lt_of_lt_of_le (by decide) many))
  exact Nat.not_le.mpr long ((Text.legible_toString_iff _).mp short)

theorem mapItem_longTimed (exponent : Nat) (many : Text.digitLimit ≤ exponent) (mapper : ItemMapper) :
    mapper.mapItem (.object (longTimed exponent)) timedProfile.properties false = .error .unreadableText := by
  have separate : Separate timedProfile.properties := by decide +kernel
  have simple : ∀ rule ∈ timedProfile.properties, rule.Simple := by decide +kernel
  obtain ⟨rule, member, illegible⟩ := longTimed_illegible exponent many
  exact ItemMapper.mapItem_illegible separate simple member illegible

theorem oversized_timer_unread :
    Describes ⟨[timedProfile]⟩ "Timed_Profile" timedProfile ∧ Separate timedProfile.properties ∧
      (∀ rule ∈ timedProfile.properties, rule.Reversible) ∧
      ItemMapper.Suits (longTimed 4300) timedProfile.properties ∧
      ({ translate := true } : ItemMapper).mapItem (.object (longTimed 4300)) timedProfile.properties false =
        .error .unreadableText ∧
      ({ translate := false } : ItemMapper).mapItem (.object (longTimed 4300)) timedProfile.properties false =
        .error .unreadableText := by
  -- Under a name of its own the exponent keeps the power from being worked out.
  generalize exact : 4300 = exponent
  have many : Text.digitLimit ≤ exponent := exact ▸ by decide
  exact ⟨⟨rfl, rfl, rfl⟩, by decide +kernel, by decide +kernel, longTimed_suits exponent,
    mapItem_longTimed exponent many _, mapItem_longTimed exponent many _⟩

end Catalog

end Reconcile
