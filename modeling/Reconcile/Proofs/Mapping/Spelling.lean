import Reconcile.Proofs.Difference.Between
import Reconcile.Proofs.Mapping.Agreement

/-!
Properties that go by the same name on both sides. Such a property is read from a device without the common partition in
front, but a declared one is taken as it is written. So an object that is declared in the device's own spelling is the
same object as the one that is read, unless a property names something in the common partition.
-/

namespace Reconcile

namespace PropertyRule

/-- A rule that says of a property what it is called, and whether it keeps the common partition. -/
structure Verbatim (rule : PropertyRule) : Prop where
  undotted : '.' ∉ rule.id.toList
  unrenamed : rule.newId? = none
  truthless : rule.hasTruth = false
  undefaulted : rule.defaultWhenOmitted = none
  unscaled : rule.multiplier? = none
  unparsed : rule.stringToInt = false
  flat : rule.transform = []
  unspliced : given? rule.dereferenceId = none
  ungated : given? rule.minVersion = none

instance (rule : PropertyRule) : Decidable rule.Verbatim :=
  decidable_of_iff ('.' ∉ rule.id.toList ∧ rule.newId? = none ∧ rule.hasTruth = false ∧
      rule.defaultWhenOmitted.isNone = true ∧ rule.multiplier? = none ∧ rule.stringToInt = false ∧
      rule.transform.isEmpty = true ∧ given? rule.dereferenceId = none ∧ given? rule.minVersion = none)
    ⟨fun ⟨undotted, unrenamed, truthless, undefaulted, unscaled, unparsed, flat, unspliced, ungated⟩ =>
        ⟨undotted, unrenamed, truthless, Option.isNone_iff_eq_none.mp undefaulted, unscaled, unparsed,
          List.isEmpty_iff.mp flat, unspliced, ungated⟩,
      fun ⟨undotted, unrenamed, truthless, undefaulted, unscaled, unparsed, flat, unspliced, ungated⟩ =>
        ⟨undotted, unrenamed, truthless, Option.isNone_iff_eq_none.mpr undefaulted, unscaled, unparsed,
          List.isEmpty_iff.mpr flat, unspliced, ungated⟩⟩

theorem Verbatim.simple {rule : PropertyRule} (verbatim : rule.Verbatim) : rule.Simple :=
  ⟨verbatim.unscaled, verbatim.flat, verbatim.ungated⟩

/-- Whether a value is read as it is declared: it does not name something in the common partition, unless the rule keeps
that, and it is not a false for which the rule has a text of its own. -/
def ReadAsDeclared (rule : PropertyRule) (value : Value) : Prop :=
  (rule.retainCommon = true ∨ ∀ rest, value ≠ .text (commonHead ++ rest)) ∧
    (value = .bool false → rule.hasFalsehood = true → rule.falsehood = .bool false)

def respelled (spelling : PropertyRule → Value → Value) (rules : List PropertyRule) (object : Fields) : Fields :=
  rules.foldl (fun object rule =>
    match Assoc.get? object (.named rule.id) with
    | some value => Assoc.put object (.named rule.id) (spelling rule value)
    | none => object) object

variable {spelling other : PropertyRule → Value → Value} {rule : PropertyRule} {rules : List PropertyRule}
  {object : Fields}

theorem respelled_cons (rule : PropertyRule) (rules : List PropertyRule) (object : Fields) :
    respelled spelling (rule :: rules) object = respelled spelling rules (respelled spelling [rule] object) := rfl

theorem keys_respelled (rules : List PropertyRule) (object : Fields) :
    Assoc.keys (respelled spelling rules object) = Assoc.keys object := by
  refine List.foldlRecOn (motive := fun fields => Assoc.keys fields = Assoc.keys object) rules _ rfl ?_
  intro fields same rule _
  split
  next value found =>
    have present : Key.named rule.id ∈ Assoc.keys fields := Assoc.mem_keys_iff.mpr (by rw [found]; rfl)
    rw [Assoc.keys_put, if_pos present, same]
  next => exact same

theorem get?_respelled_one (rule : PropertyRule) (object : Fields) (key : Key) :
    Assoc.get? (respelled spelling [rule] object) key =
      if .named rule.id = key then (Assoc.get? object key).map (spelling rule) else Assoc.get? object key := by
  rw [respelled, List.foldl_cons, List.foldl_nil]
  cases found : Assoc.get? object (.named rule.id) with
  | none =>
    dsimp only
    split
    next same => rw [← same, found, Option.map_none]
    next => rfl
  | some value =>
    dsimp only
    rw [Assoc.get?_put]
    split
    next same => rw [← same, found, Option.map_some]
    next => rfl

theorem get?_respelled_other {key : Key} (foreign : ∀ rule ∈ rules, key ≠ .named rule.id) (object : Fields) :
    Assoc.get? (respelled spelling rules object) key = Assoc.get? object key := by
  induction rules generalizing object with
  | nil => rfl
  | cons rule rest ih =>
    obtain ⟨first, others⟩ := List.forall_mem_cons.mp foreign
    rw [respelled_cons, ih others, get?_respelled_one, if_neg first.symm]

theorem get?_respelled (distinct : (rules.map id).Nodup) (member : rule ∈ rules) (object : Fields) :
    Assoc.get? (respelled spelling rules object) (.named rule.id) =
      (Assoc.get? object (.named rule.id)).map (spelling rule) := by
  induction rules generalizing object with
  | nil => cases member
  | cons first rest ih =>
    rw [List.map_cons, List.nodup_cons] at distinct
    rw [respelled_cons]
    rcases List.mem_cons.mp member with rfl | later
    · have foreign : ∀ other ∈ rest, Key.named rule.id ≠ .named other.id := fun other among same =>
        distinct.1 (Key.named.inj same ▸ List.mem_map_of_mem among)
      rw [get?_respelled_other foreign, get?_respelled_one, if_pos rfl]
    · have differ : ¬ Key.named first.id = .named rule.id := fun same =>
        distinct.1 (Key.named.inj same ▸ List.mem_map_of_mem later)
      rw [ih distinct.2 later, get?_respelled_one, if_neg differ]

theorem respelled_eq_iff (distinct : (rules.map id).Nodup) (unique : (Assoc.keys object).Nodup) :
    respelled spelling rules object = respelled other rules object ↔
      ∀ rule ∈ rules, ∀ value, Assoc.get? object (.named rule.id) = some value →
        spelling rule value = other rule value := by
  constructor
  · intro same rule member value found
    have here := congrArg (Assoc.get? · (.named rule.id)) same
    simpa only [get?_respelled distinct member, found, Option.map_some, Option.some.injEq] using here
  · intro agree
    have keys : Assoc.keys (respelled spelling rules object) = Assoc.keys (respelled other rules object) := by
      rw [keys_respelled, keys_respelled]
    refine Assoc.eq_of_get? keys (by rwa [keys_respelled]) fun key => ?_
    by_cases ruled : ∃ rule ∈ rules, key = .named rule.id
    · obtain ⟨rule, member, rfl⟩ := ruled
      rw [get?_respelled distinct member, get?_respelled distinct member]
      cases found : Assoc.get? object (.named rule.id) with
      | none => rfl
      | some value => rw [Option.map_some, Option.map_some, agree rule member value found]
    · have foreign : ∀ rule ∈ rules, key ≠ .named rule.id := fun rule member same => ruled ⟨rule, member, same⟩
      rw [get?_respelled_other foreign, get?_respelled_other foreign]

theorem toDevice_false (rule : PropertyRule) :
    rule.toDevice (.bool false) = if rule.hasFalsehood then rule.falsehood else .bool false := rfl

theorem Verbatim.toDevice_eq_self (verbatim : rule.Verbatim) {value : Value} (given : value.isNull = false)
    (other : value ≠ .bool false) : rule.toDevice value = value := by
  cases value with
  | null => cases given
  | bool flag =>
    cases flag with
    | true => simp [toDevice, verbatim.truthless]
    | false => exact absurd rfl other
  | int number => simp [toDevice, scaledDown, verbatim.unscaled]
  | _ => rfl

theorem Verbatim.toDevice_isNull (verbatim : rule.Verbatim) {value : Value} (given : value.isNull = false) :
    (rule.toDevice value).isNull = false := by
  by_cases negative : value = .bool false
  · rw [negative, toDevice_false]
    cases stated : rule.hasFalsehood with
    | true => exact (Bool.not_eq_true' _).mp stated
    | false => rfl
  · rwa [verbatim.toDevice_eq_self given negative]

/-- A value is read as it is declared unless one of the two spellings differs from the value itself. -/
theorem Verbatim.toDevice_eq_read_iff (verbatim : rule.Verbatim) {value : Value} (given : value.isNull = false) :
    rule.toDevice value = rule.read value ↔ rule.ReadAsDeclared value := by
  by_cases negative : value = .bool false
  · have partless : ∀ rest, Value.bool false ≠ .text (commonHead ++ rest) := nofun
    have same : rule.read (.bool false) = .bool false := ite_self _
    rw [negative, same, toDevice_false, ReadAsDeclared]
    cases rule.hasFalsehood <;> simp [partless]
  · rw [verbatim.toDevice_eq_self given negative, read, ReadAsDeclared]
    simp only [negative, false_implies, and_true]
    cases rule.retainCommon with
    | true => simp
    | false => simpa using eq_comm.trans (withoutPartition_eq_self_iff value)

theorem takeOverAll_verbatim (naming : Naming) (verbatim : ∀ rule ∈ rules, rule.Verbatim)
    (distinct : (rules.map id).Nodup)
    (given : ∀ rule ∈ rules, ∃ value, Assoc.get? object (.named rule.id) = some value ∧ value.isNull = false) :
    (takeOverAll rules naming object).1 = respelled toDevice rules object ∧
      (takeOverAll rules naming object).2.stale = [] := by
  suffices general : ∀ pass : RenamingPass, pass.stale = [] →
      (rules.foldl (fun state rule => rule.takeOver naming state.1 state.2) (object, pass)).1 =
          respelled toDevice rules object ∧
        (rules.foldl (fun state rule => rule.takeOver naming state.1 state.2) (object, pass)).2.stale = [] from
    general {} rfl
  induction rules generalizing object with
  | nil => exact fun pass clean => ⟨rfl, clean⟩
  | cons rule rest ih =>
    intro pass clean
    obtain ⟨first, others⟩ := List.forall_mem_cons.mp verbatim
    obtain ⟨⟨value, found, known⟩, later⟩ := List.forall_mem_cons.mp given
    rw [List.map_cons, List.nodup_cons] at distinct
    have unnamed : rule.newId? ≠ some "name" := by
      rw [first.unrenamed]
      exact nofun
    have placed : rule.declaredPath.get? (.object object) = some value := by
      rw [declaredPath_of_none first.undotted first.unrenamed, Path.get?_singleton, found]
    have step : rule.takeOver naming object pass =
        (Assoc.put object (.named rule.id) (rule.toDevice value), { pass with written := pass.written ++ [rule.id] }) := by
      rw [takeOver_eq unnamed, placed, returned?_some (first.toDevice_isNull known)]
      simp only [retiring, first.unrenamed]
    have here : respelled toDevice [rule] object = Assoc.put object (.named rule.id) (rule.toDevice value) := by
      rw [respelled, List.foldl_cons, found]
      rfl
    rw [List.foldl_cons, step, respelled_cons, here]
    refine ih others distinct.2 (fun other member => ?_) _ clean
    obtain ⟨value', found', known'⟩ := later other member
    have differ : Key.named rule.id ≠ .named other.id := fun same =>
      distinct.1 (Key.named.inj same ▸ List.mem_map_of_mem member)
    exact ⟨value', (Assoc.get?_put_of_ne differ _).trans found', known'⟩

theorem isProper_read (rule : PropertyRule) {value : Value} (proper : value.isProper = true) :
    (rule.read value).isProper = true := by
  unfold read
  split
  next => exact proper
  next => cases value <;> exact proper

theorem isProper_respelled (keeps : ∀ rule value, value.isProper = true → (spelling rule value).isProper = true)
    (rules : List PropertyRule) (proper : (Value.object object).isProper = true) :
    (Value.object (respelled spelling rules object)).isProper = true := by
  refine List.foldlRecOn (motive := fun fields : Fields => (Value.object fields).isProper = true) rules _ proper ?_
  intro fields proper rule _
  split
  next value found => exact Value.isProper_put proper _ (keeps rule value (Value.isProper_of_get? proper found))
  next => exact proper

end PropertyRule

namespace ItemMapper

open PropertyRule

variable {mapper : ItemMapper} {rule : PropertyRule} {rules : List PropertyRule}

theorem outcome?_verbatim (verbatim : rule.Verbatim) (found? : Option Value) :
    mapper.outcome? rule found? = .ok (found?.map rule.read) := by
  rw [outcome?_eq_ok verbatim.simple]
  cases found? with
  | some value => exact .parsed verbatim.truthless (.kept fun asked => by simp [verbatim.unparsed] at asked)
  | none => exact .nothing (.inl verbatim.truthless) verbatim.undefaulted

theorem applyRule_verbatim (reconciles : mapper.translate = false) (verbatim : rule.Verbatim) (fields : Fields) :
    mapper.applyRule fields rule = .ok (match Assoc.get? fields (.named rule.id) with
      | some value => Assoc.put fields (.named rule.id) (rule.read value)
      | none => fields) := by
  rw [applyRule_eq verbatim.simple, outcome?_verbatim verbatim]
  cases Assoc.get? fields (.named rule.id) with
  | none => rfl
  | some value => exact congrArg Except.ok (store_native reconciles _ fields)

theorem mapFields_verbatim (reconciles : mapper.translate = false) (verbatim : ∀ rule ∈ rules, rule.Verbatim)
    (item : Fields) : mapper.mapFields item rules = .ok (respelled PropertyRule.read rules item) :=
  (Result.foldlM_congr (fun rule member fields => applyRule_verbatim reconciles (verbatim rule member) fields) item).trans
    List.foldlM_pure

end ItemMapper

namespace Catalog

open PropertyRule

/-- Declaring an object and reading an item with the same values keep every property in its place, one in the spelling
of declarations and one in the spelling of what is read. The two are one object exactly when every value is read as it
is declared, and then nothing is to be changed. -/
theorem declared_eq_read_iff {catalog : Catalog} {schemaClass : String} {entry : Entry}
    (sole : catalog.entriesOf schemaClass = [entry]) (unmerged : entry.schemaMerge = none)
    (verbatim : ∀ rule ∈ entry.properties, rule.Verbatim) (distinct : (entry.properties.map PropertyRule.id).Nodup)
    {object : Fields} (proper : (Value.object object).isProper = true)
    (given : ∀ rule ∈ entry.properties, ∃ value,
      Assoc.get? object (.named rule.id) = some value ∧ value.isNull = false)
    {mapper : ItemMapper} (reconciles : mapper.translate = false) (filed : Option String) :
    ∃ declared native,
      catalog.renameObject schemaClass object filed = .ok declared ∧
      mapper.mapItem (.object object) entry.properties false = .ok (.object native) ∧
      Assoc.keys declared = Assoc.keys object ∧ Assoc.keys native = Assoc.keys object ∧
      (∀ rule ∈ entry.properties, ∀ value, Assoc.get? object (.named rule.id) = some value →
        Assoc.get? declared (.named rule.id) = some (rule.toDevice value) ∧
        Assoc.get? native (.named rule.id) = some (rule.read value)) ∧
      (∀ key, (∀ rule ∈ entry.properties, key ≠ .named rule.id) →
        Assoc.get? declared key = Assoc.get? object key ∧ Assoc.get? native key = Assoc.get? object key) ∧
      (declared = native ↔ ∀ rule ∈ entry.properties, ∀ value, Assoc.get? object (.named rule.id) = some value →
        rule.ReadAsDeclared value) ∧
      (declared = native → Change.between [] (.object native) (.object declared) = []) := by
  have unique := Value.nodup_of_isProper proper
  obtain ⟨naming, renamed⟩ := renameObject_eq sole unmerged (fun rule member => (verbatim rule member).flat)
    (fun rule member => .inl (verbatim rule member).unspliced) object filed
  have ⟨taken, clean⟩ := takeOverAll_verbatim naming verbatim distinct given
  have settled : PropertyRule.settled entry.properties naming object = respelled toDevice entry.properties object := by
    rw [PropertyRule.settled, RenamingPass.settle, clean, taken]
    rfl
  have read : mapper.mapItem (.object object) entry.properties false =
      .ok (.object (respelled PropertyRule.read entry.properties object)) := by
    rw [ItemMapper.mapItem_object, ItemMapper.mapFields_verbatim reconciles verbatim]
    rfl
  refine ⟨_, _, settled ▸ renamed, read, keys_respelled _ _, keys_respelled _ _, ?_, ?_, ?_, ?_⟩
  · intro rule member value found
    rw [get?_respelled distinct member, get?_respelled distinct member, found]
    exact ⟨rfl, rfl⟩
  · exact fun key foreign => ⟨get?_respelled_other foreign object, get?_respelled_other foreign object⟩
  · rw [respelled_eq_iff distinct unique]
    refine forall₂_congr fun rule member => forall₂_congr fun value found => ?_
    obtain ⟨value', found', known⟩ := given rule member
    cases found.symm.trans found'
    exact (verbatim rule member).toDevice_eq_read_iff known
  · intro same
    have readProper : (Value.object (respelled PropertyRule.read entry.properties object)).isProper = true :=
      isProper_respelled (fun rule value => isProper_read rule) _ proper
    rw [same]
    exact Change.between_eq_nil readProper readProper (Value.strictEq_self _ readProper)

def tunnel : Entry where
  path := "/tm/net/tunnels/tunnel"
  schemaClass := some "Tunnel"
  properties := [plain "profile", plain "localAddress", (plain "policy").keepingCommon]

def eastern (profile : String) : Fields :=
  [("name", .text "east"), ("profile", .text profile), ("localAddress", .text "10.0.0.1"),
    ("policy", .text "/Common/strict")]

/-- A tunnel with its profile as it is read is declared as it is read. -/
theorem declared_eq_read_iff_tunnel :
    entriesOf ⟨[tunnel]⟩ "Tunnel" = [tunnel] ∧ tunnel.schemaMerge = none ∧
      (∀ rule ∈ tunnel.properties, rule.Verbatim) ∧ (tunnel.properties.map PropertyRule.id).Nodup ∧
      (Value.object (eastern "vxlan")).isProper = true ∧
      (∀ rule ∈ tunnel.properties, ∃ value,
        Assoc.get? (eastern "vxlan") (.named rule.id) = some value ∧ value.isNull = false) ∧
      ∃ native, renameObject ⟨[tunnel]⟩ "Tunnel" (eastern "vxlan") (some "east") = .ok native ∧
        ({} : ItemMapper).mapItem (.object (eastern "vxlan")) tunnel.properties false = .ok (.object native) ∧
        Change.between [] (.object native) (.object native) = [] := by
  have given : ∀ rule ∈ tunnel.properties, ∃ value,
      Assoc.get? (eastern "vxlan") (.named rule.id) = some value ∧ value.isNull = false := by
    rintro rule (_ | ⟨_, _ | ⟨_, _ | ⟨_, ⟨⟩⟩⟩⟩) <;> exact ⟨_, rfl, rfl⟩
  have asDeclared : ∀ rule ∈ tunnel.properties, ∀ value,
      Assoc.get? (eastern "vxlan") (.named rule.id) = some value → rule.ReadAsDeclared value := by
    rintro rule (_ | ⟨_, _ | ⟨_, _ | ⟨_, ⟨⟩⟩⟩⟩) value found <;> cases found
    · exact ⟨.inr ((withoutPartition_eq_self_iff _).mp rfl), nofun⟩
    · exact ⟨.inr ((withoutPartition_eq_self_iff _).mp rfl), nofun⟩
    · exact ⟨.inl rfl, nofun⟩
  have verbatim : ∀ rule ∈ tunnel.properties, rule.Verbatim := by decide +kernel
  have distinct : (tunnel.properties.map PropertyRule.id).Nodup := by decide +kernel
  have sole : entriesOf ⟨[tunnel]⟩ "Tunnel" = [tunnel] := rfl
  have reconciles : ({} : ItemMapper).translate = false := rfl
  obtain ⟨declared, native, renamed, read, -, -, -, -, same, settled⟩ :=
    declared_eq_read_iff sole rfl verbatim distinct rfl given reconciles (some "east")
  obtain rfl := same.mpr asDeclared
  exact ⟨sole, rfl, verbatim, distinct, rfl, given, declared, renamed, read, settled rfl⟩

/-- Declared with its profile as the device has it, the tunnel is another one than the tunnel that is read. -/
theorem prefixed_profile_changed :
    entriesOf ⟨[tunnel]⟩ "Tunnel" = [tunnel] ∧ tunnel.schemaMerge = none ∧
      (∀ rule ∈ tunnel.properties, rule.Verbatim) ∧ (tunnel.properties.map PropertyRule.id).Nodup ∧
      renameObject ⟨[tunnel]⟩ "Tunnel" (eastern "/Common/vxlan") (some "east") = .ok (eastern "/Common/vxlan") ∧
      ({} : ItemMapper).mapItem (.object (eastern "/Common/vxlan")) tunnel.properties false =
        .ok (.object (eastern "vxlan")) ∧
      Change.between [] (.object (eastern "vxlan")) (.object (eastern "/Common/vxlan")) =
        [⟨["profile"], .modify (.text "vxlan") (.text "/Common/vxlan")⟩] := by
  have flat : ∀ rule ∈ tunnel.properties, rule.transform = [] := by
    rintro rule (_ | ⟨_, _ | ⟨_, _ | ⟨_, ⟨⟩⟩⟩⟩) <;> rfl
  have sole : entriesOf ⟨[tunnel]⟩ "Tunnel" = [tunnel] := rfl
  obtain ⟨naming, renamed⟩ := renameObject_eq sole rfl flat (fun rule _ => Entry.unspliced_of_selfContained rfl rule)
    (eastern "/Common/vxlan") (some "east")
  exact ⟨sole, rfl, by decide +kernel, by decide +kernel, renamed, rfl, by cbv⟩

end Catalog

end Reconcile
