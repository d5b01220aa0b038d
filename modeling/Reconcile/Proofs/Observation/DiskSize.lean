import Reconcile.Catalog.Packaged
import Reconcile.Proofs.Mapping.Passes
import Reconcile.Proofs.Observation.Gathering

/-!
The disk size that a read comes up with. It is an integer or a text, an object, or a value that the device itself
sent; so if it is a list, it is one that was sent, with each key once where the answers have each key once.
-/

namespace Reconcile

namespace Observation

theorem mem_stripItems {nameless : Bool} {items : List Value} {stripped : Value}
    (member : stripped ∈ stripItems nameless items) : ∃ item ∈ items, stripped = strip nameless item := by
  induction items with
  | nil => exact (List.not_mem_nil member).elim
  | cons item rest ih =>
    rw [stripItems] at member
    rcases List.mem_cons.mp member with same | later
    · exact ⟨item, List.mem_cons_self .., same⟩
    · obtain ⟨other, otherMember, same⟩ := ih later
      exact ⟨other, List.mem_cons_of_mem _ otherMember, same⟩

theorem mem_stripFields {nameless : Bool} {fields : Fields} {stripped : Key × Value}
    (member : stripped ∈ stripFields nameless fields) :
    ∃ entry ∈ fields, stripped = (entry.1, strip nameless entry.2) := by
  induction fields with
  | nil => exact (List.not_mem_nil member).elim
  | cons entry rest ih =>
    rw [stripFields] at member
    split at member
    next =>
      obtain ⟨other, otherMember, same⟩ := ih member
      exact ⟨other, List.mem_cons_of_mem _ otherMember, same⟩
    next =>
      rcases List.mem_cons.mp member with same | later
      · exact ⟨entry, List.mem_cons_self .., same⟩
      · obtain ⟨other, otherMember, same⟩ := ih later
        exact ⟨other, List.mem_cons_of_mem _ otherMember, same⟩

theorem keys_stripFields (nameless : Bool) (fields : Fields) :
    (Assoc.keys (stripFields nameless fields)).Sublist (Assoc.keys fields) := by
  induction fields with
  | nil => exact .slnil
  | cons entry rest ih =>
    rw [stripFields]
    split
    next => exact ih.cons _
    next => exact ih.cons_cons _

theorem isProper_strip (nameless : Bool) {value : Value} (proper : value.isProper = true) :
    (strip nameless value).isProper = true := by
  induction value using Value.byParts with
  | scalar value scalar =>
    cases value with
    | list items => cases scalar
    | object fields => cases scalar
    | _ => rfl
  | list items ih =>
    rw [Value.isProper_list] at proper
    rw [strip, Value.isProper_list]
    intro stripped member
    obtain ⟨item, itemMember, rfl⟩ := mem_stripItems member
    exact ih item itemMember (proper item itemMember)
  | object fields ih =>
    rw [Value.isProper_object] at proper
    rw [strip, Value.isProper_object]
    refine ⟨proper.1.sublist (keys_stripFields nameless fields), fun stripped member => ?_⟩
    obtain ⟨entry, entryMember, rfl⟩ := mem_stripFields member
    exact ih entry entryMember (proper.2 entry entryMember)

end Observation

/-- Whether the size in a disk, if it is a list, has each key once. -/
def FitsSize (disk? : Option Value) : Prop :=
  ∀ size, disk?.bind (·.get? "applicationData") = some size → size.isList = true → size.isProper = true

namespace Shaping

theorem isList_diskSize {value size : Value} (shaped : diskSize value = .ok size) (flat : value.isList = false) :
    size.isList = false := by
  cases value with
  | text content =>
    rw [diskSize] at shaped
    split at shaped
    next =>
      obtain ⟨number, _, same⟩ := Result.bind_eq_ok.mp shaped
      cases same
      rfl
    next => cases shaped; rfl
  | list items => cases flat
  | _ => cases shaped; rfl

theorem isList_eachObject {shape : Value → Result Value} (keeps : ∀ value shaped, shape value = .ok shaped →
      value.isList = false → shaped.isList = false) {fields : Fields} {shaped : Value}
    (done : eachObject shape (.object fields) = .ok shaped) (flat : ∀ entry ∈ fields, entry.2.isList = false) :
    ∃ final, shaped = .object final ∧ ∀ entry ∈ final, entry.2.isList = false := by
  obtain ⟨_, object, rest⟩ := Result.bind_eq_ok.mp done
  cases object
  obtain ⟨final, all, same⟩ := Result.bind_eq_ok.mp rest
  cases same
  refine ⟨final, rfl, ?_⟩
  clear done rest
  induction fields generalizing final with
  | nil =>
    cases all
    exact fun _ member => (List.not_mem_nil member).elim
  | cons entry rest ih =>
    have ⟨first, others⟩ := List.forall_mem_cons.mp flat
    rw [List.mapM_cons] at all
    obtain ⟨one, here, later⟩ := Result.bind_eq_ok.mp all
    obtain ⟨value, shapedHere, same⟩ := Result.bind_eq_ok.mp here
    cases same
    obtain ⟨tail, there, same⟩ := Result.bind_eq_ok.mp later
    cases same
    exact List.forall_mem_cons.mpr ⟨keeps _ _ shapedHere first, ih others tail there⟩

end Shaping

namespace ItemMapper

theorem isList_captured {capture content : String} {value : Value} (found : captured capture content = some value) :
    value.isList = false := by
  unfold captured at found
  split at found
  next => cases found
  next =>
    split at found
    next group _ => cases group <;> cases found <;> rfl
    next => cases found; rfl

theorem isList_pick (mapper : ItemMapper) (source : Fields) {rule : PropertyRule} {capture : String}
    (captures : given? rule.capture = some capture) (plain : rule.hasTruth = false) :
    (mapper.pick source rule).isList = false := by
  unfold pick
  rw [captures, plain]
  dsimp only
  cases Fields.lookup source ((given? rule.captureProperty).getD rule.id) with
  | text content =>
    dsimp only
    cases found : captured capture content with
    | none => rfl
    | some value =>
      have flat := isList_captured found
      cases value with
      | list items => cases flat
      | _ => rfl
  | _ => rfl

theorem isList_rebuilt (mapper : ItemMapper) (source : Fields) {rule : PropertyRule} {capture : String}
    (captures : given? rule.capture = some capture) (plain : rule.hasTruth = false) {name : Key}
    (path : Path.ofDotted (mapper.storedName rule) = [name]) :
    ∀ entry ∈ mapper.rebuilt [rule] source, entry.2.isList = false := by
  have flat := mapper.isList_pick source captures plain
  unfold rebuilt
  rw [List.foldl_cons, List.foldl_nil, path]
  cases picked : mapper.pick source rule with
  | null => exact fun _ member => (List.not_mem_nil member).elim
  | list items =>
    rw [picked] at flat
    cases flat
  | _ =>
    intro entry member
    rw [List.mem_singleton.mp member]
    rfl

def sizeRule : PropertyRule :=
  { PropertyRule.plain "applicationData" with
    capture := some "/appdata\\s+(\\d+)"
    captureProperty := some "apiAnonymous" }

def sizesRule : PropertyRule :=
  (PropertyRule.plain "apiRawValues").nested [sizeRule]

section Native

variable {mapper : ItemMapper} (native : mapper.translate = false) (mapped : Fields)

include native

theorem isList_transform (value : Value) {sizes : Fields}
    (object : mapper.transform [sizeRule] value = .object sizes) : ∀ entry ∈ sizes, entry.2.isList = false := by
  cases value with
  | object source =>
    rw [transform, Value.object.injEq] at object
    have path : Path.ofDotted (mapper.storedName sizeRule) = ["applicationData"] := by
      rw [storedName, native]
      decide
    exact object ▸ mapper.isList_rebuilt source rfl rfl path
  | _ => simp [transform] at object

theorem applyRule_sizes_eq : mapper.applyRule mapped sizesRule =
    .ok (match Assoc.get? mapped "apiRawValues" with
      | some value => Assoc.put mapped "apiRawValues"
          (if value.isContainer then mapper.transform [sizeRule] value else withoutPartition value)
      | none => mapped) := by
  have own : Key.named sizesRule.id = "apiRawValues" := rfl
  have omitted : mapper.omitted? sizesRule = .ok none := rfl
  have nested : sizesRule.transform.isEmpty = false := rfl
  have level : ¬sizesRule.upLevel ≠ 0 := by decide
  have plain (value : Value) : mapper.convert value sizesRule = .ok (withoutPartition value) := by
    rw [convert, native]
    rfl
  unfold applyRule
  rw [applies_of_ungated rfl, Result.ok_bind, if_neg (by simp)]
  simp only [own, omitted, nested, plain, store_native native, Bool.not_false, Bool.true_and, if_neg level]
  cases Assoc.get? mapped "apiRawValues" with
  | none => rfl
  | some value =>
    dsimp only
    split
    next => rfl
    next => rfl

omit native in
theorem isObject_withoutPartition {value : Value} (flat : value.isContainer = false) :
    (withoutPartition value).isObject = false := by
  cases value with
  | object fields => cases flat
  | list items => cases flat
  | _ => rfl

/-- What the rule for disk sizes makes of an item: it only changes the sizes, and if they are an object, it holds
no lists. -/
theorem applyRule_sizes {next : Fields} (done : mapper.applyRule mapped sizesRule = .ok next) :
    (∀ key : Key, key ≠ "apiRawValues" → Assoc.get? next key = Assoc.get? mapped key) ∧
      ∀ sizes, Assoc.get? next "apiRawValues" = some (.object sizes) → ∀ entry ∈ sizes, entry.2.isList = false := by
  rw [applyRule_sizes_eq native] at done
  cases done
  cases found : Assoc.get? mapped "apiRawValues" with
  | none => exact ⟨fun _ _ => rfl, fun sizes object => by rw [found] at object; cases object⟩
  | some value =>
    refine ⟨fun key other => Assoc.get?_put_of_ne (Ne.symm other) _, fun sizes object => ?_⟩
    rw [Assoc.get?_put_self, Option.some.injEq] at object
    split at object
    next => exact isList_transform native value object
    next flat =>
      have none := isObject_withoutPartition (Bool.eq_false_iff.mpr flat)
      rw [object] at none
      cases none

end Native

end ItemMapper

theorem FitsSize.of_proper {disk? : Option Value} (proper : ∀ disk, disk? = some disk → disk.isProper = true) :
    FitsSize disk? := by
  intro size found _
  obtain ⟨disk, rfl, inside⟩ := Option.bind_eq_some_iff.mp found
  cases disk with
  | object fields => exact Value.isProper_of_get? (proper _ rfl) inside
  | _ => cases inside

theorem FitsSize.of_flat {fields : Fields} (flat : ∀ entry ∈ fields, entry.2.isList = false) :
    FitsSize (some (.object fields)) := by
  intro size found list
  rw [flat _ (Assoc.mem_of_get? found)] at list
  cases list

theorem FitsSize.isProper {disk? : Option Value} (fits : FitsSize disk?) {size : Value}
    (read : ((disk?.getD .null).orElse .empty).field "applicationData" = .ok size) (list : size.isList = true) :
    size.isProper = true := by
  have nothing : ∀ fields : Fields, Assoc.get? fields "applicationData" = none →
      (Fields.lookup fields "applicationData").isList = false := by
    intro fields absent
    rw [Fields.lookup, absent]
    rfl
  obtain ⟨fields, object, done⟩ := Result.bind_eq_ok.mp read
  cases done
  cases found : Assoc.get? fields "applicationData" with
  | none =>
    rw [nothing fields found] at list
    cases list
  | some value =>
    cases given : (disk?.getD .null).truthy with
    | false =>
      rw [Value.orElse, given] at object
      cases object
      cases found
    | true =>
      rw [Value.orElse, if_pos given] at object
      cases disk? with
      | none => cases given
      | some disk =>
        rw [Option.getD_some] at object
        cases disk with
        | object inside =>
          cases object
          rw [Fields.lookup, found, Option.getD_some] at list ⊢
          exact fits value found list
        | _ => cases object

namespace Gatherer

variable {gatherer : Gatherer} {before after : Gathering}

theorem begin_fits (wanted : Bool) (fits : FitsSize (Assoc.get? before.classes "Disk")) :
    FitsSize (Assoc.get? (begin "Disk" wanted before).classes "Disk") := by
  unfold begin
  split
  next =>
    rw [Assoc.get?_putNew, if_pos rfl]
    cases found : Assoc.get? before.classes "Disk" with
    | none => exact .of_flat fun _ member => (List.not_mem_nil member).elim
    | some disk => exact found ▸ fits
  next => exact fits

theorem isList_itemValue? {fields : Fields} {value : Value}
    (shaped : gatherer.itemValue? Packaged.disk "Disk" fields = .ok (some value)) : value.isList = false := by
  unfold itemValue? at shaped
  obtain ⟨_, _, rest⟩ := Result.bind_eq_ok.mp shaped
  obtain ⟨_, _, rest⟩ := Result.bind_eq_ok.mp rest
  obtain ⟨mapped, here, rest⟩ := Result.bind_eq_ok.mp rest
  obtain ⟨_, _, here⟩ := Result.bind_eq_ok.mp here
  obtain ⟨_, _, object⟩ := Result.bind_eq_ok.mp here
  cases object
  cases rest
  rfl

theorem takeItem_fits {raw : Value} (fits : FitsSize (Assoc.get? before.classes "Disk"))
    (taken : gatherer.takeItem Packaged.disk "Disk" before raw = .ok after) :
    FitsSize (Assoc.get? after.classes "Disk") := by
  obtain ⟨fields, rfl | ⟨_, kept⟩⟩ := takeItem_cases taken
  · exact fits
  · rcases keepItem_cases kept with ⟨_, rfl⟩ | ⟨value, classes, _, shaped, stored, referred⟩
    · exact fits
    · obtain ⟨key, _, same⟩ := store_named rfl stored
      rw [(grown_of_stored rfl stored referred).2, same, Assoc.get?_put_self]
      intro size found list
      rw [Option.bind_some, Value.get?, Assoc.get?_put] at found
      split at found
      next =>
        rw [← Option.some.inj found, isList_itemValue? shaped] at list
        cases list
      next =>
        rw [Path.inner_eq_inside, Path.get?_inside] at found
        exact fits size found list

theorem takeObject_fits (native : gatherer.mapper.translate = false) {raw : Fields}
    (proper : (Value.object raw).isProper = true) (fits : FitsSize (Assoc.get? before.classes "Disk"))
    (taken : gatherer.takeObject Packaged.disk "Disk" before raw = .ok after) :
    FitsSize (Assoc.get? after.classes "Disk") := by
  rcases takeObject_cases taken with rfl | ⟨mapped, value, classes, mapping, shaped, stored, referred⟩
  · exact fits
  obtain ⟨ruled, applied, rfl⟩ : ∃ ruled, gatherer.mapper.applyRule (Observation.stripFields true raw)
      ItemMapper.sizesRule = .ok ruled ∧ mapped = .object ruled := by
    obtain ⟨_, run, object⟩ := Result.map_eq_ok.mp
      ((ItemMapper.mapItem_object _ _ Packaged.disk.properties).symm.trans mapping)
    cases object
    obtain ⟨next, applied, last⟩ := Result.bind_eq_ok.mp run
    cases last
    exact ⟨_, applied, rfl⟩
  have clean : (Value.object (Observation.stripFields true raw)).isProper = true :=
    Observation.isProper_strip true proper
  obtain ⟨others, sizes⟩ := ItemMapper.applyRule_sizes native _ applied
  obtain rfl : classes = Assoc.put before.classes "Disk" value := by
    cases stored
    rfl
  rw [(grown_of_stored rfl stored referred).2, Assoc.get?_put_self]
  obtain ⟨fields, object, rest⟩ := Result.bind_eq_ok.mp shaped
  cases object
  split at rest
  next found =>
    obtain ⟨final, rfl, flat⟩ := Shaping.isList_eachObject (fun _ _ => Shaping.isList_diskSize) rest (sizes _ found)
    exact .of_flat flat
  next =>
    cases rest
    intro size found _
    rw [Option.bind_some, Value.get?, others "applicationData" (by decide)] at found
    exact Value.isProper_of_get? clean found

theorem takeAnswer_fits (native : gatherer.mapper.translate = false) {answered : Entry × Option Value}
    (only : answered.1.class? = some "Disk" → answered.1 = Packaged.disk)
    (proper : ∀ value, answered.2 = some value → value.isProper = true)
    (fits : FitsSize (Assoc.get? before.classes "Disk"))
    (taken : gatherer.takeAnswer before answered.1 answered.2 = .ok after) :
    FitsSize (Assoc.get? after.classes "Disk") := by
  obtain ⟨entry, answer?⟩ := answered
  cases own : entry.class? with
  | none =>
    rcases (takeAnswer_classless own taken).2 with same | ⟨fields, answer, same⟩
    · exact same ▸ fits
    · rw [same]
      have clean : (Value.object (Observation.stripFields true fields)).isProper = true :=
        Observation.isProper_strip true (proper _ answer)
      cases found : Assoc.get? (Assoc.putAll before.classes (Observation.stripFields true fields)) "Disk" with
      | none => exact fun _ absent => by cases absent
      | some disk =>
        rcases Assoc.get?_putAll_cases found with fresh | earlier
        · exact .of_proper fun other here => Option.some.inj here ▸ (Value.isProper_object.mp clean).2 _ fresh
        · exact earlier ▸ fits
  | some schemaClass =>
    by_cases disk : schemaClass = "Disk"
    · subst disk
      obtain rfl : entry = Packaged.disk := only own
      cases answer? with
      | none =>
        cases taken
        exact begin_fits _ fits
      | some answer =>
        cases answer with
        | list items =>
          exact Result.foldlM_keeps (fun state => FitsSize (Assoc.get? state.classes (.named "Disk")))
            (fun raw _ state next holds step => takeItem_fits holds step) (begin_fits items.isEmpty fits) taken
        | object fields => exact takeObject_fits native (proper _ rfl) fits taken
        | _ => cases taken; exact fits
    · have differ : Key.named "Disk" ≠ schemaClass := fun same => disk (Key.named.inj same).symm
      rw [(takeAnswer_grown own taken).classes _ differ]
      exact fits

end Gatherer

end Reconcile
