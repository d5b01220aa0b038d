import Reconcile.Observation.Gathering
import Reconcile.Proofs.Document
import Reconcile.Proofs.Result

/-!
What the answer for an entry can change. It changes the class of the entry and no other, and the references it adds
belong to that class. Only an entry without a class writes elsewhere, and only what the answer itself has.
-/

namespace Reconcile

namespace Reference

def linkIn : Value → Result (Option Link)
  | .object fields =>
    match Fields.lookup fields "link" with
    | .text address => if address = "" then .ok none else some <$> Link.ofAddress address
    | .list [] | .object [] => .ok none
    | .list _ | .object _ => .error .wrongKind
    | address => if address.truthy then .error .noFields else .ok none
  | _ => .ok none

def queryBehind (rules : List PropertyRule) (link : Link) : Query where
  path := link.path
  select := selectFor rules
  partition := none
  params := link.params

def ofLink (entry : Entry) (translate : Bool) (object : Option Key) (property : String) (rules : List PropertyRule)
    (link : Link) : Reference where
  query := queryBehind rules link
  schemaClass := entry.class?.getD ""
  object
  mergePath := entry.mergePath
  target := targetOf entry translate property
  rules

variable {entry : Entry} {translate : Bool} {object : Option Key}

theorem ofProperty_eq (property : Key) (value : Value) :
    ofProperty entry translate object property value =
      match Assoc.get? entry.references property, property with
      | some rules, .named name => Option.map (ofLink entry translate object name rules) <$> linkIn value
      | _, _ => .ok none := by
  unfold ofProperty linkIn
  cases Assoc.get? entry.references property with
  | none => rfl
  | some rules =>
    cases property with
    | named name =>
      cases value with
      | object fields =>
        dsimp only
        cases Fields.lookup fields "link" with
        | text address =>
          dsimp only
          split
          next => rfl
          next => cases Link.ofAddress address <;> rfl
        | list items => cases items <;> rfl
        | object inner => cases inner <;> rfl
        | _ => dsimp only; split <;> rfl
      | _ => rfl
    | _ => rfl

theorem ofProperty_some {property : Key} {value : Value} {reference : Reference}
    (found : ofProperty entry translate object property value = .ok (some reference)) :
    ∃ name rules link, property = .named name ∧ Assoc.get? entry.references property = some rules ∧
      linkIn value = .ok (some link) ∧ reference = ofLink entry translate object name rules link := by
  rw [ofProperty_eq] at found
  split at found
  next rules name known =>
    obtain ⟨link?, leads, same⟩ := Result.map_eq_ok.mp found
    obtain ⟨link, rfl, rfl⟩ := Option.map_eq_some_iff.mp same
    exact ⟨name, rules, link, rfl, known, leads, rfl⟩
  next => cases found

theorem mem_ofItem {item : Fields} {references : List Reference}
    (found : ofItem entry translate object item = .ok references) {reference : Reference} :
    reference ∈ references ↔ ∃ property ∈ item,
      ofProperty entry translate object property.1 property.2 = .ok (some reference) := by
  obtain ⟨all, here, done⟩ := Result.bind_eq_ok.mp found
  cases done
  rw [List.mem_filterMap]
  constructor
  · rintro ⟨reference?, inside, same⟩
    exact Result.mem_of_mapM here (some reference) (same ▸ inside)
  · rintro ⟨property, member, refers⟩
    obtain ⟨reference?, inside, same⟩ := Result.exists_of_mapM here property member
    cases refers.symm.trans same
    exact ⟨some reference, inside, rfl⟩

theorem ofItem_class {item : Fields} {references : List Reference}
    (found : ofItem entry translate object item = .ok references) :
    ∀ reference ∈ references, reference.schemaClass = entry.class?.getD "" ∧ entry.references ≠ [] := by
  intro reference member
  obtain ⟨property, _, here⟩ := (mem_ofItem found).mp member
  obtain ⟨name, rules, link, _, known, _, rfl⟩ := ofProperty_some here
  refine ⟨rfl, ?_⟩
  rintro nothing
  rw [nothing] at known
  cases known

end Reference

namespace Gatherer

theorem store_put {entry : Entry} {schemaClass : String} {name? : Option Value} {value : Value}
    {classes after : Fields} (stored : store entry schemaClass name? value classes = .ok after) :
    ∃ content, after = Assoc.put classes (.named schemaClass) content := by
  unfold store at stored
  split at stored
  next =>
    split at stored
    next => cases stored; exact ⟨_, rfl⟩
    next => cases stored
  next => cases stored; exact ⟨_, rfl⟩
  next =>
    obtain ⟨key, _, rest⟩ := Result.bind_eq_ok.mp stored
    obtain ⟨content, _, done⟩ := Result.bind_eq_ok.mp rest
    cases done
    exact ⟨_, rfl⟩

theorem store_named {entry : Entry} (plain : entry.schemaMerge = none) {schemaClass : String} {name value : Value}
    {classes after : Fields} (stored : store entry schemaClass (some name) value classes = .ok after) :
    ∃ key, name.asKey = .ok key ∧
      after = Assoc.put classes schemaClass (.object (Assoc.put (Path.inner classes schemaClass) key value)) := by
  unfold store at stored
  rw [plain] at stored
  obtain ⟨key, named, rest⟩ := Result.bind_eq_ok.mp stored
  obtain ⟨content, put, done⟩ := Result.bind_eq_ok.mp rest
  cases done
  refine ⟨key, named, ?_⟩
  unfold Path.inner
  cases found : Assoc.get? classes schemaClass with
  | none =>
    rw [found] at put
    cases put
    rfl
  | some objects =>
    rw [found] at put
    cases objects with
    | object fields =>
      cases put
      rfl
    | _ => cases put

/-- How a gathering may have grown by the answer for an entry: by the class of the entry and references from it. -/
structure Grown (entry : Entry) (schemaClass : String) (before after : Gathering) : Prop where
  classes : ∀ key : Key, key ≠ schemaClass → Assoc.get? after.classes key = Assoc.get? before.classes key
  references : ∀ reference ∈ after.references, reference ∈ before.references ∨
    reference.schemaClass = schemaClass ∧ entry.references ≠ []

theorem Grown.refl (entry : Entry) (schemaClass : String) (gathering : Gathering) :
    Grown entry schemaClass gathering gathering :=
  ⟨fun _ _ => rfl, fun _ member => .inl member⟩

theorem Grown.trans {entry : Entry} {schemaClass : String} {before between after : Gathering}
    (first : Grown entry schemaClass before between) (second : Grown entry schemaClass between after) :
    Grown entry schemaClass before after where
  classes key other := (second.classes key other).trans (first.classes key other)
  references reference member := by
    rcases second.references reference member with earlier | fresh
    · exact first.references reference earlier
    · exact .inr fresh

theorem begin_grown (entry : Entry) (schemaClass : String) (wanted : Bool) (gathering : Gathering) :
    Grown entry schemaClass gathering (begin schemaClass wanted gathering) := by
  unfold begin
  split
  next =>
    refine ⟨fun key other => ?_, fun _ member => .inl member⟩
    rw [Assoc.get?_putNew, if_neg (Ne.symm other)]
  next => exact .refl ..

variable {gatherer : Gatherer} {entry : Entry} {schemaClass : String} {before after : Gathering}

theorem grown_of_stored (own : entry.class? = some schemaClass) {name? : Option Value} {value : Value}
    {classes raw : Fields} {object : Option Key}
    (stored : store entry schemaClass name? value before.classes = .ok classes)
    (referred : gatherer.refer entry object raw classes before = .ok after) :
    Grown entry schemaClass before after ∧ after.classes = classes := by
  obtain ⟨content, rfl⟩ := store_put stored
  obtain ⟨found, all, done⟩ := Result.bind_eq_ok.mp referred
  cases done
  refine ⟨⟨fun key other => Assoc.get?_put_of_ne (Ne.symm other) _, fun reference member => ?_⟩, rfl⟩
  rcases List.mem_append.mp member with earlier | fresh
  · exact .inl earlier
  · have ⟨same, known⟩ := Reference.ofItem_class all reference fresh
    rw [own] at same
    exact .inr ⟨same, known⟩

def itemName (fields : Fields) : Value :=
  withoutPartition (Fields.lookup fields "name")

def itemValue? (gatherer : Gatherer) (entry : Entry) (schemaClass : String) (fields : Fields) :
    Result (Option Value) := do
  let shaped ← (← Shaping.raw schemaClass (.object fields)).fieldsOrFail
  let context : ShapingContext := { entry, translate := gatherer.translate, name := itemName fields }
  match ← gatherer.mapRaw entry (.object (Assoc.erase shaped "partition")) with
  | .object mapped =>
    match ← Shaping.item schemaClass context (.object (gatherer.withPlainName entry (itemName fields) mapped)) with
    | .null => return none
    | value => return some value
  | value => return some value

def keepItem (gatherer : Gatherer) (entry : Entry) (schemaClass : String) (gathering : Gathering) (fields : Fields) :
    Result Gathering := do
  match ← gatherer.itemValue? entry schemaClass fields with
  | none => return gathering
  | some value =>
    let classes ← store entry schemaClass (some (itemName fields)) value gathering.classes
    gatherer.refer entry (← objectName entry (itemName fields)) fields classes gathering

theorem takeItem_object (gatherer : Gatherer) (entry : Entry) (schemaClass : String) (gathering : Gathering)
    (fields : Fields) :
    gatherer.takeItem entry schemaClass gathering (.object fields) = (do
      if ← Observation.isIgnored entry.ignore (.object fields) then return gathering
      if !inPartition entry fields then return gathering
      if ← gatherer.isUnwanted schemaClass (itemName fields) then return gathering
      gatherer.keepItem entry schemaClass gathering fields) := by
  unfold takeItem keepItem itemValue?
  simp only [bind_assoc, Result.pure_eq_ok]
  refine bind_congr fun ignored => ite_congr rfl (fun _ => rfl) fun _ => ?_
  refine ite_congr rfl (fun _ => rfl) fun _ => ?_
  refine bind_congr fun unwanted => ite_congr rfl (fun _ => rfl) fun _ => ?_
  refine bind_congr fun raw => bind_congr fun shaped => bind_congr fun mapped => ?_
  cases mapped with
  | object fields =>
    rw [bind_assoc]
    refine bind_congr fun value => ?_
    cases value with
    | null => rfl
    | _ => rfl
  | _ => rfl

theorem keepItem_cases {fields : Fields} (kept : gatherer.keepItem entry schemaClass before fields = .ok after) :
    (gatherer.itemValue? entry schemaClass fields = .ok none ∧ after = before) ∨
      ∃ value classes object, gatherer.itemValue? entry schemaClass fields = .ok (some value) ∧
        store entry schemaClass (some (itemName fields)) value before.classes = .ok classes ∧
        gatherer.refer entry object fields classes before = .ok after := by
  obtain ⟨value?, here, rest⟩ := Result.bind_eq_ok.mp kept
  cases value? with
  | none =>
    cases rest
    exact .inl ⟨here, rfl⟩
  | some value =>
    obtain ⟨classes, stored, later⟩ := Result.bind_eq_ok.mp rest
    obtain ⟨object, _, referred⟩ := Result.bind_eq_ok.mp later
    exact .inr ⟨value, classes, object, here, stored, referred⟩

/-- What taking in a member of a collection comes to: it is passed over, or kept. -/
theorem takeItem_cases {raw : Value} (taken : gatherer.takeItem entry schemaClass before raw = .ok after) :
    ∃ fields, after = before ∨ raw = .object fields ∧
      gatherer.keepItem entry schemaClass before fields = .ok after := by
  cases raw with
  | object fields =>
    rw [takeItem_object] at taken
    obtain ⟨ignored, _, rest⟩ := Result.bind_eq_ok.mp taken
    refine ⟨fields, ?_⟩
    split at rest
    next => cases rest; exact .inl rfl
    next =>
      split at rest
      next => cases rest; exact .inl rfl
      next =>
        obtain ⟨unwanted, _, later⟩ := Result.bind_eq_ok.mp rest
        split at later
        next => cases later; exact .inl rfl
        next => exact .inr ⟨rfl, later⟩
  | _ =>
    obtain ⟨ignored, _, rest⟩ := Result.bind_eq_ok.mp taken
    split at rest
    next => cases rest; exact ⟨[], .inl rfl⟩
    next => cases rest

theorem takeItem_grown (own : entry.class? = some schemaClass) {raw : Value}
    (taken : gatherer.takeItem entry schemaClass before raw = .ok after) : Grown entry schemaClass before after := by
  obtain ⟨fields, rfl | ⟨_, kept⟩⟩ := takeItem_cases taken
  · exact .refl ..
  · rcases keepItem_cases kept with ⟨_, rfl⟩ | ⟨_, _, _, _, stored, referred⟩
    · exact .refl ..
    · exact (grown_of_stored own stored referred).1

def objectValue (gatherer : Gatherer) (entry : Entry) (schemaClass : String) (raw : Fields) (mapped : Value) :
    Result Value :=
  if mapped.isObject then
    Shaping.object schemaClass { entry, translate := gatherer.translate, name := itemName raw } mapped
  else .ok mapped

theorem takeObject_eq (gatherer : Gatherer) (entry : Entry) (schemaClass : String) (gathering : Gathering)
    (raw : Fields) :
    gatherer.takeObject entry schemaClass gathering raw = (do
      if ← Observation.isIgnored entry.ignore (.object raw) then return gathering
      let mapped ← gatherer.mapRaw entry (← Shaping.raw schemaClass (.object raw))
      let value ← gatherer.objectValue entry schemaClass raw mapped
      if value.isNull then return gathering
      gatherer.refer entry none raw (← store entry schemaClass none value gathering.classes) gathering) := by
  unfold takeObject objectValue
  refine bind_congr fun ignored => ite_congr rfl (fun _ => rfl) fun _ => ?_
  refine bind_congr fun shaped => bind_congr fun mapped => ?_
  cases mapped.isObject <;> rfl

theorem takeObject_cases {raw : Fields} (taken : gatherer.takeObject entry schemaClass before raw = .ok after) :
    after = before ∨ ∃ mapped value classes,
      (Shaping.raw schemaClass (.object raw) >>= gatherer.mapRaw entry) = .ok mapped ∧
      gatherer.objectValue entry schemaClass raw mapped = .ok value ∧
      store entry schemaClass none value before.classes = .ok classes ∧
      gatherer.refer entry none raw classes before = .ok after := by
  rw [takeObject_eq] at taken
  obtain ⟨ignored, _, rest⟩ := Result.bind_eq_ok.mp taken
  split at rest
  next => cases rest; exact .inl rfl
  next =>
    obtain ⟨shaped, first, rest⟩ := Result.bind_eq_ok.mp rest
    obtain ⟨mapped, second, rest⟩ := Result.bind_eq_ok.mp rest
    obtain ⟨value, third, rest⟩ := Result.bind_eq_ok.mp rest
    split at rest
    next => cases rest; exact .inl rfl
    next =>
      obtain ⟨classes, stored, referred⟩ := Result.bind_eq_ok.mp rest
      exact .inr ⟨mapped, value, classes, Result.bind_eq_ok.mpr ⟨shaped, first, second⟩, third, stored, referred⟩

/-- The answer for an entry changes the class of the entry and no other. -/
theorem takeAnswer_grown (own : entry.class? = some schemaClass) {answer? : Option Value}
    (taken : gatherer.takeAnswer before entry answer? = .ok after) : Grown entry schemaClass before after := by
  unfold takeAnswer at taken
  rw [own] at taken
  split at taken
  next schemaClass' none => cases none; cases taken; exact begin_grown ..
  next none => cases none
  next schemaClass' items same =>
    cases same
    refine (begin_grown entry schemaClass items.isEmpty before).trans ?_
    exact Result.foldlM_keeps (Grown entry schemaClass (begin schemaClass items.isEmpty before))
      (fun raw _ state next holds step => holds.trans (takeItem_grown own step)) (.refl ..) taken
  next schemaClass' fields same =>
    cases same
    rcases takeObject_cases taken with rfl | ⟨_, _, _, _, _, stored, referred⟩
    · exact .refl ..
    · exact (grown_of_stored own stored referred).1
  next => cases taken; exact .refl ..

theorem takeAnswer_classless (classless : entry.class? = none) {answer? : Option Value}
    (taken : gatherer.takeAnswer before entry answer? = .ok after) :
    after.references = before.references ∧ (after.classes = before.classes ∨ ∃ fields, answer? = some (.object fields) ∧
      after.classes = Assoc.putAll before.classes (Observation.stripFields true fields)) := by
  unfold takeAnswer at taken
  rw [classless] at taken
  split at taken
  next _ own => cases own
  next fields _ =>
    cases taken
    exact ⟨rfl, .inr ⟨fields, rfl, rfl⟩⟩
  next _ own => cases own
  next _ own => cases own
  next =>
    cases taken
    exact ⟨rfl, .inl rfl⟩

end Gatherer

end Reconcile
