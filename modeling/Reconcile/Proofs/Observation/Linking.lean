import Reconcile.Proofs.Mapping.Passes
import Reconcile.Proofs.Observation.Joining
import Reconcile.Proofs.Observation.Unlinking

/-!
Collections that objects refer to. Splicing in what the items of a class refer to changes the objects of that class and
nothing else, so a read comes to the read without links with these collections attached afterwards, unless an element of
a collection has a numeral of more digits than can be read. As no two links lead to the same target of the same object,
each object ends up with what its own item links to.
-/

namespace Reconcile

/-- An object with a field written; what is no object stays as it is. -/
def Value.assign (key : Key) (field : Value) : Value → Value
  | .object fields => .object (Assoc.put fields key field)
  | value => value

namespace Path

theorem put_adjust {key head : Key} (differ : key ≠ head) (rest : Path) (value : Value) (fields : Fields)
    (change : Value → Value) :
    put (head :: rest) value (Assoc.adjust fields key change) =
      Assoc.adjust (put (head :: rest) value fields) key change := by
  cases rest with
  | nil => exact Assoc.put_adjust differ fields change value
  | cons next rest =>
    have same : inner (Assoc.adjust fields key change) head = inner fields head := by
      rw [inner_eq_inside, Assoc.get?_adjust, if_neg differ, ← inner_eq_inside]
    rw [put, same]
    exact Assoc.put_adjust differ fields change _

theorem get?_adjust (key : Key) (rest : Path) (fields : Fields) (change : Value → Value) :
    get? (key :: rest) (.object (Assoc.adjust fields key change)) =
      (Assoc.get? fields key).bind fun value => get? rest (change value) := by
  rw [get?_cons_object, Assoc.get?_adjust, if_pos rfl]
  cases Assoc.get? fields key <;> rfl

end Path

namespace Reference

def sent? (element : Fields) (key : Key) : Option Value :=
  if Observation.isBookkeeping false key then none else (Assoc.get? element key).map (Observation.strip false)

/-- An element of a collection as the rules of a reference store it. Rules that do not share a place each store what they
read under their id, and leave the rest of the element as it is. -/
structure Stores (mapper : ItemMapper) (rules : List PropertyRule) (element stored : Fields) : Prop where
  mapped : mapper.mapFields (Observation.stripFields false element) rules = .ok stored
  ruled : PropertyRule.Separate rules →
    (mapper.translate = true → ∀ newId ∈ PropertyRule.newIds rules,
      sent? element (.named (RenamingPass.headOf newId)) = none) →
    ∀ rule ∈ rules, rule.Simple →
      rule.Reads mapper.translate (sent? element (.named rule.id)) ((mapper.placeOf rule).get? (.object stored))
  others : PropertyRule.Separate rules → ∀ key, (∀ rule ∈ rules, key ≠ .named rule.id) →
    (mapper.translate = true → ∀ newId ∈ PropertyRule.newIds rules, key ≠ .named (RenamingPass.headOf newId)) →
    Assoc.get? stored key = sent? element key

def collected (device : Device) (mapper : ItemMapper) (reference : Reference) : Value :=
  match reference.fetched device >>= reference.mapped mapper with
  | .ok (some value) => value
  | _ => .null

def Maps (device : Device) (mapper : ItemMapper) (reference : Reference) : Prop :=
  ∃ value, reference.fetched device >>= reference.mapped mapper = .ok (some value)

def Held (reference : Reference) (classes : Fields) : Prop :=
  ∃ name, reference.object = some name ∧ Path.HasObject [.named reference.schemaClass, name] (.object classes)

def attached (device : Device) (mapper : ItemMapper) (content : Value) (reference : Reference) : Value :=
  match content, reference.object with
  | .object objects, some name =>
    .object (Assoc.adjust objects name (Value.assign reference.target (reference.collected device mapper)))
  | content, _ => content

def attachAll (device : Device) (mapper : ItemMapper) (references : List Reference) (content : Value) : Value :=
  references.foldl (attached device mapper) content

/-- References from an object of a class to a list of objects that can be read. -/
structure Attaches (device : Device) (schemaClass : String) (reference : Reference) : Prop where
  own : reference.schemaClass = schemaClass
  named : ∃ name, reference.object = some name
  whole : reference.mergePath = []
  listed : ∃ elements : List Fields, device.answer reference.query = .ok (.list (elements.map .object))

/-- What comes of splicing collections in, beside what comes of leaving them out: they are attached to the objects that
refer to them, or one of them cannot be stored. -/
inductive Splicing (device : Device) (mapper : ItemMapper) (schemaClass : String) (references : List Reference)
    (bare : Result Fields) : Result Fields → Prop
  | attached (maps : ∀ classes, bare = .ok classes → ∀ reference ∈ references, reference.Held classes →
      reference.Maps device mapper) :
      Splicing device mapper schemaClass references bare
        ((Assoc.adjust · schemaClass (attachAll device mapper references)) <$> bare)
  | unmapped {reference : Reference} (member : reference ∈ references) (fails : ¬reference.Maps device mapper) :
      Splicing device mapper schemaClass references bare (.error .unreadableText)

variable {device : Device} {mapper : ItemMapper} {reference : Reference} {schemaClass : String} {classes : Fields}

section Elements

variable {rules : List PropertyRule} {element stored : Fields}

theorem stores_of_mapFields (done : mapper.mapFields (Observation.stripFields false element) rules = .ok stored) :
    Stores mapper rules element stored where
  mapped := done
  ruled separate fresh rule member simple := by
    have sent (key : Key) : sent? element key = Assoc.get? (Observation.stripFields false element) key :=
      (Observation.get?_stripFields false element key).symm
    simp only [sent] at fresh ⊢
    exact (ItemMapper.outcome?_eq_ok simple).mp (ItemMapper.get?_mapFields separate member simple fresh done).1
  others separate key foreign fresh :=
    (ItemMapper.get?_mapFields_other separate foreign fresh done).trans (Observation.get?_stripFields false element key)

/-- An element can be stored exactly when every rule can read what it finds there. -/
theorem exists_stores_iff (separate : PropertyRule.Separate rules) (simple : ∀ rule ∈ rules, rule.Simple) :
    (∃ stored, Stores mapper rules element stored) ↔ ∀ rule ∈ rules, rule.Legible (sent? element (.named rule.id)) := by
  simp only [sent?, ← Observation.get?_stripFields]
  rw [← ItemMapper.mapFields_succeeds_iff mapper separate simple]
  exact exists_congr fun stored => ⟨Stores.mapped, stores_of_mapFields⟩

end Elements

section Listed

variable {elements : List Fields} (listed : device.answer reference.query = .ok (.list (elements.map .object)))

theorem mapped_objects (mapper : ItemMapper) (reference : Reference) (elements : List Fields) :
    reference.mapped mapper (.list (elements.map .object)) =
      (fun stored : List Fields => some (.list (stored.map .object))) <$>
        elements.mapM fun element => mapper.mapFields (Observation.stripFields false element) reference.rules := by
  have each : (elements.map Value.object).mapM
      (fun item => mapper.mapItem (Observation.strip false item) reference.rules false) =
        List.map Value.object <$> elements.mapM fun element =>
          mapper.mapFields (Observation.stripFields false element) reference.rules := by
    rw [List.mapM_map, ← Result.mapM_map]
    exact congrArg (fun step => List.mapM step elements) (funext fun element => mapper.mapItem_object _ _)
  rw [mapped, each]
  cases elements.mapM fun element =>
    mapper.mapFields (Observation.stripFields false element) reference.rules <;> rfl

include listed

theorem fetched_mapped_eq :
    reference.fetched device >>= reference.mapped mapper = reference.mapped mapper (.list (elements.map .object)) := by
  rw [fetched, listed]
  rfl

theorem Maps.collected_eq (maps : reference.Maps device mapper) :
    ∃ stored, List.Forall₂ (Stores mapper reference.rules) elements stored ∧
      reference.collected device mapper = .list (stored.map .object) := by
  obtain ⟨value, found⟩ := maps
  have collected : reference.collected device mapper = value := by rw [collected, found]
  rw [fetched_mapped_eq listed, mapped_objects] at found
  obtain ⟨stored, run, same⟩ := Result.map_eq_ok.mp found
  refine ⟨stored, (Result.mapM_eq_ok.mp run).imp fun _ _ => stores_of_mapFields, ?_⟩
  rw [collected, ← Option.some.inj same]

theorem Maps.mapped_eq (maps : reference.Maps device mapper) :
    reference.mapped mapper (.list (elements.map .object)) = .ok (some (reference.collected device mapper)) := by
  obtain ⟨value, found⟩ := maps
  rw [← fetched_mapped_eq listed, collected, found]

theorem mapped_of_not_maps (fails : ¬reference.Maps device mapper) :
    reference.mapped mapper (.list (elements.map .object)) = .error .unreadableText ∧
      ∃ element ∈ elements, ∀ stored, ¬Stores mapper reference.rules element stored := by
  rw [Maps, fetched_mapped_eq listed, mapped_objects] at fails
  have failed : ¬Result.Succeeds (elements.mapM fun element =>
      mapper.mapFields (Observation.stripFields false element) reference.rules) := by
    rintro ⟨stored, run⟩
    exact fails ⟨_, by rw [run, Result.map_ok]⟩
  constructor
  · rw [mapped_objects, (Result.FailsOnly.mapM fun element _ => mapper.mapFields_failsOnly _ _).eq_error failed]
    rfl
  · by_contra each
    refine failed (Result.Succeeds.mapM fun element member => ?_)
    by_contra unmapped
    exact each ⟨element, member, fun stored stores => unmapped ⟨stored, stores.mapped⟩⟩

end Listed

theorem joinedTo_eq {result found : Value} (mapped : reference.mapped mapper result = .ok (some found))
    (value : Value) :
    reference.joinedTo mapper result value = .ok (Value.assign reference.target found value) := by
  cases value with
  | object fields => rw [joinedTo, mapped]; rfl
  | _ => rfl

theorem spliced_of_not_held {name : Key} (named : reference.object = some name) (whole : reference.mergePath = [])
    (absent : ¬reference.Held classes) (result : Value) : reference.spliced mapper result classes = .ok classes := by
  unfold spliced
  dsimp only
  split
  next fields there =>
    refine absurd ⟨name, named, ?_⟩ absent
    simp only [place, named, whole] at there
    cases found : Assoc.get? classes reference.schemaClass with
    | none => simp [found, Path.get?_singleton] at there
    | some content =>
      cases content with
      | object objects =>
        rw [found] at there
        exact ⟨fields, there⟩
      | _ => simp [found, Path.get?_singleton] at there
  next => rfl

theorem adjust_of_not_held (device : Device) (mapper : ItemMapper) (absent : ¬reference.Held classes) :
    Assoc.adjust classes reference.schemaClass (attached device mapper · reference) = classes := by
  refine Assoc.adjust_eq_self fun content found => ?_
  cases content with
  | object objects =>
    cases named : reference.object with
    | none => simp only [attached, named]
    | some name =>
      simp only [attached, named]
      refine congrArg Value.object (Assoc.adjust_eq_self fun value inside => ?_)
      cases value with
      | object fields =>
        refine absurd ⟨name, named, fields, ?_⟩ absent
        rw [Path.get?_cons_object, found, Option.bind_some, Path.get?_one]
        exact inside
      | _ => rfl
  | _ => rfl

section Holding

variable {name : Key} {objects fields : Fields} (named : reference.object = some name)
  (here : Assoc.get? classes reference.schemaClass = some (.object objects))
  (there : Assoc.get? objects name = some (.object fields))

theorem Held.found (held : reference.Held classes) : ∃ name objects fields, reference.object = some name ∧
    Assoc.get? classes reference.schemaClass = some (.object objects) ∧
    Assoc.get? objects name = some (.object fields) := by
  obtain ⟨name, named, fields, there⟩ := held
  rw [Path.get?_cons_object] at there
  obtain ⟨content, here, there⟩ := Option.bind_eq_some_iff.mp there
  rw [Path.get?_one] at there
  cases content with
  | object objects => exact ⟨name, objects, fields, named, here, there⟩
  | _ => cases there

include named here there

theorem spliced_of_found (whole : reference.mergePath = []) (result : Value) :
    reference.spliced mapper result classes =
      (fun value => Assoc.put classes reference.schemaClass (.object (Assoc.put objects name value))) <$>
        reference.joinedTo mapper result (.object fields) := by
  have inside : Path.inner classes reference.schemaClass = objects := by
    rw [Path.inner_eq_inside, here]
    rfl
  rw [spliced_eq named whole _ (by rw [Gatherer.Open, inside, here]; rfl), inside, there]

theorem adjust_of_found (device : Device) (mapper : ItemMapper) :
    Assoc.adjust classes reference.schemaClass (attached device mapper · reference) =
      Assoc.put classes reference.schemaClass (.object (Assoc.put objects name
        (Value.assign reference.target (reference.collected device mapper) (.object fields)))) := by
  rw [Assoc.adjust_eq, here]
  simp only [attached, named]
  rw [Assoc.adjust_eq, there]

end Holding

/-- Splicing in a collection that an object refers to changes nothing but that object. -/
theorem resolvedIn_splicing (mapper : ItemMapper) (attaches : reference.Attaches device schemaClass) (classes : Fields) :
    Splicing device mapper schemaClass [reference] (.ok classes) (resolvedIn device mapper classes reference) := by
  obtain ⟨rfl, ⟨name, named⟩, whole, elements, listed⟩ := attaches
  have fetches : reference.fetched device = .ok (.list (elements.map .object)) := by rw [fetched, listed]
  have once : attachAll device mapper [reference] = (attached device mapper · reference) := rfl
  have attaching (maps : reference.Held classes → reference.Maps device mapper) :
      Splicing device mapper reference.schemaClass [reference] (.ok classes)
        (.ok (Assoc.adjust classes reference.schemaClass (attached device mapper · reference))) := by
    rw [← once]
    refine .attached fun _ done other member held => ?_
    cases done
    cases List.mem_singleton.mp member
    exact maps held
  rw [resolvedIn, fetches, Result.ok_bind]
  by_cases held : reference.Held classes
  · obtain ⟨name, objects, fields, named, here, there⟩ := held.found
    rw [spliced_of_found named here there whole]
    by_cases maps : reference.Maps device mapper
    · rw [joinedTo_eq (maps.mapped_eq listed), Result.map_ok, ← adjust_of_found named here there]
      exact attaching fun _ => maps
    · rw [joinedTo, (mapped_of_not_maps listed maps).1]
      exact .unmapped (List.mem_singleton_self _) maps
  · rw [spliced_of_not_held named whole held]
    have splicing := attaching fun there => absurd there held
    rwa [adjust_of_not_held device mapper held] at splicing

theorem resolvedIn_adjust (other : reference.schemaClass ≠ schemaClass) (classes : Fields) (change : Value → Value) :
    resolvedIn device mapper (Assoc.adjust classes schemaClass change) reference =
      (Assoc.adjust · (.named schemaClass) change) <$> resolvedIn device mapper classes reference := by
  have differ : Key.named schemaClass ≠ reference.schemaClass := fun same => other (Key.named.inj same).symm
  have place_eq : reference.place (Assoc.adjust classes schemaClass change) = reference.place classes := by
    unfold place
    dsimp only
    rw [Assoc.get?_adjust, if_neg differ]
  obtain ⟨rest, place_cons⟩ : ∃ rest, reference.place classes = .named reference.schemaClass :: rest := ⟨_, rfl⟩
  unfold resolvedIn spliced
  rw [map_bind, place_eq, place_cons]
  refine bind_congr fun result => ?_
  dsimp only
  rw [Path.get?_cons_object, Assoc.get?_adjust, if_neg differ, ← Path.get?_cons_object]
  split
  next =>
    rw [map_bind]
    refine bind_congr fun value? => ?_
    cases value? with
    | none => rfl
    | some value => exact congrArg Except.ok (Path.put_adjust differ _ value classes change)
  next => rfl

theorem get?_attached (content : Value) (name : Key) :
    (attached device mapper content reference).get? name =
      if reference.object = some name then
        (content.get? name).map (Value.assign reference.target (reference.collected device mapper))
      else content.get? name := by
  cases content with
  | object objects =>
    cases named : reference.object with
    | none => simp [attached, named]
    | some name' => simp [attached, named, Value.get?, Assoc.get?_adjust]
  | _ => simp [attached, Value.get?]

theorem keys_attached (content : Value) :
    Assoc.keys (Path.inside (some (attached device mapper content reference))) =
      Assoc.keys (Path.inside (some content)) := by
  cases content with
  | object objects =>
    cases named : reference.object with
    | none => simp [attached, named]
    | some name =>
      simp only [attached, named]
      exact Assoc.keys_adjust objects name _
  | _ => rfl

theorem hasObject_attached (content : Value) (name : Key) :
    Path.HasObject [name] (attached device mapper content reference) ↔ Path.HasObject [name] content := by
  unfold Path.HasObject
  rw [Path.get?_one, Path.get?_one, get?_attached]
  split
  next =>
    cases content.get? name with
    | none => simp
    | some value => cases value <;> simp [Value.assign]
  next => rfl

theorem attached_elsewhere {name key : Key} (elsewhere : ¬(reference.object = some name ∧ reference.target = key))
    (content : Value) :
    Path.get? [name, key] (attached device mapper content reference) = Path.get? [name, key] content := by
  rw [Path.get?_two, Path.get?_two, get?_attached]
  split
  next named =>
    have differ : reference.target ≠ key := fun same => elsewhere ⟨named, same⟩
    cases content.get? name with
    | none => rfl
    | some value =>
      cases value with
      | object fields => exact Assoc.get?_put_of_ne differ _
      | _ => rfl
  next => rfl

theorem attached_here {name : Key} (named : reference.object = some name) {content : Value}
    (there : Path.HasObject [name] content) :
    Path.get? [name, reference.target] (attached device mapper content reference) =
      some (reference.collected device mapper) := by
  obtain ⟨fields, there⟩ := there
  rw [Path.get?_one] at there
  rw [Path.get?_two, get?_attached, if_pos named, there]
  exact Assoc.get?_put_self fields reference.target _

variable {references : List Reference} {content : Value} {name : Key}

theorem keys_attachAll (references : List Reference) (content : Value) :
    Assoc.keys (Path.inside (some (attachAll device mapper references content))) =
      Assoc.keys (Path.inside (some content)) :=
  List.foldlRecOn
    (motive := fun state => Assoc.keys (Path.inside (some state)) = Assoc.keys (Path.inside (some content)))
    references _ rfl fun _ same _ _ => (keys_attached _).trans same

theorem hasObject_attachAll (references : List Reference) (content : Value) (name : Key) :
    Path.HasObject [name] (attachAll device mapper references content) ↔ Path.HasObject [name] content :=
  List.foldlRecOn (motive := fun state => Path.HasObject [name] state ↔ Path.HasObject [name] content) references _
    Iff.rfl fun _ same _ _ => (hasObject_attached _ name).trans same

theorem attachAll_elsewhere {key : Key}
    (elsewhere : ∀ reference ∈ references, ¬(reference.object = some name ∧ reference.target = key)) :
    Path.get? [name, key] (attachAll device mapper references content) = Path.get? [name, key] content :=
  List.foldlRecOn (motive := fun state => Path.get? [name, key] state = Path.get? [name, key] content) references _ rfl
    fun _ same reference member => (attached_elsewhere (elsewhere reference member) _).trans same

theorem attachAll_here (member : reference ∈ references) (named : reference.object = some name)
    (alone : ∀ other ∈ references, other.object = some name → other.target = reference.target → other = reference)
    (there : Path.HasObject [name] content) :
    Path.get? [name, reference.target] (attachAll device mapper references content) =
      some (reference.collected device mapper) := by
  obtain ⟨front, back, rfl⟩ := List.append_of_mem member
  rw [attachAll, List.foldl_append, List.foldl_cons]
  have before : Path.HasObject [name] (attachAll device mapper front content) :=
    (hasObject_attachAll front content name).mpr there
  -- The object stays there, and so does the collection: what comes after goes elsewhere or is the same.
  refine (List.foldlRecOn (motive := fun state => Path.HasObject [name] state ∧
      Path.get? [name, reference.target] state = some (reference.collected device mapper)) back _
    ⟨(hasObject_attached _ name).mpr before, attached_here named before⟩ ?_).2
  intro state ⟨object, holds⟩ other later
  refine ⟨(hasObject_attached _ name).mpr object, ?_⟩
  by_cases same : other.object = some name ∧ other.target = reference.target
  · rw [alone other (by simp [later]) same.1 same.2]
    exact attached_here named object
  · rw [attached_elsewhere same, holds]

theorem held_adjust {other : Reference} (own : other.schemaClass = schemaClass) (classes : Fields) :
    other.Held (Assoc.adjust classes schemaClass (attached device mapper · reference)) ↔ other.Held classes := by
  subst own
  refine exists_congr fun name => and_congr_right fun _ => ?_
  unfold Path.HasObject
  rw [Path.get?_adjust, Path.get?_cons_object]
  cases Assoc.get? classes (.named other.schemaClass) with
  | none => rfl
  | some content => exact hasObject_attached content name

theorem resolvedIn_foldlM (attaches : ∀ reference ∈ references, reference.Attaches device schemaClass)
    (classes : Fields) :
    Splicing device mapper schemaClass references (.ok classes)
      (references.foldlM (resolvedIn device mapper) classes) := by
  induction references generalizing classes with
  | nil =>
    have idle : Assoc.adjust classes schemaClass (attachAll device mapper []) = classes :=
      Assoc.adjust_eq_self fun _ _ => rfl
    have splicing : Splicing device mapper schemaClass [] (.ok classes) _ :=
      .attached fun _ _ _ member => (List.not_mem_nil member).elim
    rwa [Result.map_ok, idle] at splicing
  | cons reference rest ih =>
    obtain ⟨first, others⟩ := List.forall_mem_cons.mp attaches
    rw [List.foldlM_cons]
    have here := resolvedIn_splicing mapper first classes
    generalize resolvedIn device mapper classes reference = outcome at here ⊢
    cases here with
    | unmapped member fails => exact .unmapped (List.mem_singleton.mp member ▸ List.mem_cons_self ..) fails
    | attached maps =>
      have later := ih others (Assoc.adjust classes schemaClass (attached device mapper · reference))
      change Splicing device mapper schemaClass _ _ (rest.foldlM (resolvedIn device mapper)
        (Assoc.adjust classes schemaClass (attached device mapper · reference)))
      generalize rest.foldlM (resolvedIn device mapper)
        (Assoc.adjust classes schemaClass (attached device mapper · reference)) = outcome at later ⊢
      cases later with
      | unmapped member fails => exact .unmapped (List.mem_cons_of_mem _ member) fails
      | attached maps' =>
        rw [Result.map_ok, Assoc.adjust_adjust]
        refine .attached fun state done other member held => ?_
        cases done
        rcases List.mem_cons.mp member with rfl | among
        · exact maps _ rfl _ (List.mem_singleton_self _) held
        · exact maps' _ rfl other among ((held_adjust (others other among).own classes).mpr held)

theorem Splicing.bind {bare spliced : Result Fields} (splicing : Splicing device mapper schemaClass references bare spliced)
    (own : ∀ reference ∈ references, reference.schemaClass = schemaClass) {next : Fields → Result Fields}
    (commutes : ∀ classes change, next (Assoc.adjust classes (.named schemaClass) change) =
      (Assoc.adjust · (.named schemaClass) change) <$> next classes)
    (frame : ∀ classes after, next classes = .ok after →
      Assoc.get? after schemaClass = Assoc.get? classes schemaClass) :
    Splicing device mapper schemaClass references (bare >>= next) (spliced >>= next) := by
  cases splicing with
  | unmapped member fails => exact .unmapped member fails
  | attached maps =>
    cases bare with
    | error fault => exact .attached fun _ done => by cases done
    | ok classes =>
      rw [Result.map_ok, Result.ok_bind, Result.ok_bind, commutes]
      refine .attached fun after done reference member ⟨name, named, fields, there⟩ =>
        maps classes rfl reference member ⟨name, named, fields, ?_⟩
      rwa [own reference member, Path.get?_cons_object, ← frame classes after done, ← Path.get?_cons_object,
        ← own reference member]

end Reference

namespace Reference

def Leads (device : Device) (rules : List PropertyRule) (property : Value) (elements : List Fields) : Prop :=
  ∃ link, linkIn property = .ok (some link) ∧
    device.answer (queryBehind rules link) = .ok (.list (elements.map .object))

theorem leads_of_passes {device : Device} {rules : List PropertyRule} {property : Value} {elements : List Fields}
    {link : Link} (read : (linkIn property).passes (· = some link) = true)
    (answer : device.answer (queryBehind rules link) = .ok (.list (elements.map .object))) :
    Leads device rules property elements := by
  obtain ⟨link?, leads, same⟩ := Result.of_passes read
  exact ⟨link, leads.trans (congrArg Except.ok (of_decide_eq_true same)), answer⟩

end Reference

namespace Gatherer

/-- Items that can be told apart, and of which every link leads to a list of objects. -/
structure Linkable (device : Device) (entry : Entry) (accepted : List Value) : Prop where
  unique : ∀ fields, .object fields ∈ accepted → (Assoc.keys fields).Nodup
  named : ∀ raw ∈ accepted, (nameOf raw).isNull = false
  distinct : (accepted.map nameOf).Nodup
  listed : ∀ fields, .object fields ∈ accepted → ∀ property ∈ fields, ∀ rules,
    Assoc.get? entry.references property.1 = some rules →
      Reference.linkIn property.2 = .ok none ∨ ∃ elements, Reference.Leads device rules property.2 elements

variable {gatherer : Gatherer} {device : Device} {entry : Entry} {schemaClass : String} {accepted : List Value}

theorem Linkable.linked (linkable : Linkable device entry accepted) {translate : Bool} {fields : Fields}
    (member : .object fields ∈ accepted) (object : Option Key) :
    Result.Succeeds (Reference.ofItem entry translate object fields) := by
  refine Reference.ofItem_readable fun property inside known => ?_
  obtain ⟨rules, known⟩ := Option.isSome_iff_exists.mp known
  rcases linkable.listed fields member property inside rules known with nothing | ⟨elements, link, leads, _⟩
  · exact ⟨none, nothing⟩
  · exact ⟨some link, leads⟩

theorem Linkable.mem_links (linkable : Linkable device entry accepted) (unmerged : entry.schemaMerge = none)
    {reference : Reference} :
    reference ∈ accepted.flatMap (gatherer.links entry) ↔ ∃ fields, .object fields ∈ accepted ∧
      ∃ name, (itemName fields).asKey = .ok name ∧ ∃ property value rules link, (.named property, value) ∈ fields ∧
        Assoc.get? entry.references (.named property) = some rules ∧ Reference.linkIn value = .ok (some link) ∧
        reference = Reference.ofLink entry gatherer.translate (some name) property rules link := by
  rw [List.mem_flatMap]
  constructor
  · rintro ⟨raw, member, inside⟩
    cases raw with
    | object fields =>
      exact ⟨fields, member, (Gatherer.mem_links unmerged (linkable.named _ member) (linkable.linked member)).mp inside⟩
    | _ => exact absurd inside List.not_mem_nil
  · rintro ⟨fields, member, origin⟩
    exact ⟨_, member, (Gatherer.mem_links unmerged (linkable.named _ member) (linkable.linked member)).mpr origin⟩

theorem Linkable.attaches (linkable : Linkable device entry accepted) (gatherer : Gatherer)
    (own : entry.class? = some schemaClass)
    (unmerged : entry.schemaMerge = none) :
    ∀ reference ∈ accepted.flatMap (gatherer.links entry), reference.Attaches device schemaClass := by
  intro reference member
  obtain ⟨fields, item, name, _, property, value, rules, link, inside, known, leads, rfl⟩ :=
    (linkable.mem_links unmerged).mp member
  refine ⟨by rw [Reference.ofLink, own]; rfl, ⟨name, rfl⟩, by rw [Reference.ofLink, Entry.mergePath, unmerged], ?_⟩
  rcases linkable.listed fields item _ inside rules known with nothing | ⟨elements, link', leads', answer⟩
  · cases leads.symm.trans nothing
  · cases leads.symm.trans leads'
    exact ⟨elements, answer⟩

theorem Linkable.alone (linkable : Linkable device entry accepted) (unmerged : entry.schemaMerge = none)
    (refers : entry.Refers gatherer.translate) {reference other : Reference}
    (first : reference ∈ accepted.flatMap (gatherer.links entry))
    (second : other ∈ accepted.flatMap (gatherer.links entry)) (object : other.object = reference.object)
    (target : other.target = reference.target) : other = reference := by
  obtain ⟨fields, item, name, called, property, value, rules, link, inside, known, leads, rfl⟩ :=
    (linkable.mem_links unmerged).mp first
  obtain ⟨fields', item', name', called', property', value', rules', link', inside', known', leads', rfl⟩ :=
    (linkable.mem_links unmerged).mp second
  obtain rfl : name' = name := Option.some.inj object
  have same : nameOf (.object fields') = nameOf (.object fields) := DeviceReader.asKey_biUnique.1 called' called
  cases List.inj_on_of_nodup_map linkable.distinct item' item same
  have known_of {property : Key} {rules : List PropertyRule}
      (found : Assoc.get? entry.references property = some rules) :
      property ∈ Assoc.keys entry.references := Assoc.mem_keys_iff.mpr (by rw [found]; rfl)
  obtain rfl := refers.apart property' property (known_of known') (known_of known) target
  have unique := linkable.unique fields item
  cases (Assoc.get?_of_mem unique inside).symm.trans (Assoc.get?_of_mem unique inside')
  cases known.symm.trans known'
  cases leads.symm.trans leads'
  rfl

theorem hasObject_put {classes fields : Fields} {key name : Key} :
    Path.HasObject [.named schemaClass, name] (.object (Assoc.put classes schemaClass
      (.object (Assoc.put (Path.inner classes schemaClass) key (.object fields))))) ↔
      key = name ∨ Path.HasObject [.named schemaClass, name] (.object classes) := by
  unfold Path.HasObject
  rw [Path.get?_pair, Assoc.get?_put_self, Option.bind_some, Value.get?, Assoc.get?_put, ← Path.get?_inner]
  split
  next same => simp [same]
  next differ => simp [differ]

theorem hasObject_congr {classes other : Fields} (same : Assoc.get? other schemaClass = Assoc.get? classes schemaClass)
    {name : Key} (there : Path.HasObject [.named schemaClass, name] (.object classes)) :
    Path.HasObject [.named schemaClass, name] (.object other) := by
  unfold Path.HasObject at there ⊢
  rwa [Path.get?_cons_object, same, ← Path.get?_cons_object]

theorem takeItem_hasObject (unmerged : entry.schemaMerge = none) (several : entry.singleValue = false)
    (plain : schemaClass ∉ Shaping.shapedClasses) {raw : Value} {before after : Gathering}
    (taken : gatherer.takeItem entry schemaClass before raw = .ok after) :
    (∀ name, Path.HasObject [.named schemaClass, name] (.object before.classes) →
      Path.HasObject [.named schemaClass, name] (.object after.classes)) ∧
    (gatherer.rejects entry schemaClass raw = false → ∃ name, (nameOf raw).asKey = .ok name ∧
      Path.HasObject [.named schemaClass, name] (.object after.classes)) := by
  cases kept : gatherer.rejects entry schemaClass raw with
  | true =>
    rw [takeItem_rejected kept] at taken
    cases taken
    exact ⟨fun _ there => there, nofun⟩
  | false =>
    cases raw with
    | object fields =>
      rw [takeItem_kept kept] at taken
      obtain ⟨_, _, taken⟩ := Result.bind_eq_ok.mp taken
      rcases keepItem_cases taken with ⟨nothing, _⟩ | ⟨value, classes, object, shaped, stored, referred⟩
      · obtain ⟨_, _, same⟩ := Result.map_eq_ok.mp ((itemValue?_plain plain several fields).symm.trans nothing)
        cases same
      · obtain ⟨mapped, _, same⟩ := Result.map_eq_ok.mp ((itemValue?_plain plain several fields).symm.trans shaped)
        cases same
        obtain ⟨key, named, rfl⟩ := store_named unmerged stored
        obtain ⟨references, _, done⟩ := Result.bind_eq_ok.mp referred
        cases done
        exact ⟨fun name there => hasObject_put.mpr (.inr there), fun _ => ⟨key, named, hasObject_put.mpr (.inl rfl)⟩⟩
    | _ => rw [takeItem_atom rfl] at taken; cases taken

theorem takeItems_hasObject (unmerged : entry.schemaMerge = none) (several : entry.singleValue = false)
    (plain : schemaClass ∉ Shaping.shapedClasses) {items : List Value} {before after : Gathering}
    (taken : items.foldlM (gatherer.takeItem entry schemaClass) before = .ok after) :
    ∀ raw ∈ gatherer.accepted entry schemaClass items, ∃ name, (nameOf raw).asKey = .ok name ∧
      Path.HasObject [.named schemaClass, name] (.object after.classes) := by
  intro raw member
  obtain ⟨listed, kept⟩ := List.mem_filter.mp member
  obtain ⟨front, back, rfl⟩ := List.append_of_mem listed
  rw [List.foldlM_append] at taken
  obtain ⟨middle, _, taken⟩ := Result.bind_eq_ok.mp taken
  rw [List.foldlM_cons] at taken
  obtain ⟨next, here, later⟩ := Result.bind_eq_ok.mp taken
  obtain ⟨name, named, there⟩ := (takeItem_hasObject unmerged several plain here).2 (by simpa using kept)
  refine ⟨name, named, ?_⟩
  exact Result.foldlM_keeps (fun state => Path.HasObject [.named schemaClass, name] (.object state.classes))
    (fun other _ _ _ holds step => (takeItem_hasObject unmerged several plain step).1 name holds) there later

theorem takeAnswers_hasObject (own : entry.class? = some schemaClass) (unmerged : entry.schemaMerge = none)
    (several : entry.singleValue = false) (plain : schemaClass ∉ Shaping.shapedClasses)
    {first last : List (Entry × Option Value)} {items : List Value}
    (apart : ∀ answered ∈ last, answered.1.class? ≠ some schemaClass)
    (spared : ∀ answered ∈ last, Spares schemaClass answered) {gathering : Gathering}
    (gathered : (first ++ (entry, some (.list items)) :: last).foldlM
      (fun gathering answered => gatherer.takeAnswer gathering answered.1 answered.2) {} = .ok gathering) :
    ∀ raw ∈ gatherer.accepted entry schemaClass items, ∃ name, (nameOf raw).asKey = .ok name ∧
      Path.HasObject [.named schemaClass, name] (.object gathering.classes) := by
  rw [List.foldlM_append] at gathered
  obtain ⟨before, _, gathered⟩ := Result.bind_eq_ok.mp gathered
  rw [List.foldlM_cons] at gathered
  obtain ⟨after, here, later⟩ := Result.bind_eq_ok.mp gathered
  dsimp only at here
  rw [takeAnswer_items own] at here
  intro raw member
  obtain ⟨name, named, there⟩ := takeItems_hasObject unmerged several plain here raw member
  exact ⟨name, named, hasObject_congr (takeAnswers_spared apart spared later).1 there⟩

end Gatherer

namespace DeviceReader

open Gatherer

variable {reader : DeviceReader} {declaration : Value}

def unlinked (reader : DeviceReader) (declaration : Value) (watched : List Key) (schemaClass : String)
    (sighting : Sighting) : Sighting :=
  { sighting with
    answers := List.zipWith ((reader.gathererOf declaration sighting watched).unlinkedAnswer schemaClass)
      reader.catalog.entries sighting.answers }

theorem resolved_beside {schemaClass : String} {mapper : ItemMapper} {links : List Reference}
    (attaches : ∀ reference ∈ links, reference.Attaches reader.device schemaClass) {bare linked : Gathering}
    (beside : Beside schemaClass links bare linked) :
    Reference.Splicing reader.device mapper schemaClass links (reader.resolved mapper bare)
      (reader.resolved mapper linked) := by
  obtain ⟨same, foreign, earlier, later, before, after⟩ := beside
  have apart : ∀ reference ∈ later, reference.schemaClass ≠ schemaClass := fun reference member =>
    foreign reference (before ▸ List.mem_append_right earlier member)
  obtain ⟨found, fetched⟩ : Result.Succeeds (links.mapM (Reference.fetched reader.device)) := by
    refine Result.Succeeds.mapM fun reference member => ?_
    obtain ⟨elements, listed⟩ := (attaches reference member).listed
    exact ⟨_, by rw [Reference.fetched, listed]⟩
  have run : Reference.Splicing reader.device mapper schemaClass links
      ((earlier ++ later).foldlM (Reference.resolvedIn reader.device mapper) bare.classes)
      ((earlier ++ links ++ later).foldlM (Reference.resolvedIn reader.device mapper) bare.classes) := by
    rw [List.foldlM_append, List.foldlM_append, List.foldlM_append]
    cases earlier.foldlM (Reference.resolvedIn reader.device mapper) bare.classes with
    | error fault => exact .attached fun _ done => by cases done
    | ok classes =>
      refine (Reference.resolvedIn_foldlM attaches classes).bind (fun reference member => (attaches reference member).own)
        (fun classes change => Result.foldlM_comm
          (fun reference member state => Reference.resolvedIn_adjust (apart reference member) state _) classes) ?_
      intro classes after run
      refine Result.foldlM_keeps
        (fun state : Fields => Assoc.get? state (.named schemaClass) = Assoc.get? classes (.named schemaClass)) ?_ rfl run
      intro reference member state next holds step
      obtain ⟨_, _, step⟩ := Result.bind_eq_ok.mp step
      exact (Reference.spliced_frame step fun same => apart reference member (Key.named.inj same).symm).trans holds
  rw [resolved_eq, resolved_eq, same, before, after, List.mapM_append, List.mapM_append, List.mapM_append, fetched]
  cases earlier.mapM (Reference.fetched reader.device) with
  | error fault => exact .attached fun _ done => by cases done
  | ok first =>
    cases later.mapM (Reference.fetched reader.device) with
    | error fault => exact .attached fun _ done => by cases done
    | ok last => exact run

/-- Two reads of which one also has what the items of a class refer to. Every object has the collection that a link of
its own item leads to, and otherwise what it has in the other read. -/
structure Linked (reader : DeviceReader) (mapper : ItemMapper) (entry : Entry) (schemaClass : String)
    (accepted : List Value) (bare linked : Fields) : Prop where
  classes : Assoc.keys linked = Assoc.keys bare
  others : ∀ key, key ≠ .named schemaClass → Assoc.get? linked key = Assoc.get? bare key
  keys : Assoc.keys (Path.inner linked schemaClass) = Assoc.keys (Path.inner bare schemaClass)
  objects : ∀ name, Path.HasObject [.named schemaClass, name] (.object linked) ↔
    Path.HasObject [.named schemaClass, name] (.object bare)
  collections : ∀ fields name, .object fields ∈ accepted → (itemName fields).asKey = .ok name →
    Path.HasObject [.named schemaClass, name] (.object bare) →
    ∀ property value rules elements, (.named property, value) ∈ fields →
      Assoc.get? entry.references (.named property) = some rules →
      Reference.Leads reader.device rules value elements →
      ∃ stored, List.Forall₂ (Reference.Stores mapper rules) elements stored ∧
        Path.get? [.named schemaClass, name, Reference.targetOf entry reader.translate property] (.object linked) =
          some (.list (stored.map .object))
  rest : ∀ name key, (∀ fields, .object fields ∈ accepted → (itemName fields).asKey = .ok name →
      ∀ property value, (.named property, value) ∈ fields → Assoc.has entry.references (.named property) = true →
        Reference.targetOf entry reader.translate property = key → Reference.linkIn value = .ok none) →
    Path.get? [.named schemaClass, name, key] (.object linked) =
      Path.get? [.named schemaClass, name, key] (.object bare)

theorem linked_attachAll {gatherer : Gatherer} {mapper : ItemMapper} {entry : Entry} {schemaClass : String}
    {accepted : List Value} (native : gatherer.translate = reader.translate) (unmerged : entry.schemaMerge = none)
    (refers : entry.Refers reader.translate) (linkable : Linkable reader.device entry accepted)
    (own : entry.class? = some schemaClass) {bare : Fields}
    (maps : ∀ reference ∈ accepted.flatMap (gatherer.links entry), reference.Held bare →
      reference.Maps reader.device mapper) :
    Linked reader mapper entry schemaClass accepted bare (Assoc.adjust bare schemaClass
      (Reference.attachAll reader.device mapper (accepted.flatMap (gatherer.links entry)))) where
  classes := Assoc.keys_adjust bare _ _
  others key other := by rw [Assoc.get?_adjust, if_neg (Ne.symm other)]
  keys := by
    rw [Path.inner_eq_inside, Assoc.get?_adjust, if_pos rfl, Path.inner_eq_inside]
    cases Assoc.get? bare (.named schemaClass) with
    | none => rfl
    | some content => exact Reference.keys_attachAll _ content
  objects name := by
    unfold Path.HasObject
    rw [Path.get?_adjust, Path.get?_cons_object]
    cases Assoc.get? bare (.named schemaClass) with
    | none => rfl
    | some content => exact Reference.hasObject_attachAll _ content name
  collections := by
    rintro fields name item called there property value rules elements inside known ⟨link, leads, answer⟩
    have member : Reference.ofLink entry gatherer.translate (some name) property rules link ∈
        accepted.flatMap (gatherer.links entry) := (linkable.mem_links unmerged).mpr
      ⟨fields, item, name, called, property, value, rules, link, inside, known, leads, rfl⟩
    have held : (Reference.ofLink entry gatherer.translate (some name) property rules link).Held bare :=
      ⟨name, rfl, by rwa [Reference.ofLink, own]⟩
    obtain ⟨stored, stores, collected⟩ := (maps _ member held).collected_eq answer
    refine ⟨stored, stores, ?_⟩
    obtain ⟨object, there⟩ := there
    rw [Path.get?_cons_object] at there
    obtain ⟨content, held, there⟩ := Option.bind_eq_some_iff.mp there
    rw [Path.get?_adjust, held, Option.bind_some, ← native, ← collected]
    refine Reference.attachAll_here member rfl ?_ ⟨object, there⟩
    exact fun other among named target => linkable.alone unmerged (native ▸ refers) member among named target
  rest := by
    intro name key unlinked
    rw [Path.get?_adjust, Path.get?_cons_object]
    cases Assoc.get? bare (.named schemaClass) with
    | none => rfl
    | some content =>
      refine Reference.attachAll_elsewhere fun reference member targeted => ?_
      obtain ⟨named, target⟩ := targeted
      obtain ⟨fields, item, name', called, property, value, rules, link, inside, known, leads, rfl⟩ :=
        (linkable.mem_links unmerged).mp member
      cases named
      have nothing := unlinked fields item called property value inside
        (by rw [Assoc.has_eq_isSome, known]; rfl) (native ▸ target)
      cases leads.symm.trans nothing

section Listed

variable {schemaClass : String} {entry : Entry} (sole : reader.catalog.entriesOf schemaClass = [entry])
  (unmerged : entry.schemaMerge = none) (several : entry.singleValue = false)
  (plain : schemaClass ∉ Shaping.shapedClasses) (refers : entry.Refers reader.translate) {sighting : Sighting}
  {items : List Value} (answered : (entry, some (.list items)) ∈ reader.catalog.entries.zip sighting.answers)
  {watched : List Key} {accepted : List Value}
  (taken : (reader.gathererOf declaration sighting watched).accepted entry schemaClass items = accepted)
  (linkable : Linkable reader.device entry accepted)

include sole several plain refers answered taken linkable

theorem gathered_unlinked :
    Result.Matches (Beside schemaClass
        (accepted.flatMap ((reader.gathererOf declaration sighting watched).links entry)))
      (reader.gathered declaration (reader.unlinked declaration watched schemaClass sighting) watched)
      (reader.gathered declaration sighting watched) := by
  obtain ⟨own, -⟩ := Catalog.split_of_sole sole
  obtain ⟨first, last, cut, apart⟩ := Catalog.cut_of_sole sole answered
  have bare := cut_unlinked (reader.gathererOf declaration sighting watched) own cut apart
  unfold gathered unlinked
  rw [bare, cut, ← taken]
  exact takeAnswers_unlinked refers own several plain apart
    fun fields member => linkable.linked (taken ▸ member)

include unmerged

/-- Reading the classes comes to reading them without the links of one class, and attaching what these lead to. -/
theorem classesFor_unlinked :
    Reference.Splicing reader.device sighting.mapper schemaClass
      (accepted.flatMap ((reader.gathererOf declaration sighting watched).links entry))
      (reader.classesFor declaration (reader.unlinked declaration watched schemaClass sighting) watched)
      (reader.classesFor declaration sighting watched) := by
  obtain ⟨own, -⟩ := Catalog.split_of_sole sole
  have matched := gathered_unlinked sole several plain refers answered taken linkable
  have attaches := linkable.attaches (reader.gathererOf declaration sighting watched) own unmerged
  unfold classesFor
  generalize reader.gathered declaration (reader.unlinked declaration watched schemaClass sighting) watched = bare,
    reader.gathered declaration sighting watched = linked at matched ⊢
  cases matched with
  | error fault => exact .attached fun _ done => by cases done
  | ok beside =>
    exact (resolved_beside attaches beside).bind (fun reference member => (attaches reference member).own)
      (finish_adjust (Shaping.finish_plain plain)) fun _ _ done => finish_frame (Shaping.finish_plain plain) done

theorem classesFor_hasObject
    (spared : ∀ answered ∈ reader.catalog.entries.zip sighting.answers, Spares schemaClass answered) {classes : Fields}
    (read : reader.classesFor declaration (reader.unlinked declaration watched schemaClass sighting) watched =
      .ok classes) :
    ∀ raw ∈ accepted, ∃ name, (nameOf raw).asKey = .ok name ∧
      Path.HasObject [.named schemaClass, name] (.object classes) := by
  obtain ⟨own, -⟩ := Catalog.split_of_sole sole
  obtain ⟨first, last, cut, apart⟩ := Catalog.cut_of_sole sole answered
  have matched := gathered_unlinked sole several plain refers answered taken linkable
  obtain ⟨bare, found, rest⟩ := Result.bind_eq_ok.mp read
  obtain ⟨resolved, run, finished⟩ := Result.bind_eq_ok.mp rest
  rw [found] at matched
  cases gathered : reader.gathered declaration sighting watched with
  | error fault => rw [gathered] at matched; cases matched
  | ok linked =>
    rw [gathered] at matched
    cases matched with
    | ok beside =>
      have same : Assoc.get? classes schemaClass = Assoc.get? bare.classes schemaClass :=
        (finish_frame (Shaping.finish_plain plain) finished).trans
          (resolved_frame (fun reference member same => beside.foreign reference member (Key.named.inj same).symm) run)
      unfold DeviceReader.gathered at gathered
      rw [cut] at gathered
      intro raw member
      obtain ⟨name, named, there⟩ := takeAnswers_hasObject own unmerged several plain
        (fun answered member => apart answered (List.mem_append_right first member))
        (fun answered member => spared answered (by simp [cut, member])) gathered raw (taken ▸ member)
      exact ⟨name, named, hasObject_congr same (beside.classes ▸ there)⟩

/-- Each collection that an item of a class refers to is in the object of that item, under the target of the property
with the link, element by element as the rules of the property say. Beside these collections the class is what it is
without links, and so is everything else that is read. If the device cannot be read, that is so without links as well, or
an element that is referred to has a numeral of more digits than can be read. -/
theorem classesFor_linked :
    (∀ linked, reader.classesFor declaration sighting watched = .ok linked → ∃ bare,
      reader.classesFor declaration (reader.unlinked declaration watched schemaClass sighting) watched = .ok bare ∧
        Linked reader sighting.mapper entry schemaClass accepted bare linked) ∧
    (∀ fault, reader.classesFor declaration sighting watched = .error fault →
      reader.classesFor declaration (reader.unlinked declaration watched schemaClass sighting) watched = .error fault ∨
        fault = .unreadableText ∧ ∃ fields, .object fields ∈ accepted ∧ ∃ property ∈ fields, ∃ rules elements,
          Assoc.get? entry.references property.1 = some rules ∧
            Reference.Leads reader.device rules property.2 elements ∧
            ∃ element ∈ elements, ∀ stored, ¬Reference.Stores sighting.mapper rules element stored) ∧
    ((∀ answered ∈ reader.catalog.entries.zip sighting.answers, Spares schemaClass answered) → ∀ classes,
      reader.classesFor declaration (reader.unlinked declaration watched schemaClass sighting) watched = .ok classes →
        ∀ raw ∈ accepted, ∃ name, (nameOf raw).asKey = .ok name ∧
          Path.HasObject [.named schemaClass, name] (.object classes)) := by
  obtain ⟨own, -⟩ := Catalog.split_of_sole sole
  have splicing := classesFor_unlinked sole unmerged several plain refers answered taken linkable
  refine ⟨fun linked read => ?_, fun fault failed => ?_, fun spared classes read =>
    classesFor_hasObject sole unmerged several plain refers answered taken linkable spared read⟩
  · rw [read] at splicing
    generalize outcome : (.ok linked : Result Fields) = spliced at splicing
    cases splicing with
    | unmapped => cases outcome
    | attached maps =>
      obtain ⟨bare, found, rfl⟩ := Result.map_eq_ok.mp outcome.symm
      exact ⟨bare, found, linked_attachAll rfl unmerged refers linkable own (maps bare found)⟩
  · rw [failed] at splicing
    generalize outcome : (.error fault : Result Fields) = spliced at splicing
    cases splicing with
    | attached =>
      left
      cases bare : reader.classesFor declaration (reader.unlinked declaration watched schemaClass sighting) watched with
      | error other => rw [bare] at outcome; cases outcome; rfl
      | ok classes => rw [bare] at outcome; cases outcome
    | unmapped member fails =>
      cases outcome
      obtain ⟨fields, item, name, _, property, value, rules, link, inside, known, leads, rfl⟩ :=
        (linkable.mem_links unmerged).mp member
      rcases linkable.listed fields item _ inside rules known with nothing | ⟨elements, link', leads', answer⟩
      · cases leads.symm.trans nothing
      · cases leads.symm.trans leads'
        have unstored := (Reference.mapped_of_not_maps answer fails).2
        exact .inr ⟨rfl, fields, item, _, inside, rules, elements, known, ⟨link, leads, answer⟩, unstored⟩

end Listed

def pathRouter (lists : List Value) : DeviceReader where
  catalog := ⟨[Packaged.asPath]⟩
  device := {
    id := "router"
    identity := .ok { hostname := .text "router" }
    answer := fun query => .ok (.list
      (if query.path = "/tm/net/routing/as-path" then lists
      else if query.path = "/tm/net/routing/as-path/~Common~inner/entries" then [.object innerEntry]
      else [.object outerEntry])) }
where
  innerEntry : Fields := [("kind", .text "entry"), ("name", .text "10"), ("regex", .text "65001")]
  outerEntry : Fields := [("kind", .text "entry"), ("name", .text "20 old"), ("action", .text "permit")]

def pathList (name address : String) : Value :=
  .object [("name", .text name), ("entriesReference", .object [("link", .text address)])]

def innerAddress : String := "https://localhost/mgmt/tm/net/routing/as-path/~Common~inner/entries?ver=15.1.0"

def outerAddress : String := "https://localhost/mgmt/tm/net/routing/as-path/~Common~outer/entries?ver=15.1.0"

def twoLists : List Value := [pathList "inner" innerAddress, pathList "outer" outerAddress]

def shownLists : Sighting :=
  ⟨{ hostname := .text "router" }, {}, [some (.list twoLists)]⟩

theorem inner_leads (rules : List PropertyRule) :
    Reference.Leads (pathRouter twoLists).device rules (.object [("link", .text innerAddress)]) [pathRouter.innerEntry] := by
  have read : (Reference.linkIn (.object [("link", .text innerAddress)])).passes
      (· = some ⟨"/tm/net/routing/as-path/~Common~inner/entries", [("ver", "15.1.0")]⟩) = true := by
    decide +kernel
  exact Reference.leads_of_passes read rfl

theorem outer_leads (rules : List PropertyRule) :
    Reference.Leads (pathRouter twoLists).device rules (.object [("link", .text outerAddress)]) [pathRouter.outerEntry] := by
  have read : (Reference.linkIn (.object [("link", .text outerAddress)])).passes
      (· = some ⟨"/tm/net/routing/as-path/~Common~outer/entries", [("ver", "15.1.0")]⟩) = true := by
    decide +kernel
  exact Reference.leads_of_passes read rfl

theorem twoLists_linkable : Linkable (pathRouter twoLists).device Packaged.asPath twoLists where
  unique := by
    rintro fields (_ | ⟨_, _ | ⟨_, ⟨⟩⟩⟩) <;> decide
  named := by
    rintro raw (_ | ⟨_, _ | ⟨_, ⟨⟩⟩⟩) <;> rfl
  distinct := by
    have called : twoLists.map nameOf = [.text "inner", .text "outer"] := rfl
    simp [called]
  listed := by
    have unnamed : Assoc.get? Packaged.asPath.references (.named "name") = none := rfl
    rintro fields (_ | ⟨_, _ | ⟨_, ⟨⟩⟩⟩) property (_ | ⟨_, _ | ⟨_, ⟨⟩⟩⟩) rules known
    · cases unnamed.symm.trans known
    · exact .inr ⟨_, inner_leads rules⟩
    · cases unnamed.symm.trans known
    · exact .inr ⟨_, outer_leads rules⟩

theorem asPath_refers (translate : Bool) : Packaged.asPath.Refers translate where
  named := by
    rintro property member
    cases List.mem_singleton.mp member
    exact ⟨"entriesReference", rfl, by decide +kernel⟩
  apart first second one other _ := by
    cases List.mem_singleton.mp one
    cases List.mem_singleton.mp other
    rfl

theorem stored_singleton {mapper : ItemMapper} {rules : List PropertyRule} {element stored : Fields}
    (mapped : mapper.mapFields (Observation.stripFields false element) rules = .ok stored) {all : List Fields}
    (stores : List.Forall₂ (Reference.Stores mapper rules) [element] all) : all = [stored] := by
  obtain ⟨_, _, first, rest, rfl⟩ := List.forall₂_cons_left_iff.mp stores
  cases List.forall₂_nil_left_iff.mp rest
  rw [Except.ok.inj (first.mapped.symm.trans mapped)]

/-- Each list has its own entry, with the number that its name starts with. -/
theorem classesFor_linked_twoLists :
    let reader := pathRouter twoLists
    let sighting := shownLists
    reader.catalog.entriesOf "RoutingAsPath" = [Packaged.asPath] ∧ Packaged.asPath.schemaMerge = none ∧
      Packaged.asPath.singleValue = false ∧ "RoutingAsPath" ∉ Shaping.shapedClasses ∧
      Packaged.asPath.Refers reader.translate ∧
      (Packaged.asPath, some (.list twoLists)) ∈ reader.catalog.entries.zip sighting.answers ∧
      (reader.gathererOf .empty sighting []).accepted Packaged.asPath "RoutingAsPath" twoLists = twoLists ∧
      Linkable reader.device Packaged.asPath twoLists ∧
      ∃ classes, reader.classesFor .empty sighting [] = .ok classes ∧
        Path.get? ["RoutingAsPath", "inner", "entries"] (.object classes) =
          some (.list [.object [("name", .int 10), ("regex", .text "65001")]]) ∧
        Path.get? ["RoutingAsPath", "outer", "entries"] (.object classes) =
          some (.list [.object [("name", .int 20), ("action", .text "permit")]]) := by
  intro reader sighting
  have sole : reader.catalog.entriesOf "RoutingAsPath" = [Packaged.asPath] := rfl
  have plain : "RoutingAsPath" ∉ Shaping.shapedClasses := by decide
  have refers := asPath_refers reader.translate
  have answered : (Packaged.asPath, some (.list twoLists)) ∈ reader.catalog.entries.zip sighting.answers :=
    List.mem_singleton_self _
  have taken : (reader.gathererOf .empty sighting []).accepted Packaged.asPath "RoutingAsPath" twoLists = twoLists :=
    rfl
  have spared : ∀ answered ∈ reader.catalog.entries.zip sighting.answers, Spares "RoutingAsPath" answered := by
    intro answered member own
    cases List.mem_singleton.mp member
    cases own
  obtain ⟨joined, _, placed⟩ := classesFor_linked sole rfl rfl plain refers answered taken twoLists_linkable
  obtain ⟨classes, read⟩ : Result.Succeeds (reader.classesFor .empty sighting []) := ⟨_, rfl⟩
  obtain ⟨bare, found, linked⟩ := joined classes read
  have objects := placed spared bare found
  refine ⟨sole, rfl, rfl, plain, refers, answered, taken, twoLists_linkable, classes, read, ?_, ?_⟩
  · obtain ⟨name, named, there⟩ := objects _ (List.mem_cons_self ..)
    cases named
    obtain ⟨stored, stores, entries⟩ := linked.collections _ _ (List.mem_cons_self ..) rfl there "entriesReference" _ _ _
      (List.mem_cons_of_mem _ (List.mem_cons_self ..)) rfl (inner_leads _)
    cases stored_singleton rfl stores
    exact entries
  · obtain ⟨name, named, there⟩ := objects _ (List.mem_cons_of_mem _ (List.mem_cons_self ..))
    cases named
    obtain ⟨stored, stores, entries⟩ := linked.collections _ _ (List.mem_cons_of_mem _ (List.mem_cons_self ..)) rfl there
      "entriesReference" _ _ _ (List.mem_cons_of_mem _ (List.mem_cons_self ..)) rfl (outer_leads _)
    cases stored_singleton rfl stores
    exact entries

end DeviceReader

end Reconcile
