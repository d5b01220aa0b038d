import Reconcile.Proofs.Observation.Filing
import Reconcile.Proofs.Observation.Reading

/-!
The objects of a class that is read from one collection. Each of them comes from its own item: what the item refers to
is joined to the object that it is filed as, and that is given its final shape, whatever other items there are. No item
is lost as long as no two are called the same once the common partition is left out.
-/

namespace Reconcile

namespace Reference

def joinedTo (reference : Reference) (mapper : ItemMapper) (result : Value) : Value → Result Value
  | .object fields => do
    match ← reference.mapped mapper result with
    | some value => return .object (Assoc.put fields reference.target value)
    | none => return .object fields
  | value => .ok value

def joined (device : Device) (mapper : ItemMapper) (value : Value) (reference : Reference) : Result Value := do
  reference.joinedTo mapper (← reference.fetched device) value

def resolvedIn (device : Device) (mapper : ItemMapper) (classes : Fields) (reference : Reference) : Result Fields := do
  reference.spliced mapper (← reference.fetched device) classes

variable {reference : Reference} {mapper : ItemMapper} {device : Device} {classes after : Fields}

theorem spliced_eq {key : Key} (named : reference.object = some key) (whole : reference.mergePath = [])
    (result : Value) (room : Gatherer.Open reference.schemaClass classes) :
    reference.spliced mapper result classes =
      match Assoc.get? (Path.inner classes reference.schemaClass) key with
      | some value => (fun value => Assoc.put classes reference.schemaClass
          (.object (Assoc.put (Path.inner classes reference.schemaClass) key value))) <$>
            reference.joinedTo mapper result value
      | none => .ok classes := by
  unfold spliced
  cases found : Assoc.get? classes reference.schemaClass with
  | none =>
    have place : reference.place classes = [.named reference.schemaClass] := by
      rw [place, named, whole, found]
      rfl
    rw [place]
    dsimp only
    rw [Path.get?_singleton, found, Path.inner_eq_inside, found]
    rfl
  | some content =>
    obtain ⟨objects, rfl⟩ : ∃ objects, content = .object objects := by
      rw [Gatherer.Open, found] at room
      exact ⟨_, room⟩
    have place : reference.place classes = [.named reference.schemaClass, key] := by
      rw [place, named, whole, found]
      rfl
    have inside : Path.inner classes reference.schemaClass = objects := by
      rw [Path.inner_eq_inside, found]
      rfl
    rw [place]
    dsimp only
    rw [Path.get?_inner, inside]
    cases held : Assoc.get? objects key with
    | none => rfl
    | some value =>
      -- An object that is written back as it is changes nothing.
      have same : Assoc.put classes reference.schemaClass (.object (Assoc.put objects key value)) = classes := by
        rw [Assoc.put_eq_self held, Assoc.put_eq_self found]
      cases value with
      | object fields =>
        dsimp only [joinedTo]
        cases reference.mapped mapper result with
        | error fault => rfl
        | ok value? =>
          cases value? with
          | none => exact congrArg Except.ok same.symm
          | some value =>
            have put : Path.put ([.named reference.schemaClass, key] ++ [reference.target]) value classes =
                Assoc.put classes reference.schemaClass
                  (.object (Assoc.put objects key (.object (Assoc.put fields reference.target value)))) := by
              simp only [List.cons_append, List.nil_append, Path.put, inside]
              rw [Path.inner_eq_inside, held]
              rfl
            exact congrArg Except.ok put
      | _ => exact congrArg Except.ok same.symm

/-- A reference from an object by itself, rather than from what is folded into a class or from a class as a whole. -/
def Own (schemaClass : String) (reference : Reference) : Prop :=
  reference.schemaClass = schemaClass → reference.object.isSome = true ∧ reference.mergePath = []

def isFrom (schemaClass : String) (key : Key) (reference : Reference) : Bool :=
  reference.schemaClass = schemaClass && reference.object = some key

/-- What becomes of the objects of a class when collections are spliced in: what an object refers to is joined to it, in
order, and nothing else happens. -/
structure Joins (device : Device) (mapper : ItemMapper) (schemaClass : String) (references : List Reference)
    (before after : Fields) : Prop where
  opened : Gatherer.Open schemaClass after
  keys : Assoc.keys (Path.inner after schemaClass) = Assoc.keys (Path.inner before schemaClass)
  objects : ∀ key value, Assoc.get? (Path.inner before schemaClass) key = some value →
    ∃ final, (references.filter (isFrom schemaClass key)).foldlM (joined device mapper) value = .ok final ∧
      Assoc.get? (Path.inner after schemaClass) key = some final

variable {schemaClass : String}

theorem Joins.refl (room : Gatherer.Open schemaClass classes) : Joins device mapper schemaClass [] classes classes :=
  ⟨room, rfl, fun _ value found => ⟨value, rfl, found⟩⟩

theorem Joins.trans {references others : List Reference} {final : Fields}
    (first : Joins device mapper schemaClass references classes after)
    (second : Joins device mapper schemaClass others after final) :
    Joins device mapper schemaClass (references ++ others) classes final where
  opened := second.opened
  keys := second.keys.trans first.keys
  objects key value found := by
    obtain ⟨middle, run, here⟩ := first.objects key value found
    obtain ⟨last, rerun, there⟩ := second.objects key middle here
    refine ⟨last, ?_, there⟩
    rw [List.filter_append, List.foldlM_append, run]
    exact rerun

theorem joins_foreign (room : Gatherer.Open schemaClass classes) (other : reference.schemaClass ≠ schemaClass)
    (same : Assoc.get? after schemaClass = Assoc.get? classes schemaClass) :
    Joins device mapper schemaClass [reference] classes after := by
  have inside : Path.inner after schemaClass = Path.inner classes schemaClass := by
    rw [Path.inner_eq_inside, same, ← Path.inner_eq_inside]
  refine ⟨?_, by rw [inside], fun key value found => ⟨value, ?_, by rw [inside, found]⟩⟩
  · rwa [Gatherer.Open, same, inside]
  · rw [List.filter_singleton, isFrom, decide_eq_false other, Bool.false_and]
    rfl

theorem joins_of_resolvedIn (own : reference.Own schemaClass) (room : Gatherer.Open schemaClass classes)
    (spliced : resolvedIn device mapper classes reference = .ok after) :
    Joins device mapper schemaClass [reference] classes after := by
  obtain ⟨result, fetched, spliced⟩ := Result.bind_eq_ok.mp spliced
  by_cases here : reference.schemaClass = schemaClass
  · obtain ⟨named, whole⟩ := own here
    obtain ⟨name, named⟩ := Option.isSome_iff_exists.mp named
    subst here
    rw [spliced_eq named whole result room] at spliced
    have from_iff : ∀ key, reference.isFrom reference.schemaClass key = decide (name = key) := fun key => by
      simp [isFrom, named]
    split at spliced
    next content held =>
      obtain ⟨final, joined, rfl⟩ := Result.map_eq_ok.mp spliced
      have inside : Path.inner (Assoc.put classes reference.schemaClass
          (.object (Assoc.put (Path.inner classes reference.schemaClass) name final))) reference.schemaClass =
            Assoc.put (Path.inner classes reference.schemaClass) name final := by
        rw [Path.inner_eq_inside, Assoc.get?_put_self]
        rfl
      have present : name ∈ Assoc.keys (Path.inner classes reference.schemaClass) :=
        Assoc.mem_keys_iff.mpr (by rw [held]; rfl)
      refine ⟨?_, ?_, fun key value found => ?_⟩
      · rw [Gatherer.Open, inside, Assoc.get?_put_self]
        rfl
      · rw [inside, Assoc.keys_put, if_pos present]
      · rw [inside, Assoc.get?_put, List.filter_singleton, from_iff]
        by_cases same : name = key
        · subst same
          cases held.symm.trans found
          refine ⟨final, ?_, if_pos rfl⟩
          simp [Reference.joined, fetched, joined, Result.ok_bind]
        · refine ⟨value, ?_, by rw [if_neg same, found]⟩
          rw [decide_eq_false same]
          rfl
    next absent =>
      cases spliced
      refine ⟨room, rfl, fun key value found => ⟨value, ?_, found⟩⟩
      have differ : name ≠ key := by
        rintro rfl
        cases absent.symm.trans found
      rw [List.filter_singleton, from_iff, decide_eq_false differ]
      rfl
  · exact joins_foreign room here (spliced_frame spliced fun same => here (Key.named.inj same).symm)

theorem joins_of_run {references : List Reference} (own : ∀ reference ∈ references, reference.Own schemaClass)
    (room : Gatherer.Open schemaClass classes)
    (run : references.foldlM (resolvedIn device mapper) classes = .ok after) :
    Joins device mapper schemaClass references classes after := by
  induction references generalizing classes with
  | nil =>
    cases run
    exact .refl room
  | cons reference rest ih =>
    obtain ⟨first, others⟩ := List.forall_mem_cons.mp own
    rw [List.foldlM_cons] at run
    obtain ⟨next, here, later⟩ := Result.bind_eq_ok.mp run
    have joins := joins_of_resolvedIn first room here
    exact joins.trans (ih others joins.opened later)

end Reference

namespace Shaping

def finishObject (schemaClass : String) (context : ShapingContext) : Value → Result Value :=
  match schemaClass with
  | "GSLBProberPool" => poolMembers (context.field "members")
  | "RoutingBGP" =>
    let address := context.fieldAmong (context.rulesFor "neighborReference") "name"
    fun router => do peerGroups (← neighbours address router)
  | "GSLBServer" =>
    let rules := context.rulesFor "virtualServersReference"
    let monitor := context.fieldAmong rules "monitor"
    let translated := context.fieldAmong rules "translationAddress"
    itemsAt "virtualServers" (virtualServer monitor translated)
  | "FirewallPolicy" => itemsAt "rules" firewallRule
  | _ => .ok

theorem eachObject_ok (objects : Fields) : eachObject .ok (.object objects) = .ok (.object objects) := by
  have same : objects.mapM (fun entry => (do return (entry.1, ← Except.ok entry.2) : Result (Key × Value))) =
      .ok (objects.map id) := List.mapM_pure
  rw [eachObject, Value.fieldsOrFail, Result.ok_bind, same, List.map_id]
  rfl

theorem finish_object (schemaClass : String) (context : ShapingContext) (objects : Fields) :
    finish schemaClass context (.object objects) =
      eachObject (finishObject schemaClass context) (.object objects) := by
  unfold finish
  split
  next => rfl
  next => rfl
  next => rfl
  next => rfl
  next prober router server policy =>
    have plain : finishObject schemaClass context = .ok := by
      unfold finishObject
      split
      next => exact absurd rfl prober
      next => exact absurd rfl router
      next => exact absurd rfl server
      next => exact absurd rfl policy
      next => rfl
    rw [plain, eachObject_ok]

end Shaping

namespace Gatherer

variable {gatherer : Gatherer} {entry : Entry} {schemaClass : String}

theorem finish_class {catalog : Catalog} (sole : catalog.entriesOf schemaClass = [entry]) {classes final : Fields}
    (room : Open schemaClass classes) (done : gatherer.finish catalog classes = .ok final) :
    Open schemaClass final ∧ Assoc.keys (Path.inner final schemaClass) = Assoc.keys (Path.inner classes schemaClass) ∧
      ∀ key value, Assoc.get? (Path.inner classes schemaClass) key = some value →
        ∃ shaped, Shaping.finishObject schemaClass { entry, translate := gatherer.translate } value = .ok shaped ∧
          Assoc.get? (Path.inner final schemaClass) key = some shaped := by
  rw [finish_eq_mapM] at done
  have here := Result.get?_mapM (fun _ _ => finishClass_key) done schemaClass
  cases found : Assoc.get? classes (.named schemaClass) with
  | none =>
    rw [found] at here
    have before : Path.inner classes schemaClass = [] := by
      rw [Path.inner_eq_inside, found]
      rfl
    have after : Path.inner final schemaClass = [] := by
      rw [Path.inner_eq_inside, here]
      rfl
    rw [before, after]
    exact ⟨open_of_absent here, rfl, nofun⟩
  | some value =>
    rw [found] at here
    obtain ⟨shaped, done, found'⟩ := here
    obtain ⟨objects, rfl⟩ : ∃ objects, value = .object objects := by
      rw [Open, found] at room
      exact ⟨_, room⟩
    unfold finishClass at done
    dsimp only at done
    rw [sole] at done
    obtain ⟨shaped', finished, done⟩ := Result.bind_eq_ok.mp done
    cases done
    rw [Shaping.finish_object] at finished
    obtain ⟨_, opened, rest⟩ := Result.bind_eq_ok.mp finished
    cases opened
    obtain ⟨objects', each, done⟩ := Result.bind_eq_ok.mp rest
    cases done
    have keeps : ∀ object final : Key × Value, (do
        return (object.1, ← Shaping.finishObject schemaClass { entry, translate := gatherer.translate } object.2)) =
          (Except.ok final : Result (Key × Value)) → final.1 = object.1 := by
      intro object final done
      obtain ⟨_, _, done⟩ := Result.bind_eq_ok.mp done
      cases done
      rfl
    have before : Path.inner classes schemaClass = objects := by
      rw [Path.inner_eq_inside, found]
      rfl
    have after : Path.inner final schemaClass = objects' := by
      rw [Path.inner_eq_inside, found']
      rfl
    rw [before, after]
    refine ⟨?_, Result.keys_mapM keeps each, fun key value held => ?_⟩
    · rw [Open, found', after]
      rfl
    · have here := Result.get?_mapM keeps each key
      rw [held] at here
      obtain ⟨shaped, done, found⟩ := here
      obtain ⟨_, finished, done⟩ := Result.bind_eq_ok.mp done
      cases done
      exact ⟨shaped, finished, found⟩

theorem filing_cases (own : entry.class? = some schemaClass) (unmerged : entry.schemaMerge = none) {raw : Value}
    {filing : Filing} (filed : gatherer.filing entry schemaClass raw = .ok filing) :
    ∃ fields, raw = .object fields ∧ (itemName fields).asKey = .ok filing.key ∧
      Reference.ofItem entry gatherer.translate (if (itemName fields).isNull then none else some filing.key) fields =
        .ok filing.references ∧
      ∀ reference ∈ filing.references, reference.schemaClass = schemaClass ∧ reference.mergePath = [] ∧
        reference.object = if (itemName fields).isNull then none else some filing.key := by
  obtain ⟨fields, opened, rest⟩ := Result.bind_eq_ok.mp filed
  obtain rfl : raw = .object fields := by
    cases raw with
    | object inner => cases opened; rfl
    | _ => cases opened
  obtain ⟨value?, _, rest⟩ := Result.bind_eq_ok.mp rest
  obtain ⟨key, named, rest⟩ := Result.bind_eq_ok.mp rest
  obtain ⟨object, called, rest⟩ := Result.bind_eq_ok.mp rest
  obtain ⟨references, found, done⟩ := Result.bind_eq_ok.mp rest
  cases done
  have object_eq : object = if (itemName fields).isNull then none else some key := by
    unfold objectName at called
    rw [unmerged] at called
    cases anonymous : (itemName fields).isNull with
    | true =>
      rw [anonymous] at called
      cases called
      rfl
    | false =>
      rw [anonymous, named] at called
      cases called
      rfl
  subst object_eq
  refine ⟨fields, rfl, named, found, fun reference member => ?_⟩
  obtain ⟨property, _, here⟩ := (Reference.mem_ofItem found).mp member
  obtain ⟨name, rules, link, _, _, _, rfl⟩ := Reference.ofProperty_some here
  refine ⟨?_, ?_, rfl⟩
  · rw [Reference.ofLink, own]
    rfl
  · rw [Reference.ofLink, Entry.mergePath, unmerged]

theorem filter_references {filings : List Filing} (distinct : (filings.map Filing.key).Nodup)
    (own : ∀ filing ∈ filings, ∀ reference ∈ filing.references,
      reference.schemaClass = schemaClass ∧ reference.object = some filing.key)
    {filing : Filing} (member : filing ∈ filings) :
    (filings.flatMap Filing.references).filter (Reference.isFrom schemaClass filing.key) = filing.references := by
  induction filings with
  | nil => cases member
  | cons first rest ih =>
    obtain ⟨here, others⟩ := List.forall_mem_cons.mp own
    rw [List.map_cons, List.nodup_cons] at distinct
    rw [List.flatMap_cons, List.filter_append]
    have none_of : ∀ filings : List Filing, (∀ filing ∈ filings, ∀ reference ∈ filing.references,
        reference.schemaClass = schemaClass ∧ reference.object = some filing.key) →
        filing.key ∉ filings.map Filing.key →
        (filings.flatMap Filing.references).filter (Reference.isFrom schemaClass filing.key) = [] := by
      intro filings own absent
      rw [List.filter_eq_nil_iff]
      intro reference inside
      obtain ⟨other, among, inside⟩ := List.mem_flatMap.mp inside
      have differ : other.key ≠ filing.key := fun same => absent (same ▸ List.mem_map_of_mem among)
      simp [Reference.isFrom, (own other among reference inside).2, differ]
    rcases List.mem_cons.mp member with rfl | later
    · rw [none_of rest others distinct.1, List.append_nil, List.filter_eq_self]
      intro reference inside
      simp [Reference.isFrom, (here reference inside).1, (here reference inside).2]
    · have differ : filing.key ≠ first.key := fun same => distinct.1 (same ▸ List.mem_map_of_mem later)
      have nothing := none_of [first] (by simpa using here) (by simpa using differ)
      rw [List.flatMap_singleton] at nothing
      rw [nothing, List.nil_append, ih distinct.2 others later]

end Gatherer

namespace DeviceReader

open Gatherer

variable {reader : DeviceReader} {declaration : Value}

def formed (reader : DeviceReader) (gatherer : Gatherer) (entry : Entry) (schemaClass : String) (filing : Filing) :
    Result Value := do
  let joined ← filing.references.foldlM (Reference.joined reader.device gatherer.mapper) filing.value
  Shaping.finishObject schemaClass { entry, translate := gatherer.translate } joined

def objectOf (reader : DeviceReader) (gatherer : Gatherer) (entry : Entry) (schemaClass : String) (raw : Value) :
    Result Value :=
  gatherer.filing entry schemaClass raw >>= reader.formed gatherer entry schemaClass

/-- Everything is asked for before anything is spliced in, but what becomes of the answers can be told one by one. -/
theorem resolved_eq (reader : DeviceReader) (mapper : ItemMapper) (gathering : Gathering) :
    reader.resolved mapper gathering = (do
      let _ ← gathering.references.mapM (Reference.fetched reader.device)
      gathering.references.foldlM (Reference.resolvedIn reader.device mapper) gathering.classes) := by
  unfold resolved
  cases found : gathering.references.mapM (Reference.fetched reader.device) with
  | error fault => rfl
  | ok results => exact Result.foldlM_zip found gathering.classes

theorem resolved_run {mapper : ItemMapper} {gathering : Gathering} {classes : Fields}
    (resolved : reader.resolved mapper gathering = .ok classes) :
    gathering.references.foldlM (Reference.resolvedIn reader.device mapper) gathering.classes = .ok classes := by
  rw [resolved_eq] at resolved
  obtain ⟨_, _, run⟩ := Result.bind_eq_ok.mp resolved
  exact run

theorem asKey_biUnique : Relator.BiUnique fun (name : Value) (key : Key) => name.asKey = .ok key := by
  constructor
  · intro name other key first second
    cases name <;> cases other <;> cases first <;> cases second <;> rfl
  · intro name key other first second
    exact Except.ok.inj (first.symm.trans second)

theorem filter_holding {schemaClass : String} {filings : List Filing} {gathering : Gathering}
    (holding : Holding schemaClass filings gathering) (distinct : (filings.map Filing.key).Nodup)
    (origin : ∀ filing ∈ filings, ∀ reference ∈ filing.references,
      reference.schemaClass = schemaClass ∧ reference.object = some filing.key)
    {filing : Filing} (member : filing ∈ filings) :
    gathering.references.filter (Reference.isFrom schemaClass filing.key) = filing.references := by
  obtain ⟨earlier, later, whole, foreign, apart⟩ := holding.references
  have elsewhere : ∀ references : List Reference, (∀ reference ∈ references, reference.schemaClass ≠ schemaClass) →
      references.filter (Reference.isFrom schemaClass filing.key) = [] := by
    intro references others
    rw [List.filter_eq_nil_iff]
    intro reference inside
    simp [Reference.isFrom, others reference inside]
  rw [whole, List.filter_append, List.filter_append, elsewhere earlier foreign, elsewhere later apart, List.nil_append,
    List.append_nil]
  exact filter_references distinct origin member

section Listed

variable {schemaClass : String} {entry : Entry} (sole : reader.catalog.entriesOf schemaClass = [entry])
  (unmerged : entry.schemaMerge = none) (other : schemaClass ≠ "DbVariables") {sighting : Sighting}
  {items : List Value} (answered : (entry, some (.list items)) ∈ reader.catalog.entries.zip sighting.answers)
  (spared : ∀ answered ∈ reader.catalog.entries.zip sighting.answers, Spares schemaClass answered)
  {watched : List Key} {accepted : List Value}
  (taken : (reader.gathererOf declaration sighting watched).accepted entry schemaClass items = accepted)
  (anonymous : ∀ fields, .object fields ∈ accepted → (itemName fields).isNull = true →
    Reference.ofItem entry reader.translate none fields = .ok [])

include sole unmerged other answered spared taken anonymous

/-- The objects of a class that is read from one collection, one for each key under which an item is filed. If there is
one item for each key, the object is what becomes of that item. -/
theorem classesFor_filed {classes : Fields} (read : reader.classesFor declaration sighting watched = .ok classes) :
    ∃ filings, accepted.mapM ((reader.gathererOf declaration sighting watched).filing entry schemaClass) =
        .ok filings ∧ Open schemaClass classes ∧
      Assoc.keys (Path.inner classes schemaClass) =
        Assoc.keys (Assoc.putAll [] (filings.map fun filing => (filing.key, filing.value))) ∧
      ((filings.map Filing.key).Nodup → ∀ filing ∈ filings, ∃ object,
        reader.formed (reader.gathererOf declaration sighting watched) entry schemaClass filing = .ok object ∧
          Assoc.get? (Path.inner classes schemaClass) filing.key = some object) := by
  obtain ⟨own, -⟩ := Catalog.split_of_sole sole
  obtain ⟨first, last, cut, apart⟩ := Catalog.cut_of_sole sole answered
  have among : ∀ answered ∈ first ++ last, answered ∈ reader.catalog.entries.zip sighting.answers := by
    intro answered member
    rw [cut, List.mem_append, List.mem_cons]
    rw [List.mem_append] at member
    tauto
  obtain ⟨gathering, gathered, rest⟩ := Result.bind_eq_ok.mp read
  obtain ⟨resolved, run, finished⟩ := Result.bind_eq_ok.mp rest
  unfold DeviceReader.gathered at gathered
  rw [cut] at gathered
  obtain ⟨filings, filed, holding⟩ := holding_of_takeAnswers own unmerged other apart
    (fun answered member => spared answered (among answered member)) gathered
  have filed : accepted.mapM ((reader.gathererOf declaration sighting watched).filing entry schemaClass) =
      .ok filings := taken ▸ filed
  have origin : ∀ filing ∈ filings, ∀ reference ∈ filing.references,
      reference.schemaClass = schemaClass ∧ reference.mergePath = [] ∧ reference.object = some filing.key := by
    intro filing member reference inside
    obtain ⟨raw, listed, here⟩ := Result.mem_of_mapM filed filing member
    obtain ⟨fields, rfl, -, found, origin⟩ := filing_cases own unmerged here
    obtain ⟨class', place, object⟩ := origin reference inside
    cases unnamed : (itemName fields).isNull with
    | true =>
      rw [unnamed, if_pos rfl] at found
      rw [Except.ok.inj (found.symm.trans (anonymous fields listed unnamed))] at inside
      cases inside
    | false =>
      rw [unnamed] at object
      exact ⟨class', place, object⟩
  have owned : ∀ reference ∈ gathering.references, reference.Own schemaClass := by
    obtain ⟨earlier, later, whole, foreign, elsewhere⟩ := holding.references
    intro reference member here
    rw [whole, List.mem_append, List.mem_append] at member
    rcases member with (inside | inside) | inside
    · exact absurd here (foreign reference inside)
    · obtain ⟨filing, listed, inside⟩ := List.mem_flatMap.mp inside
      obtain ⟨-, place, object⟩ := origin filing listed reference inside
      exact ⟨by rw [object]; rfl, place⟩
    · exact absurd here (elsewhere reference inside)
  have joins := Reference.joins_of_run owned holding.opened (resolved_run run)
  obtain ⟨opened, keys, shaped⟩ := finish_class sole joins.opened finished
  refine ⟨filings, filed, opened, by rw [keys, joins.keys, holding.objects], fun distinct filing member => ?_⟩
  have pairs : (Assoc.keys (filings.map fun filing => (filing.key, filing.value))).Nodup := by
    rwa [Assoc.keys, List.map_map]
  have held : Assoc.get? (Path.inner gathering.classes schemaClass) filing.key = some filing.value := by
    rw [holding.objects, Assoc.putAll_of_absent (by simpa using pairs), List.nil_append]
    exact Assoc.get?_of_mem pairs (List.mem_map_of_mem member)
  obtain ⟨joined, joining, found⟩ := joins.objects filing.key filing.value held
  have belongs : ∀ filing ∈ filings, ∀ reference ∈ filing.references,
      reference.schemaClass = schemaClass ∧ reference.object = some filing.key := by
    intro filing member reference inside
    obtain ⟨class', -, object⟩ := origin filing member reference inside
    exact ⟨class', object⟩
  rw [filter_holding holding distinct belongs member] at joining
  obtain ⟨final, finishing, there⟩ := shaped filing.key joined found
  exact ⟨final, Result.bind_eq_ok.mpr ⟨joined, joining, finishing⟩, there⟩

/-- The objects of a class that is read from one collection are those of the items that are not passed over, each under
what it is called without the common partition. There are as many as items exactly if no two items are called the same,
and then each of them is what becomes of its own item by itself. -/
theorem classesFor_objects {classes : Fields} (read : reader.classesFor declaration sighting watched = .ok classes) :
    ∃ objects, (Assoc.get? classes schemaClass).getD .empty = .object objects ∧ (Assoc.keys objects).Nodup ∧
      (∀ key, key ∈ Assoc.keys objects ↔ ∃ raw ∈ accepted, (nameOf raw).asKey = .ok key) ∧
      (objects.length = accepted.length ↔ (accepted.map nameOf).Nodup) ∧
      ((accepted.map nameOf).Nodup → List.Forall₂ (fun raw object => (nameOf raw).asKey = .ok object.1 ∧
        reader.objectOf (reader.gathererOf declaration sighting watched) entry schemaClass raw = .ok object.2)
          accepted objects) := by
  obtain ⟨own, -⟩ := Catalog.split_of_sole sole
  obtain ⟨filings, filed, opened, keys, each⟩ :=
    classesFor_filed sole unmerged other answered spared taken anonymous read
  have rows := Result.mapM_eq_ok.mp filed
  have names : List.Forall₂ (fun (name : Value) (key : Key) => name.asKey = .ok key) (accepted.map nameOf)
      (filings.map Filing.key) := by
    rw [List.forall₂_map_left_iff, List.forall₂_map_right_iff]
    refine rows.imp fun raw filing here => ?_
    obtain ⟨fields, rfl, named, -⟩ := filing_cases own unmerged here
    exact named
  have distinct : (accepted.map nameOf).Nodup ↔ (filings.map Filing.key).Nodup := List.rel_nodup asKey_biUnique names
  have pairs : Assoc.keys (filings.map fun filing => (filing.key, filing.value)) = filings.map Filing.key :=
    List.map_map
  have length : (Path.inner classes schemaClass).length =
      (Assoc.putAll [] (filings.map fun filing => (filing.key, filing.value))).length := by
    simpa [Assoc.keys] using congrArg List.length keys
  refine ⟨Path.inner classes schemaClass, opened, ?_, fun key => ?_, ?_, fun apart => ?_⟩
  · have nothing : (Assoc.keys ([] : Fields)).Nodup := List.nodup_nil
    rw [keys]
    exact Assoc.nodup_keys_putAll nothing _
  · rw [keys, Assoc.mem_keys_putAll, pairs, Assoc.keys_nil, or_iff_left List.not_mem_nil]
    constructor
    · intro member
      obtain ⟨filing, listed, rfl⟩ := List.mem_map.mp member
      obtain ⟨raw, among, here⟩ := Result.mem_of_mapM filed filing listed
      obtain ⟨fields, rfl, named, -⟩ := filing_cases own unmerged here
      exact ⟨_, among, named⟩
    · rintro ⟨raw, among, named⟩
      exact (List.rel_mem asKey_biUnique named names).mp (List.mem_map_of_mem among)
  · rw [distinct, ← pairs, ← Assoc.length_putAll_iff, length, rows.length_eq, List.length_map]
  · have apart := distinct.mp apart
    have same : Assoc.keys (Path.inner classes schemaClass) = filings.map Filing.key := by
      rw [keys, Assoc.putAll_of_absent (by simpa [pairs] using apart), List.nil_append, pairs]
    have filedAs : List.Forall₂ (fun raw key => ∃ filing ∈ filings, key = filing.key ∧
        (reader.gathererOf declaration sighting watched).filing entry schemaClass raw = .ok filing) accepted
        (Assoc.keys (Path.inner classes schemaClass)) := by
      rw [same, List.forall₂_map_right_iff]
      exact List.forall₂_iff_zip.mpr ⟨rows.length_eq, fun member =>
        ⟨_, (List.of_mem_zip member).2, rfl, List.forall₂_zip rows member⟩⟩
    refine (Assoc.forall₂_of_keys filedAs (same ▸ apart)).imp ?_
    rintro raw ⟨key, object⟩ ⟨⟨filing, listed, rfl, here⟩, found⟩
    obtain ⟨object', formed, there⟩ := each apart filing listed
    obtain ⟨fields, rfl, named, -⟩ := filing_cases own unmerged here
    cases found.symm.trans there
    exact ⟨named, Result.bind_eq_ok.mpr ⟨filing, here, formed⟩⟩

end Listed

def router (routes : List Value) : DeviceReader where
  catalog := ⟨[Packaged.route]⟩
  device := {
    id := "router"
    identity := .ok { hostname := .text "router" }
    answer := fun query => .ok (.list (if query.path = "/tm/net/route" then routes else [])) }

def route (partition name gateway : String) : Value :=
  .object [("name", .text name), ("partition", .text partition), ("gw", .text gateway)]

def shownRoutes (routes : List Value) : Sighting :=
  ⟨{ hostname := .text "router" }, {}, [some (.list routes)]⟩

def twoRoutes : List Value := [route "Common" "default" "10.0.0.1", route "LOCAL_ONLY" "backup" "10.0.0.2"]

/-- Routes that are called differently are all there. -/
theorem classesFor_objects_twoRoutes :
    let gatherer := (router twoRoutes).gathererOf .empty (shownRoutes twoRoutes) []
    (router twoRoutes).catalog.entriesOf "Route" = [Packaged.route] ∧ Packaged.route.schemaMerge = none ∧
      (Packaged.route, some (.list twoRoutes)) ∈
        (router twoRoutes).catalog.entries.zip (shownRoutes twoRoutes).answers ∧
      (∀ answered ∈ (router twoRoutes).catalog.entries.zip (shownRoutes twoRoutes).answers,
        Spares "Route" answered) ∧
      gatherer.accepted Packaged.route "Route" twoRoutes = twoRoutes ∧
      (∀ fields, .object fields ∈ twoRoutes → (itemName fields).isNull = true →
        Reference.ofItem Packaged.route false none fields = .ok []) ∧
      ∃ classes objects, (router twoRoutes).classesFor .empty (shownRoutes twoRoutes) [] = .ok classes ∧
        (Assoc.get? classes "Route").getD .empty = .object objects ∧ objects.length = twoRoutes.length ∧
        List.Forall₂ (fun raw object => (nameOf raw).asKey = .ok object.1 ∧
          (router twoRoutes).objectOf gatherer Packaged.route "Route" raw = .ok object.2) twoRoutes objects := by
  intro gatherer
  have sole : (router twoRoutes).catalog.entriesOf "Route" = [Packaged.route] := rfl
  have answered : (Packaged.route, some (.list twoRoutes)) ∈
      (router twoRoutes).catalog.entries.zip (shownRoutes twoRoutes).answers := List.mem_singleton_self _
  have spared : ∀ answered ∈ (router twoRoutes).catalog.entries.zip (shownRoutes twoRoutes).answers,
      Spares "Route" answered := by
    intro answered member own
    cases List.mem_singleton.mp member
    cases own
  have taken : gatherer.accepted Packaged.route "Route" twoRoutes = twoRoutes := rfl
  have anonymous : ∀ fields, .object fields ∈ twoRoutes → (itemName fields).isNull = true →
      Reference.ofItem Packaged.route false none fields = .ok [] := by
    rintro fields (_ | ⟨_, _ | ⟨_, ⟨⟩⟩⟩) unnamed <;> cases unnamed
  obtain ⟨classes, read⟩ : Result.Succeeds ((router twoRoutes).classesFor .empty (shownRoutes twoRoutes) []) :=
    ⟨_, rfl⟩
  obtain ⟨objects, held, -, -, count, each⟩ :=
    classesFor_objects sole rfl (by decide) answered spared taken anonymous read
  have called : twoRoutes.map nameOf = [.text "default", .text "backup"] := rfl
  have distinct : (twoRoutes.map nameOf).Nodup := by simp [called]
  exact ⟨sole, rfl, answered, spared, taken, anonymous, classes, objects, read, held, count.mpr distinct, each distinct⟩

def rivalRoutes : List Value := [route "Common" "default" "10.0.0.1", route "LOCAL_ONLY" "default" "10.0.0.2"]

/-- Of routes that are called the same only the last one is there. -/
theorem rival_route_overwritten :
    let gatherer := (router rivalRoutes).gathererOf .empty (shownRoutes rivalRoutes) []
    (router rivalRoutes).catalog.entriesOf "Route" = [Packaged.route] ∧ Packaged.route.schemaMerge = none ∧
      gatherer.accepted Packaged.route "Route" rivalRoutes = rivalRoutes ∧
      (rivalRoutes.map fun raw => (raw.get? "partition", raw.get? "name")).Nodup ∧
      (router rivalRoutes).observed .empty {} = .ok ({ hostname := .text "router" }, [("Route", .object [
        ("default", .object [("name", .text "default"), ("gw", .text "10.0.0.2"), ("localOnly", .bool true)])])]) := by
  refine ⟨rfl, rfl, rfl, ?_, rfl⟩
  simp [rivalRoutes, route, Value.get?, Assoc.get?]

end DeviceReader

end Reconcile
