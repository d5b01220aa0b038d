import Reconcile.Proofs.Observation.Accepting
import Reconcile.Proofs.Observation.Referring
import Reconcile.Proofs.Observation.Watching

/-!
Collections as they are filed. A class that is read from one collection, into which nothing else is folded, holds what
each item that is not passed over is filed as, under the key that the item is filed under. What the items refer to comes
in the same order, between what other classes refer to.
-/

namespace Reconcile

namespace Shaping

theorem item_ne_null {schemaClass : String} {context : ShapingContext} (plain : context.entry.schemaMerge = none)
    {mapped : Fields} {shaped : Value} (done : item schemaClass context (.object mapped) = .ok shaped) :
    shaped ≠ .null := by
  unfold item at done
  split at done
  next => cases done; exact nofun
  next => cases done; exact nofun
  next =>
    obtain ⟨fields, _, done⟩ := Result.bind_eq_ok.mp done
    obtain ⟨monitors, _, done⟩ := Result.bind_eq_ok.mp done
    cases done
    exact nofun
  next => cases done; exact nofun
  next =>
    obtain ⟨value, _, done⟩ := Result.bind_eq_ok.mp done
    obtain ⟨key, _, done⟩ := Result.bind_eq_ok.mp done
    cases done
    exact nofun
  next =>
    rw [authentication, plain] at done
    cases done
    exact nofun
  next => cases done; exact nofun

end Shaping

def Gathering.behind (earlier : List Reference) (gathering : Gathering) : Gathering :=
  ⟨gathering.classes, earlier ++ gathering.references⟩

namespace Gatherer

/-- An item as it is filed: the key, what is stored under it, and what it refers to. -/
structure Filing where
  key : Key
  value : Value
  references : List Reference

def nameOf : Value → Value
  | .object fields => itemName fields
  | _ => .null

def filing (gatherer : Gatherer) (entry : Entry) (schemaClass : String) (raw : Value) : Result Filing := do
  let fields ← raw.fieldsOrFail
  let value? ← gatherer.itemValue? entry schemaClass fields
  let key ← (itemName fields).asKey
  let references ← Reference.ofItem entry gatherer.translate (← objectName entry (itemName fields)) fields
  return ⟨key, value?.getD .null, references⟩

def Filing.addTo (schemaClass : String) (gathering : Gathering) (filing : Filing) : Gathering :=
  ⟨Assoc.put gathering.classes schemaClass
      (.object (Assoc.put (Path.inner gathering.classes schemaClass) filing.key filing.value)),
    gathering.references ++ filing.references⟩

/-- Whether a class is an object, as far as it has begun. -/
def Open (schemaClass : String) (classes : Fields) : Prop :=
  (Assoc.get? classes schemaClass).getD .empty = .object (Path.inner classes schemaClass)

variable {gatherer : Gatherer} {entry : Entry} {schemaClass : String}

theorem open_of_absent {classes : Fields} (absent : Assoc.get? classes schemaClass = none) :
    Open schemaClass classes := by
  rw [Open, Path.inner, absent]
  rfl

theorem open_addTo (schemaClass : String) (gathering : Gathering) (filing : Filing) :
    Open schemaClass (filing.addTo schemaClass gathering).classes := by
  unfold Open Filing.addTo
  dsimp only
  rw [Path.inner_eq_inside (Assoc.put _ _ _), Assoc.get?_put_self]
  rfl

theorem store_eq (unmerged : entry.schemaMerge = none) {classes : Fields} (room : Open schemaClass classes)
    (name value : Value) :
    store entry schemaClass (some name) value classes =
      (fun key => Assoc.put classes schemaClass (.object (Assoc.put (Path.inner classes schemaClass) key value))) <$>
        name.asKey := by
  unfold store
  rw [unmerged]
  dsimp only
  rw [room]
  cases name.asKey <;> rfl

theorem itemValue?_isSome_of_unmerged (unmerged : entry.schemaMerge = none) {fields : Fields} {value? : Option Value}
    (shaped : gatherer.itemValue? entry schemaClass fields = .ok value?) : ∃ value, value? = some value := by
  unfold itemValue? at shaped
  obtain ⟨_, _, rest⟩ := Result.bind_eq_ok.mp shaped
  obtain ⟨_, _, rest⟩ := Result.bind_eq_ok.mp rest
  obtain ⟨mapped, _, rest⟩ := Result.bind_eq_ok.mp rest
  cases mapped with
  | object mapped =>
    obtain ⟨value, here, rest⟩ := Result.bind_eq_ok.mp rest
    have something := Shaping.item_ne_null unmerged here
    cases value with
    | null => exact absurd rfl something
    | _ => cases rest; exact ⟨_, rfl⟩
  | _ => cases rest; exact ⟨_, rfl⟩

theorem keepItem_eq (unmerged : entry.schemaMerge = none) {gathering : Gathering}
    (room : Open schemaClass gathering.classes) (fields : Fields) :
    gatherer.keepItem entry schemaClass gathering fields =
      Filing.addTo schemaClass gathering <$> gatherer.filing entry schemaClass (.object fields) := by
  have opened : (Value.object fields).fieldsOrFail = .ok fields := rfl
  unfold keepItem filing
  rw [opened, Result.ok_bind]
  cases shaped : gatherer.itemValue? entry schemaClass fields with
  | error fault => rfl
  | ok value? =>
    obtain ⟨value, rfl⟩ := itemValue?_isSome_of_unmerged unmerged shaped
    rw [Result.ok_bind, Result.ok_bind]
    dsimp only
    rw [store_eq unmerged room]
    cases (itemName fields).asKey with
    | error fault => rfl
    | ok key =>
      cases objectName entry (itemName fields) with
      | error fault => rfl
      | ok object =>
        simp only [refer, Functor.map, Except.map, Result.ok_bind]
        cases Reference.ofItem entry gatherer.translate object fields <;> rfl

theorem takeItem_eq (unmerged : entry.schemaMerge = none) (other : schemaClass ≠ "DbVariables") {raw : Value}
    (kept : gatherer.rejects entry schemaClass raw = false) {gathering : Gathering}
    (room : Open schemaClass gathering.classes) :
    gatherer.takeItem entry schemaClass gathering raw =
      Filing.addTo schemaClass gathering <$> gatherer.filing entry schemaClass raw := by
  cases raw with
  | object fields =>
    have wanted : gatherer.isUnwanted schemaClass (itemName fields) = .ok false := if_pos other
    rw [takeItem_kept kept, wanted, ← keepItem_eq unmerged room]
    rfl
  | _ => rw [takeItem_atom rfl]; rfl

theorem takeItems_eq (unmerged : entry.schemaMerge = none) (other : schemaClass ≠ "DbVariables") (items : List Value)
    {gathering : Gathering} (room : Open schemaClass gathering.classes) :
    items.foldlM (gatherer.takeItem entry schemaClass) gathering =
      (fun filings => filings.foldl (Filing.addTo schemaClass) gathering) <$>
        (gatherer.accepted entry schemaClass items).mapM (gatherer.filing entry schemaClass) := by
  rw [foldlM_accepted]
  refine Result.foldlM_eq_map (fun state => Open schemaClass state.classes)
    (fun state filing _ => open_addTo schemaClass state filing) ?_ room
  intro raw member state room
  exact takeItem_eq unmerged other (by simpa using (List.mem_filter.mp member).2) room

theorem addTo_foldl (filings : List Filing) (gathering : Gathering) :
    Path.inner (filings.foldl (Filing.addTo schemaClass) gathering).classes schemaClass =
        Assoc.putAll (Path.inner gathering.classes schemaClass) (filings.map fun filing => (filing.key, filing.value)) ∧
      (filings.foldl (Filing.addTo schemaClass) gathering).references =
        gathering.references ++ filings.flatMap Filing.references := by
  induction filings generalizing gathering with
  | nil => exact ⟨rfl, (List.append_nil _).symm⟩
  | cons filing rest ih =>
    have inside : Path.inner (filing.addTo schemaClass gathering).classes schemaClass =
        Assoc.put (Path.inner gathering.classes schemaClass) filing.key filing.value := by
      rw [Path.inner, Filing.addTo, Assoc.get?_put_self]
    obtain ⟨classes, references⟩ := ih (filing.addTo schemaClass gathering)
    rw [List.foldl_cons, classes, references, inside]
    exact ⟨rfl, by simp [Filing.addTo]⟩

theorem open_foldl {gathering : Gathering} (room : Open schemaClass gathering.classes) (filings : List Filing) :
    Open schemaClass (filings.foldl (Filing.addTo schemaClass) gathering).classes :=
  List.foldlRecOn (motive := fun state => Open schemaClass state.classes) filings _ room
    fun state _ filing _ => open_addTo schemaClass state filing

theorem refer_behind (earlier : List Reference) (object : Option Key) (raw classes : Fields) (gathering : Gathering) :
    gatherer.refer entry object raw classes (Gathering.behind earlier gathering) =
      Gathering.behind earlier <$> gatherer.refer entry object raw classes gathering := by
  unfold refer Gathering.behind
  cases Reference.ofItem entry gatherer.translate object raw with
  | error fault => rfl
  | ok references =>
    simp only [Result.ok_bind, List.append_assoc]
    rfl

theorem begin_behind (earlier : List Reference) (wanted : Bool) (gathering : Gathering) :
    begin schemaClass wanted (Gathering.behind earlier gathering) =
      Gathering.behind earlier (begin schemaClass wanted gathering) := by
  unfold begin
  split <;> rfl

theorem keepItem_behind (earlier : List Reference) (fields : Fields) (gathering : Gathering) :
    gatherer.keepItem entry schemaClass (Gathering.behind earlier gathering) fields =
      Gathering.behind earlier <$> gatherer.keepItem entry schemaClass gathering fields := by
  unfold keepItem
  rw [map_bind]
  refine bind_congr fun value? => ?_
  cases value? with
  | none => rfl
  | some value =>
    simp only [map_bind]
    exact bind_congr fun classes => bind_congr fun object => refer_behind earlier object fields classes gathering

theorem takeItem_behind (earlier : List Reference) (raw : Value) (gathering : Gathering) :
    gatherer.takeItem entry schemaClass (Gathering.behind earlier gathering) raw =
      Gathering.behind earlier <$> gatherer.takeItem entry schemaClass gathering raw := by
  cases raw with
  | object fields =>
    rw [takeItem_object, takeItem_object, map_bind]
    refine bind_congr fun ignored => ?_
    split
    next => rfl
    next =>
      split
      next => rfl
      next =>
        rw [map_bind]
        refine bind_congr fun unwanted => ?_
        split
        next => rfl
        next => exact keepItem_behind earlier fields gathering
  | _ => rw [takeItem_atom rfl, takeItem_atom rfl]; rfl

theorem takeObject_behind (earlier : List Reference) (raw : Fields) (gathering : Gathering) :
    gatherer.takeObject entry schemaClass (Gathering.behind earlier gathering) raw =
      Gathering.behind earlier <$> gatherer.takeObject entry schemaClass gathering raw := by
  rw [takeObject_eq, takeObject_eq, map_bind]
  refine bind_congr fun ignored => ?_
  split
  next => rfl
  next =>
    simp only [map_bind]
    refine bind_congr fun shaped => bind_congr fun mapped => bind_congr fun value => ?_
    split
    next => rfl
    next =>
      rw [map_bind]
      exact bind_congr fun classes => refer_behind earlier none raw classes gathering

theorem takeAnswer_behind (earlier : List Reference) (answered : Entry × Option Value) (gathering : Gathering) :
    gatherer.takeAnswer (Gathering.behind earlier gathering) answered.1 answered.2 =
      Gathering.behind earlier <$> gatherer.takeAnswer gathering answered.1 answered.2 := by
  unfold takeAnswer
  split
  next => rw [begin_behind]; rfl
  next => rfl
  next schemaClass items _ _ =>
    rw [begin_behind]
    exact Result.foldlM_comm (fun raw _ state => takeItem_behind earlier raw state) _
  next => exact takeObject_behind earlier _ gathering
  next => rfl

theorem takeAnswer_foreign {answered : Entry × Option Value} (other : answered.1.class? ≠ some schemaClass)
    {before after : Gathering} (taken : gatherer.takeAnswer before answered.1 answered.2 = .ok after)
    (foreign : ∀ reference ∈ before.references, reference.schemaClass ≠ schemaClass) :
    ∀ reference ∈ after.references, reference.schemaClass ≠ schemaClass := by
  cases own : answered.1.class? with
  | none => exact (takeAnswer_classless own taken).1 ▸ foreign
  | some name =>
    intro reference member
    rcases (takeAnswer_grown own taken).references reference member with earlier | ⟨same, _⟩
    · exact foreign reference earlier
    · rw [same]
      rintro rfl
      exact other own

theorem takeAnswers_foreign {answers : List (Entry × Option Value)}
    (apart : ∀ answered ∈ answers, answered.1.class? ≠ some schemaClass) {before after : Gathering}
    (foreign : ∀ reference ∈ before.references, reference.schemaClass ≠ schemaClass)
    (taken : answers.foldlM (fun gathering answered => gatherer.takeAnswer gathering answered.1 answered.2) before =
      .ok after) : ∀ reference ∈ after.references, reference.schemaClass ≠ schemaClass :=
  Result.foldlM_keeps (fun state => ∀ reference ∈ state.references, reference.schemaClass ≠ schemaClass)
    (fun answered member _ _ holds step => takeAnswer_foreign (apart answered member) step holds) foreign taken

theorem takeAnswers_spared {answers : List (Entry × Option Value)}
    (apart : ∀ answered ∈ answers, answered.1.class? ≠ some schemaClass)
    (spared : ∀ answered ∈ answers, Spares schemaClass answered) {before after : Gathering}
    (taken : answers.foldlM (fun gathering answered => gatherer.takeAnswer gathering answered.1 answered.2) before =
      .ok after) :
    Assoc.get? after.classes schemaClass = Assoc.get? before.classes schemaClass ∧
      ∃ fresh, after.references = before.references ++ fresh ∧
        ∀ reference ∈ fresh, reference.schemaClass ≠ schemaClass := by
  constructor
  · exact Result.foldlM_keeps
      (fun state => Assoc.get? state.classes (.named schemaClass) = Assoc.get? before.classes schemaClass)
      (fun answered member state next holds step =>
        (takeAnswer_spared (apart answered member) (spared answered member) step).trans holds) rfl taken
  · have bare : before = Gathering.behind before.references ⟨before.classes, []⟩ := by
      rw [Gathering.behind, List.append_nil]
    rw [bare, Result.foldlM_comm fun answered _ state => takeAnswer_behind before.references answered state] at taken
    obtain ⟨fresh, run, rfl⟩ := Result.map_eq_ok.mp taken
    exact ⟨fresh.references, rfl, takeAnswers_foreign apart (fun _ member => (List.not_mem_nil member).elim) run⟩

theorem begin_fresh {gathering : Gathering} (absent : Assoc.get? gathering.classes schemaClass = none) (wanted : Bool) :
    Open schemaClass (begin schemaClass wanted gathering).classes ∧
      Path.inner (begin schemaClass wanted gathering).classes schemaClass = [] := by
  unfold begin
  split
  next =>
    have started : Assoc.get? (Assoc.putNew gathering.classes (.named schemaClass) .empty) schemaClass =
        some .empty := by
      rw [Assoc.get?_putNew, if_pos rfl, absent]
      rfl
    rw [Open, Path.inner_eq_inside, started]
    exact ⟨rfl, rfl⟩
  next =>
    refine ⟨open_of_absent absent, ?_⟩
    rw [Path.inner_eq_inside, absent]
    rfl

/-- What has been gathered of a class that is read from one collection, and what that refers to. -/
structure Holding (schemaClass : String) (filings : List Filing) (gathering : Gathering) : Prop where
  opened : Open schemaClass gathering.classes
  objects : Path.inner gathering.classes schemaClass =
    Assoc.putAll [] (filings.map fun filing => (filing.key, filing.value))
  references : ∃ earlier later, gathering.references = earlier ++ filings.flatMap Filing.references ++ later ∧
    (∀ reference ∈ earlier, reference.schemaClass ≠ schemaClass) ∧
    ∀ reference ∈ later, reference.schemaClass ≠ schemaClass

theorem takeAnswers_cut (own : entry.class? = some schemaClass) (unmerged : entry.schemaMerge = none)
    (other : schemaClass ≠ "DbVariables") {first last : List (Entry × Option Value)} (items : List Value)
    (apart : ∀ answered ∈ first, answered.1.class? ≠ some schemaClass)
    (spared : ∀ answered ∈ first, Spares schemaClass answered) :
    (first ++ (entry, some (.list items)) :: last).foldlM
        (fun gathering answered => gatherer.takeAnswer gathering answered.1 answered.2) {} = (do
      let before ← first.foldlM (fun gathering answered => gatherer.takeAnswer gathering answered.1 answered.2) {}
      let filings ← (gatherer.accepted entry schemaClass items).mapM (gatherer.filing entry schemaClass)
      last.foldlM (fun gathering answered => gatherer.takeAnswer gathering answered.1 answered.2)
        (filings.foldl (Filing.addTo schemaClass) (begin schemaClass items.isEmpty before))) := by
  rw [List.foldlM_append]
  cases early : first.foldlM (fun gathering answered => gatherer.takeAnswer gathering answered.1 answered.2) {} with
  | error fault => rfl
  | ok before =>
    have absent : Assoc.get? before.classes schemaClass = none := (takeAnswers_spared apart spared early).1
    obtain ⟨room, -⟩ := begin_fresh absent items.isEmpty
    rw [Result.ok_bind, Result.ok_bind, List.foldlM_cons]
    dsimp only
    rw [takeAnswer_items own, takeItems_eq unmerged other items room]
    cases (gatherer.accepted entry schemaClass items).mapM (gatherer.filing entry schemaClass) <;> rfl

/-- Putting such answers together holds what is filed of the one for the class. -/
theorem holding_of_takeAnswers (own : entry.class? = some schemaClass) (unmerged : entry.schemaMerge = none)
    (other : schemaClass ≠ "DbVariables") {first last : List (Entry × Option Value)} {items : List Value}
    (apart : ∀ answered ∈ first ++ last, answered.1.class? ≠ some schemaClass)
    (spared : ∀ answered ∈ first ++ last, Spares schemaClass answered) {gathering : Gathering}
    (gathered : (first ++ (entry, some (.list items)) :: last).foldlM
      (fun gathering answered => gatherer.takeAnswer gathering answered.1 answered.2) {} = .ok gathering) :
    ∃ filings, (gatherer.accepted entry schemaClass items).mapM (gatherer.filing entry schemaClass) = .ok filings ∧
      Holding schemaClass filings gathering := by
  rw [List.forall_mem_append] at apart spared
  rw [takeAnswers_cut own unmerged other items apart.1 spared.1] at gathered
  obtain ⟨before, early, rest⟩ := Result.bind_eq_ok.mp gathered
  obtain ⟨filings, filed, late⟩ := Result.bind_eq_ok.mp rest
  obtain ⟨absent, earlier, first, foreign⟩ := takeAnswers_spared apart.1 spared.1 early
  obtain ⟨same, later, last, apart⟩ := takeAnswers_spared apart.2 spared.2 late
  obtain ⟨room, bare⟩ := begin_fresh absent items.isEmpty
  obtain ⟨objects, references⟩ := addTo_foldl filings (begin schemaClass items.isEmpty before)
  have room := open_foldl room filings
  refine ⟨filings, filed, ?_, ?_, earlier, later, ?_, foreign, apart⟩
  · rwa [Open, Path.inner_eq_inside, same, ← Path.inner_eq_inside]
  · rw [Path.inner_eq_inside, same, ← Path.inner_eq_inside, objects, bare]
  · rw [last, references, begin_references, first]
    rfl

end Gatherer

namespace Catalog

theorem split_of_sole {catalog : Catalog} {schemaClass : String} {entry : Entry}
    (sole : catalog.entriesOf schemaClass = [entry]) :
    entry.class? = some schemaClass ∧ ∃ front back, catalog.entries = front ++ entry :: back ∧
      ∀ other ∈ front ++ back, other.class? ≠ some schemaClass := by
  obtain ⟨front, back, split, before, own, behind⟩ := List.filter_eq_cons_iff.mp sole
  have after := List.filter_eq_nil_iff.mp behind
  simp only [beq_iff_eq] at before own after
  exact ⟨own, front, back, split, List.forall_mem_append.mpr ⟨before, after⟩⟩

theorem cut_of_sole {catalog : Catalog} {schemaClass : String} {entry : Entry}
    (sole : catalog.entriesOf schemaClass = [entry]) {answers : List (Option Value)} {answer? : Option Value}
    (answered : (entry, answer?) ∈ catalog.entries.zip answers) :
    ∃ first last, catalog.entries.zip answers = first ++ (entry, answer?) :: last ∧
      ∀ other ∈ first ++ last, other.1.class? ≠ some schemaClass := by
  obtain ⟨own, front, back, split, others⟩ := split_of_sole sole
  rw [split] at answered ⊢
  rcases Gatherer.zip_cases front entry back answers with all | ⟨first, found, last, cut, all⟩
  · exact absurd own (others _ (List.mem_append_left back (all _ answered)))
  · have apart : ∀ other ∈ first ++ last, other.1.class? ≠ some schemaClass := fun other member =>
      others _ (all other member)
    have here : (entry, answer?) = (entry, found) := by
      rw [cut, List.mem_append, List.mem_cons] at answered
      by_contra differ
      refine apart (entry, answer?) ?_ own
      rw [List.mem_append]
      tauto
    cases here
    exact ⟨first, last, cut, apart⟩

end Catalog

end Reconcile
