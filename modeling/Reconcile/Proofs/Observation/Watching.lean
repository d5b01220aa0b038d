import Reconcile.Proofs.Observation.Gathering
import Reconcile.Proofs.Observation.Outcome
import Reconcile.Proofs.Path

/-!
Which database variables a read keeps: those listed by the device that are watched. Reading again while watching the
variables that were kept, beside those declared, therefore makes no difference.
-/

namespace Reconcile

theorem Reference.spliced_frame {reference : Reference} {mapper : ItemMapper} {result : Value} {current after : Fields}
    (spliced : reference.spliced mapper result current = .ok after) {key : Key}
    (other : key ≠ reference.schemaClass) : Assoc.get? after key = Assoc.get? current key := by
  unfold Reference.spliced at spliced
  dsimp only at spliced
  split at spliced
  next =>
    obtain ⟨value?, _, done⟩ := Result.bind_eq_ok.mp spliced
    cases value? with
    | none => cases done; rfl
    | some value =>
      cases done
      exact Path.get?_put_head other _ _ _
  next => cases spliced; rfl

namespace Gatherer

def variableName : Value → Option Key
  | .object fields =>
    match itemName fields with
    | .text name => some (.named name)
    | _ => none
  | _ => none

def variablesOf (classes : Fields) : List Key :=
  Assoc.keys (Path.inner classes "DbVariables")

/-- Whether the variables read are those that are watched among some items. -/
structure Kept (watched : List Key) (items : List Value) (classes : Fields) : Prop where
  sound : ∀ key ∈ variablesOf classes, key ∈ watched
  complete : ∀ raw ∈ items, ∀ name, variableName raw = some name → name ∈ watched → name ∈ variablesOf classes

/-- Entries that list all variables as they are. -/
structure ListsVariables (entry : Entry) : Prop where
  own : entry.class? = some "DbVariables"
  ignore : entry.ignore = []
  partitions : entry.partitions = none
  schemaMerge : entry.schemaMerge = none
  references : entry.references = []

theorem Kept.congr {watched : List Key} {items : List Value} {classes other : Fields}
    (kept : Kept watched items classes)
    (same : Assoc.get? other "DbVariables" = Assoc.get? classes "DbVariables") : Kept watched items other := by
  have keys : variablesOf other = variablesOf classes := by
    rw [variablesOf, variablesOf, Path.inner_eq_inside, Path.inner_eq_inside, same]
  exact ⟨keys ▸ kept.sound, keys ▸ kept.complete⟩

variable {gatherer : Gatherer} {entry : Entry} {before after : Gathering}

theorem itemValue?_isSome {fields : Fields} {value? : Option Value}
    (shaped : gatherer.itemValue? entry "DbVariables" fields = .ok value?) : value?.isSome = true := by
  unfold itemValue? at shaped
  obtain ⟨_, _, rest⟩ := Result.bind_eq_ok.mp shaped
  obtain ⟨_, _, rest⟩ := Result.bind_eq_ok.mp rest
  obtain ⟨mapped, _, rest⟩ := Result.bind_eq_ok.mp rest
  cases mapped with
  | object mapped =>
    cases rest
    rfl
  | _ => cases rest; rfl

theorem takeItem_listed (lists : ListsVariables entry) (fields : Fields) :
    gatherer.takeItem entry "DbVariables" before (.object fields) = (do
      if ← gatherer.isUnwanted "DbVariables" (itemName fields) then return before
      gatherer.keepItem entry "DbVariables" before fields) := by
  have heeded : Observation.isIgnored entry.ignore (.object fields) = .ok false := by
    rw [lists.ignore]
    rfl
  have inside : inPartition entry fields = true := by
    rw [inPartition, lists.partitions]
  rw [takeItem_object, heeded, Result.ok_bind, inside]
  rfl

theorem takeItem_named (lists : ListsVariables entry) {fields : Fields} {name : String}
    (named : itemName fields = .text name)
    (taken : gatherer.takeItem entry "DbVariables" before (.object fields) = .ok after) :
    (.named name ∈ gatherer.watched ∧ ∃ value, after.classes = Assoc.put before.classes "DbVariables"
        (.object (Assoc.put (Path.inner before.classes "DbVariables") name value))) ∨
      after = before ∧ .named name ∉ gatherer.watched := by
  rw [takeItem_listed lists] at taken
  obtain ⟨unwanted, asked, rest⟩ := Result.bind_eq_ok.mp taken
  rw [named] at asked
  cases asked
  cases member : gatherer.watched.contains (.named name) with
  | false =>
    simp only [member, Bool.not_false, ↓reduceIte] at rest
    cases rest
    exact .inr ⟨rfl, by simpa using member⟩
  | true =>
    simp only [member, Bool.not_true, Bool.false_eq_true, ↓reduceIte] at rest
    rcases keepItem_cases rest with ⟨absent, _⟩ | ⟨value, classes, object, _, stored, referred⟩
    · cases itemValue?_isSome absent
    · rw [named] at stored
      obtain ⟨key, same, put⟩ := store_named lists.schemaMerge stored
      cases same
      refine .inl ⟨by simpa using member, value, ?_⟩
      rw [(grown_of_stored lists.own stored referred).2, put]

theorem takeItem_variable (lists : ListsVariables entry) {raw : Value}
    (taken : gatherer.takeItem entry "DbVariables" before raw = .ok after) :
    (∃ name value, variableName raw = some name ∧ name ∈ gatherer.watched ∧
        after.classes = Assoc.put before.classes "DbVariables"
          (.object (Assoc.put (Path.inner before.classes "DbVariables") name value))) ∨
      after = before ∧ ∀ name, variableName raw = some name → name ∉ gatherer.watched := by
  cases raw with
  | object fields =>
    cases named : itemName fields with
    | text name =>
      have listed : variableName (.object fields) = some (.named name) := by simp [variableName, named]
      rcases takeItem_named lists named taken with ⟨member, value, put⟩ | ⟨same, apart⟩
      · exact .inl ⟨name, value, listed, member, put⟩
      · exact .inr ⟨same, fun other found => Option.some.inj (listed.symm.trans found) ▸ apart⟩
    | list items =>
      rw [takeItem_listed lists, named] at taken
      cases taken
    | object inner =>
      rw [takeItem_listed lists, named] at taken
      cases taken
    | _ =>
      rw [takeItem_listed lists, named] at taken
      cases taken
      exact .inr ⟨rfl, fun other same => by simp [variableName, named] at same⟩
  | _ =>
    refine .inr ⟨?_, fun other same => by cases same⟩
    obtain ⟨fields, same | ⟨impossible, _⟩⟩ := takeItem_cases taken
    · exact same
    · cases impossible

theorem mem_variablesOf_put (classes : Fields) (name : Key) (value : Value) (key : Key) :
    key ∈ variablesOf (Assoc.put classes "DbVariables"
        (.object (Assoc.put (Path.inner classes "DbVariables") name value))) ↔
      key = name ∨ key ∈ variablesOf classes := by
  have inside : Path.inner (Assoc.put classes "DbVariables"
      (.object (Assoc.put (Path.inner classes "DbVariables") name value))) "DbVariables" =
        Assoc.put (Path.inner classes "DbVariables") name value := by
    rw [Path.inner, Assoc.get?_put_self]
  rw [variablesOf, inside, Assoc.keys_put, variablesOf]
  split
  next present =>
    constructor
    · exact .inr
    · rintro (rfl | member)
      exacts [present, member]
  next => simp [or_comm]

theorem foldlM_kept (lists : ListsVariables entry) {items : List Value} {processed : List Value}
    (kept : Kept gatherer.watched processed before.classes)
    (taken : items.foldlM (gatherer.takeItem entry "DbVariables") before = .ok after) :
    Kept gatherer.watched (processed ++ items) after.classes := by
  induction items generalizing before processed with
  | nil =>
    cases taken
    rwa [List.append_nil]
  | cons raw rest ih =>
    rw [List.foldlM_cons] at taken
    obtain ⟨middle, first, later⟩ := Result.bind_eq_ok.mp taken
    rw [List.append_cons]
    refine ih ?_ later
    rcases takeItem_variable lists first with ⟨name, value, listed, watched, stored⟩ | ⟨rfl, unwatched⟩
    · constructor
      · intro key member
        rw [stored, mem_variablesOf_put] at member
        rcases member with rfl | earlier
        · exact watched
        · exact kept.sound key earlier
      · intro other member key named inside
        rw [stored, mem_variablesOf_put]
        rcases List.mem_append.mp member with earlier | here
        · exact .inr (kept.complete other earlier key named inside)
        · rw [List.mem_singleton.mp here, listed] at named
          exact .inl (Option.some.inj named).symm
    · refine ⟨kept.sound, fun other member key named inside => ?_⟩
      rcases List.mem_append.mp member with earlier | here
      · exact kept.complete other earlier key named inside
      · rw [List.mem_singleton.mp here] at named
        exact absurd inside (unwatched key named)

theorem takeAnswer_kept (lists : ListsVariables entry) {items : List Value}
    (fresh : Assoc.get? before.classes "DbVariables" = none)
    (taken : gatherer.takeAnswer before entry (some (.list items)) = .ok after) :
    Kept gatherer.watched items after.classes := by
  unfold takeAnswer at taken
  rw [lists.own] at taken
  have start : Kept gatherer.watched [] (begin "DbVariables" items.isEmpty before).classes := by
    have nothing : variablesOf (begin "DbVariables" items.isEmpty before).classes = [] := by
      unfold begin
      split
      next =>
        rw [variablesOf, Path.inner_eq_inside, Assoc.get?_putNew, if_pos rfl, fresh]
        rfl
      next =>
        rw [variablesOf, Path.inner_eq_inside, fresh]
        rfl
    exact ⟨by simp [nothing], fun _ member => (List.not_mem_nil member).elim⟩
  exact foldlM_kept lists start taken

section Watched

variable {translate : Bool} {mapper : ItemMapper} {declaration : Value} {watched other : List Key}

theorem isUnwanted_watched {schemaClass : String} {fields : Fields} (agree : schemaClass = "DbVariables" →
      ∀ name, variableName (.object fields) = some name → (name ∈ watched ↔ name ∈ other)) :
    Gatherer.isUnwanted ⟨translate, mapper, declaration, watched⟩ schemaClass (itemName fields) =
      Gatherer.isUnwanted ⟨translate, mapper, declaration, other⟩ schemaClass (itemName fields) := by
  by_cases own : schemaClass = "DbVariables"
  · cases named : itemName fields with
    | text name =>
      have same : watched.contains (.named name) = other.contains (.named name) := by
        rw [Bool.eq_iff_iff, List.contains_iff_mem, List.contains_iff_mem]
        exact agree own (.named name) (by simp [variableName, named])
      simp only [isUnwanted, same]
    | _ => rfl
  · simp only [isUnwanted, ne_eq, own, not_false_eq_true, ↓reduceIte]

theorem takeItem_watched {schemaClass : String} {raw : Value} (agree : schemaClass = "DbVariables" →
      ∀ name, variableName raw = some name → (name ∈ watched ↔ name ∈ other)) :
    Gatherer.takeItem ⟨translate, mapper, declaration, watched⟩ entry schemaClass before raw =
      Gatherer.takeItem ⟨translate, mapper, declaration, other⟩ entry schemaClass before raw := by
  cases raw with
  | object fields =>
    rw [takeItem_object, takeItem_object, isUnwanted_watched agree]
    rfl
  | _ => rfl

theorem takeAnswer_watched {answer? : Option Value} (agree : entry.class? = some "DbVariables" →
      ∀ items, answer? = some (.list items) → ∀ raw ∈ items, ∀ name, variableName raw = some name →
        (name ∈ watched ↔ name ∈ other)) :
    Gatherer.takeAnswer ⟨translate, mapper, declaration, watched⟩ before entry answer? =
      Gatherer.takeAnswer ⟨translate, mapper, declaration, other⟩ before entry answer? := by
  unfold takeAnswer
  cases own : entry.class? with
  | none =>
    cases answer? with
    | none => rfl
    | some answer => cases answer <;> rfl
  | some schemaClass =>
    cases answer? with
    | none => rfl
    | some answer =>
      cases answer with
      | list items =>
        apply Result.foldlM_congr
        intro raw member state
        apply takeItem_watched
        intro same
        exact agree (own.trans (congrArg some same)) items rfl raw member
      | _ => rfl

end Watched

end Gatherer

/-- Catalogs in which one entry alone lists the database variables. -/
def Catalog.ListsOnce (catalog : Catalog) : Prop :=
  ∃ front entry back, catalog.entries = front ++ entry :: back ∧ Gatherer.ListsVariables entry ∧
    ∀ other ∈ front ++ back, other.class? ≠ some "DbVariables"

namespace Observation

theorem get?_stripFields (nameless : Bool) (fields : Fields) (key : Key) :
    Assoc.get? (stripFields nameless fields) key =
      if isBookkeeping nameless key then none else (Assoc.get? fields key).map (strip nameless) := by
  induction fields with
  | nil => exact (ite_self _).symm
  | cons entry rest ih =>
    obtain ⟨head, value⟩ := entry
    rw [stripFields, Assoc.get?]
    by_cases same : head = key
    · subst same
      split
      next dropped => rw [ih, if_pos dropped]
      next => rw [Assoc.get?, if_pos rfl, if_pos rfl, Option.map_some]
    · rw [if_neg same, ← ih]
      split
      next => rfl
      next => rw [Assoc.get?, if_neg same]

end Observation

namespace Gatherer

variable {gatherer : Gatherer} {before after : Gathering}

/-- Whether an answer leaves a class to its own entry: one without a class does not have it. -/
def Spares (schemaClass : String) (answered : Entry × Option Value) : Prop :=
  answered.1.class? = none → ∀ fields, answered.2 = some (.object fields) → Assoc.get? fields schemaClass = none

theorem takeAnswer_spared {schemaClass : String} {answered : Entry × Option Value}
    (other : answered.1.class? ≠ some schemaClass) (spares : Spares schemaClass answered)
    (taken : gatherer.takeAnswer before answered.1 answered.2 = .ok after) :
    Assoc.get? after.classes schemaClass = Assoc.get? before.classes schemaClass := by
  cases own : answered.1.class? with
  | some name =>
    have differ : Key.named schemaClass ≠ name := by
      intro same
      rw [own, ← Key.named.inj same] at other
      exact other rfl
    exact (takeAnswer_grown own taken).classes _ differ
  | none =>
    rcases (takeAnswer_classless own taken).2 with same | ⟨fields, answer, same⟩
    · rw [same]
    · rw [same]
      have absent : Assoc.get? (Observation.stripFields true fields) schemaClass = none := by
        rw [Observation.get?_stripFields, spares own fields answer]
        exact ite_self _
      exact Assoc.get?_putAll_of_absent absent _

theorem zip_cases (front : List Entry) (entry : Entry) (back : List Entry) (answers : List (Option Value)) :
    (∀ answered ∈ (front ++ entry :: back).zip answers, answered.1 ∈ front) ∨
      ∃ first answer last, (front ++ entry :: back).zip answers = first ++ (entry, answer) :: last ∧
        ∀ answered ∈ first ++ last, answered.1 ∈ front ++ back := by
  induction front generalizing answers with
  | nil =>
    cases answers with
    | nil => exact .inl (by simp)
    | cons answer rest =>
      refine .inr ⟨[], answer, back.zip rest, rfl, fun answered member => ?_⟩
      exact (List.of_mem_zip member).1
  | cons head front ih =>
    cases answers with
    | nil => exact .inl (by simp)
    | cons answer rest =>
      rcases ih rest with all | ⟨first, found, last, same, all⟩
      · refine .inl fun answered member => ?_
        rcases List.mem_cons.mp member with rfl | later
        · exact List.mem_cons_self ..
        · exact List.mem_cons_of_mem _ (all answered later)
      · refine .inr ⟨(head, answer) :: first, found, last, by simp [same], fun answered member => ?_⟩
        rcases List.mem_cons.mp member with rfl | later
        · exact List.mem_cons_self ..
        · exact List.mem_cons_of_mem _ (all answered later)

theorem gathered_kept {catalog : Catalog} (once : catalog.ListsOnce) {answers : List (Option Value)}
    (leaves : ∀ answered ∈ catalog.entries.zip answers, Spares "DbVariables" answered)
    (run : (catalog.entries.zip answers).foldlM (fun gathering answered =>
      gatherer.takeAnswer gathering answered.1 answered.2) {} = .ok after) :
    ∀ answered ∈ catalog.entries.zip answers, answered.1.class? = some "DbVariables" →
      ∀ items, answered.2 = some (.list items) → Kept gatherer.watched items after.classes := by
  obtain ⟨front, entry, back, split, lists, others⟩ := once
  rw [split] at leaves run ⊢
  rcases zip_cases front entry back answers with all | ⟨first, answer, last, cut, all⟩
  · intro answered member own
    exact absurd own (others _ (List.mem_append_left back (all answered member)))
  · rw [cut] at leaves run ⊢
    -- Before and after the entry that lists the variables nothing touches them.
    have aside : ∀ answered ∈ first ++ last, ∀ state next : Gathering,
        gatherer.takeAnswer state answered.1 answered.2 = .ok next →
          Assoc.get? next.classes "DbVariables" = Assoc.get? state.classes "DbVariables" := by
      intro answered member state next
      refine takeAnswer_spared (others _ (all answered member)) (leaves answered ?_)
      simp only [List.mem_append, List.mem_cons] at member ⊢
      tauto
    rw [List.foldlM_append] at run
    obtain ⟨middle, early, rest⟩ := Result.bind_eq_ok.mp run
    rw [List.foldlM_cons] at rest
    obtain ⟨kept, taken, late⟩ := Result.bind_eq_ok.mp rest
    intro answered member own items list
    have here : answered = (entry, answer) := by
      simp only [List.mem_append, List.mem_cons] at member
      by_contra differ
      have elsewhere : answered ∈ first ++ last := by
        rw [List.mem_append]
        tauto
      exact others _ (all answered elsewhere) own
    subst here
    have same : answer = some (.list items) := list
    subst same
    have fresh : Assoc.get? middle.classes "DbVariables" = none :=
      Result.foldlM_keeps (fun state => Assoc.get? state.classes (.named "DbVariables") = none)
        (fun answered member state next holds step =>
          (aside answered (List.mem_append_left last member) state next step).trans holds) rfl early
    exact Result.foldlM_keeps (fun state => Kept gatherer.watched items state.classes)
      (fun answered member state next holds step =>
        holds.congr (aside answered (List.mem_append_right first member) state next step))
      (takeAnswer_kept lists fresh taken) late

theorem gathered_references {answered : List (Entry × Option Value)}
    (run : answered.foldlM (fun gathering answered => gatherer.takeAnswer gathering answered.1 answered.2) {} =
      .ok after) :
    ∀ reference ∈ after.references, ∃ one ∈ answered, one.1.class? = some reference.schemaClass ∧
      one.1.references ≠ [] := by
  refine Result.foldlM_keeps (fun state => ∀ reference ∈ state.references, ∃ one ∈ answered,
    one.1.class? = some reference.schemaClass ∧ one.1.references ≠ []) ?_
    (fun _ member => (List.not_mem_nil member).elim) run
  intro one member state next holds step reference inside
  cases own : one.1.class? with
  | none => exact holds reference ((takeAnswer_classless own step).1 ▸ inside)
  | some schemaClass =>
    rcases (takeAnswer_grown own step).references reference inside with earlier | ⟨same, known⟩
    · exact holds reference earlier
    · exact ⟨one, member, own.trans (congrArg some same.symm), known⟩

def finishClass (gatherer : Gatherer) (catalog : Catalog) : Key × Value → Result (Key × Value)
  | (key, value) =>
    match key, value with
    | .named name, .object fields =>
      match catalog.entriesOf name with
      | entry :: _ => do
        return (key, ← Shaping.finish name { entry, translate := gatherer.translate } (.object fields))
      | [] => .ok (key, value)
    | _, _ => .ok (key, value)

theorem finish_eq_mapM (catalog : Catalog) (classes : Fields) :
    gatherer.finish catalog classes = classes.mapM (gatherer.finishClass catalog) := rfl

theorem finishClass_key {catalog : Catalog} {named final : Key × Value}
    (done : gatherer.finishClass catalog named = .ok final) : final.1 = named.1 := by
  obtain ⟨key, value⟩ := named
  unfold finishClass at done
  dsimp only at done
  split at done
  next =>
    split at done
    next =>
      obtain ⟨shaped, _, done⟩ := Result.bind_eq_ok.mp done
      cases done
      rfl
    next => cases done; rfl
  next => cases done; rfl

section Plain

variable {catalog : Catalog} {schemaClass : String}
  (plain : ∀ context objects, Shaping.finish schemaClass context objects = .ok objects)

include plain

theorem finishClass_plain (value : Value) :
    gatherer.finishClass catalog (.named schemaClass, value) = .ok (.named schemaClass, value) := by
  unfold finishClass
  dsimp only
  split
  next name fields same =>
    cases same
    split
    next => rw [plain]; rfl
    next => rfl
  next => rfl

/-- A class of which the final shaping makes nothing else stays as it was read. -/
theorem finish_frame {classes final : Fields} (done : gatherer.finish catalog classes = .ok final) :
    Assoc.get? final schemaClass = Assoc.get? classes schemaClass := by
  rw [finish_eq_mapM] at done
  have here := Result.get?_mapM (fun _ _ => finishClass_key) done (.named schemaClass)
  cases found : Assoc.get? classes (.named schemaClass) with
  | none =>
    rw [found] at here
    exact here
  | some value =>
    rw [found] at here
    obtain ⟨shaped, done, there⟩ := here
    cases (finishClass_plain plain value).symm.trans done
    exact there

theorem finish_adjust (classes : Fields) (change : Value → Value) :
    gatherer.finish catalog (Assoc.adjust classes schemaClass change) =
      (Assoc.adjust · (.named schemaClass) change) <$> gatherer.finish catalog classes :=
  Result.mapM_adjust (fun _ _ => finishClass_key) (finishClass_plain plain) classes change

end Plain

end Gatherer

namespace DeviceReader

variable {reader : DeviceReader} {declaration : Value}

theorem resolved_frame {mapper : ItemMapper} {gathering : Gathering} {classes : Fields} {key : Key}
    (apart : ∀ reference ∈ gathering.references, key ≠ reference.schemaClass)
    (resolved : reader.resolved mapper gathering = .ok classes) :
    Assoc.get? classes key = Assoc.get? gathering.classes key := by
  obtain ⟨results, _, run⟩ := Result.bind_eq_ok.mp resolved
  refine Result.foldlM_keeps (fun state => Assoc.get? state key = Assoc.get? gathering.classes key) ?_ rfl run
  intro fetched member state next holds step
  exact (Reference.spliced_frame step (apart _ (List.of_mem_zip member).1)).trans holds

end DeviceReader

end Reconcile
