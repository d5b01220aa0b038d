import Reconcile.Proofs.Observation.Gathering
import Reconcile.Proofs.Observation.Outcome

/-!
The references met while answers are put together. What an item refers to does not depend on what has been put together
before it, so that all references can be listed answer by answer, item by item and property by property.
-/

namespace Reconcile

open Result

namespace Gatherer

def keptReferences (gatherer : Gatherer) (entry : Entry) (schemaClass : String) (fields : Fields) :
    Result (List Reference) := do
  match ← gatherer.itemValue? entry schemaClass fields with
  | none => return []
  | some _ => Reference.ofItem entry gatherer.translate (← objectName entry (itemName fields)) fields

def itemReferences (gatherer : Gatherer) (entry : Entry) (schemaClass : String) (raw : Value) :
    Result (List Reference) := do
  if ← Observation.isIgnored entry.ignore raw then return []
  let fields ← raw.fieldsOrFail
  if !inPartition entry fields then return []
  if ← gatherer.isUnwanted schemaClass (itemName fields) then return []
  gatherer.keptReferences entry schemaClass fields

def objectReferences (gatherer : Gatherer) (entry : Entry) (schemaClass : String) (raw : Fields) :
    Result (List Reference) := do
  if ← Observation.isIgnored entry.ignore (.object raw) then return []
  let mapped ← gatherer.mapRaw entry (← Shaping.raw schemaClass (.object raw))
  let value ← gatherer.objectValue entry schemaClass raw mapped
  if value.isNull then return []
  Reference.ofItem entry gatherer.translate none raw

def answerReferences (gatherer : Gatherer) (answered : Entry × Option Value) : Result (List Reference) :=
  match answered.1.class?, answered.2 with
  | some schemaClass, some (.list items) =>
    List.flatten <$> items.mapM (gatherer.itemReferences answered.1 schemaClass)
  | some schemaClass, some (.object fields) => gatherer.objectReferences answered.1 schemaClass fields
  | _, _ => .ok []

variable {gatherer : Gatherer} {entry : Entry} {schemaClass : String} {before after : Gathering}

theorem refer_references {object : Option Key} {raw classes : Fields}
    (referred : gatherer.refer entry object raw classes before = .ok after) :
    ∃ references, Reference.ofItem entry gatherer.translate object raw = .ok references ∧
      after.references = before.references ++ references := by
  obtain ⟨references, found, done⟩ := bind_eq_ok.mp referred
  cases done
  exact ⟨references, found, rfl⟩

theorem begin_references (schemaClass : String) (wanted : Bool) (gathering : Gathering) :
    (begin schemaClass wanted gathering).references = gathering.references := by
  unfold begin
  split <;> rfl

theorem keepItem_references {fields : Fields} (kept : gatherer.keepItem entry schemaClass before fields = .ok after) :
    ∃ references, gatherer.keptReferences entry schemaClass fields = .ok references ∧
      after.references = before.references ++ references := by
  obtain ⟨value?, shaped, rest⟩ := bind_eq_ok.mp kept
  rw [keptReferences, shaped]
  cases value? with
  | none =>
    cases rest
    exact ⟨[], rfl, (List.append_nil _).symm⟩
  | some value =>
    obtain ⟨classes, _, rest⟩ := bind_eq_ok.mp rest
    obtain ⟨object, named, referred⟩ := bind_eq_ok.mp rest
    obtain ⟨references, found, grown⟩ := refer_references referred
    refine ⟨references, ?_, grown⟩
    rw [ok_bind, named]
    exact found

theorem takeItem_references {raw : Value} (taken : gatherer.takeItem entry schemaClass before raw = .ok after) :
    ∃ references, gatherer.itemReferences entry schemaClass raw = .ok references ∧
      after.references = before.references ++ references := by
  have same : before.references = before.references ++ [] := (List.append_nil _).symm
  cases raw with
  | object fields =>
    rw [takeItem_object] at taken
    unfold itemReferences
    obtain ⟨ignored, heeded, rest⟩ := bind_eq_ok.mp taken
    rw [heeded, ok_bind]
    split at rest
    next skipped =>
      cases rest
      exact ⟨[], if_pos skipped, same⟩
    next kept =>
      rw [if_neg kept]
      split at rest
      next skipped =>
        cases rest
        exact ⟨[], if_pos skipped, same⟩
      next inside =>
        obtain ⟨unwanted, watched, rest⟩ := bind_eq_ok.mp rest
        have open' : (Value.object fields).fieldsOrFail = .ok fields := rfl
        rw [open', ok_bind, if_neg inside, watched, ok_bind]
        split at rest
        next skipped =>
          cases rest
          exact ⟨[], if_pos skipped, same⟩
        next wanted =>
          rw [if_neg wanted]
          exact keepItem_references rest
  | _ =>
    unfold itemReferences
    obtain ⟨ignored, heeded, rest⟩ := bind_eq_ok.mp taken
    rw [heeded, ok_bind]
    split at rest
    next skipped =>
      cases rest
      exact ⟨[], if_pos skipped, same⟩
    next => cases rest

theorem takeObject_references {raw : Fields} (taken : gatherer.takeObject entry schemaClass before raw = .ok after) :
    ∃ references, gatherer.objectReferences entry schemaClass raw = .ok references ∧
      after.references = before.references ++ references := by
  rw [takeObject_eq] at taken
  unfold objectReferences
  obtain ⟨ignored, heeded, rest⟩ := bind_eq_ok.mp taken
  rw [heeded, ok_bind]
  split at rest
  next skipped =>
    cases rest
    exact ⟨[], if_pos skipped, (List.append_nil _).symm⟩
  next kept =>
    obtain ⟨shaped, first, rest⟩ := bind_eq_ok.mp rest
    obtain ⟨mapped, second, rest⟩ := bind_eq_ok.mp rest
    obtain ⟨value, third, rest⟩ := bind_eq_ok.mp rest
    rw [if_neg kept, first, ok_bind, second, ok_bind, third, ok_bind]
    split at rest
    next nothing =>
      cases rest
      exact ⟨[], if_pos nothing, (List.append_nil _).symm⟩
    next something =>
      obtain ⟨classes, _, referred⟩ := bind_eq_ok.mp rest
      rw [if_neg something]
      exact refer_references referred

theorem takeAnswer_references {answered : Entry × Option Value}
    (taken : gatherer.takeAnswer before answered.1 answered.2 = .ok after) :
    ∃ references, gatherer.answerReferences answered = .ok references ∧
      after.references = before.references ++ references := by
  obtain ⟨entry, answer?⟩ := answered
  unfold answerReferences
  cases own : entry.class? with
  | none =>
    obtain ⟨same, _⟩ := takeAnswer_classless own taken
    exact ⟨[], rfl, by rw [same, List.append_nil]⟩
  | some schemaClass =>
    unfold takeAnswer at taken
    dsimp only at taken
    rw [own] at taken
    cases answer? with
    | none =>
      cases taken
      exact ⟨[], rfl, by rw [begin_references, List.append_nil]⟩
    | some answer =>
      cases answer with
      | list items =>
        have run : items.foldlM (gatherer.takeItem entry schemaClass) (begin schemaClass items.isEmpty before) =
            .ok after := taken
        have each := fun state item next => @takeItem_references gatherer entry schemaClass state next item
        obtain ⟨lists, found, grown⟩ := foldlM_appends each run
        rw [begin_references] at grown
        exact ⟨lists.flatten, congrArg (List.flatten <$> ·) found, grown⟩
      | object fields => exact takeObject_references taken
      | _ =>
        cases taken
        exact ⟨[], rfl, (List.append_nil _).symm⟩

/-- All references met while answers are put together: those of the answers in their order, of the items in the order
of their answer and of the properties in the order of their item. -/
theorem takeAnswers_references {answers : List (Entry × Option Value)}
    (taken : answers.foldlM (fun gathering answered => gatherer.takeAnswer gathering answered.1 answered.2) before =
      .ok after) :
    ∃ lists, answers.mapM gatherer.answerReferences = .ok lists ∧
      after.references = before.references ++ lists.flatten := by
  have each := fun before answered after => @takeAnswer_references gatherer before after answered
  exact foldlM_appends each taken

end Gatherer

end Reconcile
