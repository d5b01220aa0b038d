import Reconcile.Difference.Change
import Reconcile.Proofs.Path

/-!
Carrying out changes one after the other. A change acts only below the key its path starts with, so what a replay
makes of a field depends on nothing but the changes below that field.
-/

namespace Reconcile

namespace Change

def onFields (change : Change) (fields : Fields) : Fields :=
  match change.after? with
  | some value => change.path.put value fields
  | none => change.path.erase fields

def replay (changes : List Change) (fields : Fields) : Fields :=
  changes.foldl (fun fields change => change.onFields fields) fields

/-- What a change makes of a field, its path starting in the field. The empty path means the field itself. -/
def onField (change : Change) (field? : Option Value) : Option Value :=
  match change.path, change.after? with
  | [], after? => after?
  | path, some value => some (.object (path.put value (Path.inside field?)))
  | path, none =>
    match field? with
    | some (.object fields) => some (.object (path.erase fields))
    | field? => field?

def settle (changes : List Change) (field? : Option Value) : Option Value :=
  changes.foldl (fun field? change => change.onField field?) field?

def below? (key : Key) (change : Change) : Option Change :=
  match change.path with
  | head :: rest => if head = key then some ⟨rest, change.edit⟩ else none
  | [] => none

def below (key : Key) (changes : List Change) : List Change :=
  changes.filterMap (below? key)

/-- Whether every change lies inside the document rather than replacing it. -/
def Inside (changes : List Change) : Prop :=
  ∀ change ∈ changes, change.path ≠ []

theorem apply_object {change : Change} (inside : change.path ≠ []) (fields : Fields) :
    change.apply (.object fields) = .ok (.object (change.onFields fields)) := by
  obtain ⟨path, edit⟩ := change
  obtain ⟨key, rest, rfl⟩ := List.exists_cons_of_ne_nil inside
  unfold apply onFields
  cases after?  ⟨key :: rest, edit⟩ with
  | some value => cases rest <;> rfl
  | none =>
    simp only [Path.eraseIn, Path.erase]
    cases Path.erase? (key :: rest) fields <;> rfl

theorem foldlM_apply {changes : List Change} (inside : Inside changes) (fields : Fields) :
    changes.foldlM (fun document change => change.apply document) (Value.object fields) =
      .ok (.object (replay changes fields)) := by
  induction changes generalizing fields with
  | nil => rfl
  | cons change rest ih =>
    rw [List.foldlM_cons, apply_object (inside change (List.mem_cons_self ..))]
    exact ih (fun other member => inside other (List.mem_cons_of_mem _ member)) _

theorem get?_onFields (key : Key) (rest : Path) (edit : Edit) (fields : Fields) (other : Key) :
    Assoc.get? (onFields ⟨key :: rest, edit⟩ fields) other =
      if key = other then onField ⟨rest, edit⟩ (Assoc.get? fields key) else Assoc.get? fields other := by
  unfold onFields
  cases after : after? ⟨key :: rest, edit⟩ with
  | some value =>
    have same : after? ⟨rest, edit⟩ = some value := after
    cases rest with
    | nil => simp [onField, same, Path.put, Assoc.get?_put]
    | cons next rest => simp [onField, same, Path.put, Path.inner_eq_inside, Assoc.get?_put]
  | none =>
    have same : after? ⟨rest, edit⟩ = none := after
    cases rest with
    | nil => simp [onField, same, Path.erase_singleton, Assoc.get?_erase]
    | cons next rest =>
      simp only [onField, same, Path.erase_cons]
      cases found : Assoc.get? fields key with
      | none => simp +contextual [← found]
      | some value =>
        cases value with
        | object inside => exact Assoc.get?_put ..
        | _ => simp +contextual [← found]

theorem inside_onField (key : Key) (rest : Path) (edit : Edit) (field? : Option Value) :
    Path.inside (onField ⟨key :: rest, edit⟩ field?) = onFields ⟨key :: rest, edit⟩ (Path.inside field?) := by
  unfold onField onFields
  cases after? ⟨key :: rest, edit⟩ with
  | some value => rfl
  | none =>
    cases field? with
    | none => exact (Path.erase_nil _).symm
    | some value =>
      cases value with
      | object fields => rfl
      | _ => exact (Path.erase_nil _).symm

theorem get?_onField (key : Key) (rest : Path) (edit : Edit) (field? : Option Value) (name : Key) :
    (onField ⟨key :: rest, edit⟩ field?).bind (·.get? name) =
      if key = name then onField ⟨rest, edit⟩ (field?.bind (·.get? key)) else field?.bind (·.get? name) := by
  rw [← Path.get?_inside, inside_onField, get?_onFields, Path.get?_inside, Path.get?_inside]

theorem isProper_onFields (change : Change)
    (fresh : ∀ value, change.after? = some value → value.isProper = true) {fields : Fields}
    (proper : (Value.object fields).isProper = true) : (Value.object (change.onFields fields)).isProper = true := by
  unfold onFields
  cases after : change.after? with
  | some value => exact Path.isProper_put change.path (fresh value after) proper
  | none => exact Path.isProper_erase change.path proper

theorem isProper_replay {changes : List Change}
    (fresh : ∀ change ∈ changes, ∀ value, change.after? = some value → value.isProper = true) {fields : Fields}
    (proper : (Value.object fields).isProper = true) : (Value.object (replay changes fields)).isProper = true := by
  induction changes generalizing fields with
  | nil => exact proper
  | cons change rest ih =>
    rw [List.forall_mem_cons] at fresh
    exact ih fresh.2 (isProper_onFields change fresh.1 proper)

theorem Inside.tail {change : Change} {rest : List Change} (inside : Inside (change :: rest)) : Inside rest :=
  fun other member => inside other (List.mem_cons_of_mem _ member)

theorem Inside.filter {changes : List Change} (inside : Inside changes) (keep : Change → Bool) :
    Inside (changes.filter keep) :=
  fun change member => inside change (List.mem_filter.mp member).1

theorem Inside.head {change : Change} {rest : List Change} (inside : Inside (change :: rest)) :
    ∃ key path edit, change = ⟨key :: path, edit⟩ := by
  obtain ⟨path, edit⟩ := change
  obtain ⟨key, path, rfl⟩ := List.exists_cons_of_ne_nil (inside _ (List.mem_cons_self ..))
  exact ⟨key, path, edit, rfl⟩

theorem replay_cons (change : Change) (rest : List Change) (fields : Fields) :
    replay (change :: rest) fields = replay rest (change.onFields fields) := rfl

theorem settle_cons (change : Change) (rest : List Change) (field? : Option Value) :
    settle (change :: rest) field? = settle rest (change.onField field?) := rfl

@[simp] theorem below_nil (key : Key) : below key [] = [] := rfl

theorem below_append (key : Key) (first second : List Change) :
    below key (first ++ second) = below key first ++ below key second :=
  List.filterMap_append

theorem below_cons (key head : Key) (path : Path) (edit : Edit) (rest : List Change) :
    below key (⟨head :: path, edit⟩ :: rest) =
      if head = key then ⟨path, edit⟩ :: below key rest else below key rest := by
  by_cases same : head = key <;> simp [below, below?, same]

theorem mem_below {key : Key} {changes : List Change} {path : Path} {edit : Edit} :
    ⟨path, edit⟩ ∈ below key changes ↔ ⟨key :: path, edit⟩ ∈ changes := by
  simp only [below, List.mem_filterMap]
  constructor
  · rintro ⟨⟨steps, edit'⟩, member, seen⟩
    cases steps with
    | nil => simp [below?] at seen
    | cons head rest =>
      simp only [below?, Option.ite_none_right_eq_some, Option.some.injEq, mk.injEq] at seen
      obtain ⟨rfl, rfl, rfl⟩ := seen
      exact member
  · intro member
    exact ⟨⟨key :: path, edit⟩, member, by simp [below?]⟩

/-- What a replay leaves at a key depends only on what was there and on the changes below it. -/
theorem get?_replay {changes : List Change} (inside : Inside changes) (fields : Fields) (key : Key) :
    Assoc.get? (replay changes fields) key = settle (below key changes) (Assoc.get? fields key) := by
  induction changes generalizing fields with
  | nil => rfl
  | cons change rest ih =>
    obtain ⟨head, path, edit, rfl⟩ := inside.head
    rw [replay_cons, ih inside.tail, get?_onFields, below_cons]
    by_cases same : head = key
    · rw [if_pos same, if_pos same, settle_cons, same]
    · rw [if_neg same, if_neg same]

theorem settle_get? {changes : List Change} (inside : Inside changes) (field? : Option Value) (key : Key) :
    (settle changes field?).bind (·.get? key) = settle (below key changes) (field?.bind (·.get? key)) := by
  induction changes generalizing field? with
  | nil => rfl
  | cons change rest ih =>
    obtain ⟨head, path, edit, rfl⟩ := inside.head
    rw [settle_cons, ih inside.tail, get?_onField, below_cons]
    by_cases same : head = key
    · rw [if_pos same, if_pos same, settle_cons, same]
    · rw [if_neg same, if_neg same]

theorem settle_object {changes : List Change} (inside : Inside changes) (fields : Fields) :
    settle changes (some (.object fields)) = some (.object (replay changes fields)) := by
  induction changes generalizing fields with
  | nil => rfl
  | cons change rest ih =>
    obtain ⟨head, path, edit, rfl⟩ := inside.head
    have step : onField ⟨head :: path, edit⟩ (some (.object fields)) =
        some (.object (onFields ⟨head :: path, edit⟩ fields)) := by
      unfold onField onFields
      cases after? ⟨head :: path, edit⟩ <;> rfl
    rw [settle_cons, step, ih inside.tail, replay_cons]

end Change

end Reconcile
