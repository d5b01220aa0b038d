import Reconcile.Proofs.Difference.Comparison

/-!
Which classes a comparison touches, and with which names. A class is touched when there are changes below it, its
names are those these changes concern, and what is written for it depends on nothing else.
-/

namespace Reconcile

namespace Comparison

def entries (touched : List Touched) : List ((Key × Key) × List Key) :=
  touched.map fun entry => ((entry.tenant, entry.schemaClass), entry.names)

/-- The names that a change seen from below a class concerns. -/
def namesBelow (comparison : Comparison) (schemaClass : Key) (change : Change) : List Key :=
  if comparison.isNameless schemaClass then []
  else match change.path, change.after? with
    | name :: _, _ => [name]
    | [], some (.object fields) => Assoc.keys fields
    | [], _ => []

variable {comparison : Comparison}

theorem entries_cons (entry : Touched) (rest : List Touched) :
    entries (entry :: rest) = ((entry.tenant, entry.schemaClass), entry.names) :: entries rest := rfl

theorem entries_add (tenant schemaClass : Key) (names : List Key) (touched : List Touched) :
    entries (touch.add tenant schemaClass names touched) =
      Assoc.put (entries touched) (tenant, schemaClass)
        ((Assoc.get? (entries touched) (tenant, schemaClass)).getD [] ++ names) := by
  induction touched with
  | nil => rfl
  | cons entry rest ih =>
    rw [touch.add]
    by_cases same : entry.tenant = tenant ∧ entry.schemaClass = schemaClass
    · simp [entries, Assoc.put, Assoc.get?, same.1, same.2]
    · have differ : (entry.tenant, entry.schemaClass) ≠ (tenant, schemaClass) := by simpa using same
      rw [if_neg same]
      simpa [entries, Assoc.put, Assoc.get?, differ] using ih

theorem touch_cons (touched : List Touched) (tenant schemaClass : Key) (rest : Path) (edit : Edit) :
    comparison.touch touched ⟨tenant :: schemaClass :: rest, edit⟩ =
      touch.add tenant schemaClass (comparison.namesBelow schemaClass ⟨rest, edit⟩) touched := rfl

theorem touch_cases (comparison : Comparison) (change : Change) :
    (∃ tenant schemaClass rest, change.path = tenant :: schemaClass :: rest) ∨
      ∀ touched, comparison.touch touched change = touched := by
  obtain ⟨path, edit⟩ := change
  match path with
  | [] => exact .inr fun _ => rfl
  | [_] => exact .inr fun _ => rfl
  | tenant :: schemaClass :: rest => exact .inl ⟨tenant, schemaClass, rest, rfl⟩

theorem nodup_entries (changes : List Change) {start : List Touched} (unique : (Assoc.keys (entries start)).Nodup) :
    (Assoc.keys (entries (changes.foldl comparison.touch start))).Nodup := by
  induction changes generalizing start with
  | nil => exact unique
  | cons change rest ih =>
    apply ih
    rcases touch_cases comparison change with ⟨tenant, schemaClass, path, deep⟩ | same
    · obtain ⟨_, edit⟩ := change
      subst deep
      rw [touch_cons, entries_add]
      exact Assoc.nodup_keys_put unique _ _
    · rwa [same]

theorem get?_entries (changes : List Change) (deep : ∀ change ∈ changes, ∃ tenant schemaClass rest,
      change.path = tenant :: schemaClass :: rest) (start : List Touched) (tenant schemaClass : Key) :
    Assoc.get? (entries (changes.foldl comparison.touch start)) (tenant, schemaClass) =
      match Change.below schemaClass (Change.below tenant changes) with
      | [] => Assoc.get? (entries start) (tenant, schemaClass)
      | inside => some ((Assoc.get? (entries start) (tenant, schemaClass)).getD [] ++
          inside.flatMap (comparison.namesBelow schemaClass)) := by
  induction changes generalizing start with
  | nil => rfl
  | cons change rest ih =>
    obtain ⟨⟨first, second, path, same⟩, others⟩ := List.forall_mem_cons.mp deep
    obtain ⟨_, edit⟩ := change
    subst same
    rw [List.foldl_cons, ih others, touch_cons, entries_add, Assoc.get?_put, Change.below_cons]
    by_cases sameTenant : first = tenant
    · subst sameTenant
      rw [if_pos rfl, Change.below_cons]
      by_cases sameClass : second = schemaClass
      · subst sameClass
        rw [if_pos rfl, if_pos rfl]
        cases Change.below second (Change.below first rest) <;> simp
      · rw [if_neg sameClass, if_neg (by simp [sameClass])]
    · rw [if_neg sameTenant, if_neg (by simp [sameTenant])]

theorem isTouched_eq (touched : List Touched) (tenant schemaClass : Key) :
    isTouched touched tenant schemaClass = (Assoc.get? (entries touched) (tenant, schemaClass)).isSome := by
  induction touched with
  | nil => rfl
  | cons entry rest ih =>
    by_cases same : entry.tenant = tenant ∧ entry.schemaClass = schemaClass
    · simp [isTouched, entries, Assoc.get?, same.1, same.2]
    · have differ : (entry.tenant, entry.schemaClass) ≠ (tenant, schemaClass) := by simpa using same
      have apart : (decide (entry.tenant = tenant) && decide (entry.schemaClass = schemaClass)) = false := by
        simpa using same
      rw [isTouched] at ih ⊢
      rw [List.any_cons, apart, Bool.false_or, ih]
      simp [entries, Assoc.get?, differ]

theorem get?_writeAll (write : Touched → Value) {touched : List Touched} (unique : (Assoc.keys (entries touched)).Nodup)
    (start : Fields) (tenant schemaClass : Key) :
    Path.get? [tenant, schemaClass] (.object (touched.foldl (fun update entry =>
        Path.put [entry.tenant, entry.schemaClass] (write entry) update) start)) =
      match Assoc.get? (entries touched) (tenant, schemaClass) with
      | some names => some (write ⟨tenant, schemaClass, names⟩)
      | none => Path.get? [tenant, schemaClass] (.object start) := by
  induction touched generalizing start with
  | nil => rfl
  | cons entry rest ih =>
    have ⟨absent, others⟩ := List.nodup_cons.mp unique
    have long : [entry.tenant, entry.schemaClass] ≠ [] := List.cons_ne_nil _ _
    have level : [entry.tenant, entry.schemaClass].length = [tenant, schemaClass].length := rfl
    rw [List.foldl_cons, ih others, Path.get?_put long level]
    by_cases same : entry.tenant = tenant ∧ entry.schemaClass = schemaClass
    · obtain ⟨rfl, rfl⟩ := same
      have once : Assoc.get? (entries rest) (entry.tenant, entry.schemaClass) = none :=
        Assoc.get?_eq_none_iff.mpr absent
      rw [once]
      simp [entries, Assoc.get?]
    · have differ : (entry.tenant, entry.schemaClass) ≠ (tenant, schemaClass) := by simpa using same
      have apart : [entry.tenant, entry.schemaClass] ≠ [tenant, schemaClass] := by simpa using same
      rw [if_neg apart, entries_cons, Assoc.get?, if_neg differ]

def picked (fields : Fields) (names : List Key) : Fields :=
  names.foldl (fun update name =>
    match Assoc.get? fields name with
    | some value => Assoc.put update name value
    | none => update) []

theorem get?_picked (fields : Fields) (names : List Key) (name : Key) :
    Assoc.get? (picked fields names) name = if name ∈ names then Assoc.get? fields name else none := by
  suffices general : ∀ start : Fields, Assoc.get? (names.foldl (fun update name =>
      match Assoc.get? fields name with
      | some value => Assoc.put update name value
      | none => update) start) name =
      if name ∈ names then (Assoc.get? fields name).or (Assoc.get? start name) else Assoc.get? start name by
    rw [picked, general]
    simp
  induction names with
  | nil => simp
  | cons head rest ih =>
    intro start
    rw [List.foldl_cons, ih]
    by_cases same : head = name
    · subst same
      cases found : Assoc.get? fields head <;> simp
    · have member : name ∈ head :: rest ↔ name ∈ rest := by simp [Ne.symm same]
      cases found : Assoc.get? fields head <;> simp [Assoc.get?_put, same, member]

theorem updateOf_object {working : Value} {tenant schemaClass : Key} {fields : Fields} (names : List Key)
    (named : comparison.isNameless schemaClass = false)
    (present : Path.get? [tenant, schemaClass] working = some (.object fields)) :
    comparison.updateOf working ⟨tenant, schemaClass, names⟩ = .object (picked fields names) := by
  simp only [updateOf, present, named, Bool.false_eq_true, ↓reduceIte]
  rfl

variable {target current : Fields}

theorem nodup_touched : (Assoc.keys (entries (comparison.touched target current))).Nodup :=
  nodup_entries _ List.nodup_nil

theorem get?_touched (tenant schemaClass : Key) :
    Assoc.get? (entries (comparison.touched target current)) (tenant, schemaClass) =
      match Change.below schemaClass (Change.below tenant (comparison.found target current)) with
      | [] => none
      | inside => some (inside.flatMap (comparison.namesBelow schemaClass)) := by
  rw [touched, get?_entries _ fun change member => ?_]
  · rfl
  · obtain ⟨tenant, schemaClass, rest, same, _⟩ := path_of_mem_found member
    exact ⟨tenant, schemaClass, rest, same⟩

theorem get?_kept (objects : ∀ entry ∈ target, entry.2.isObject = true) (tenant schemaClass : Key) :
    Path.get? [tenant, schemaClass] (.object (comparison.kept target current)) =
      if comparison.compares schemaClass = false ∨ comparison.isNameless schemaClass = true ∧
          Change.below schemaClass (Change.below tenant (comparison.found target current)) = [] then
        Path.get? [tenant, schemaClass] (.object target)
      else none := by
  have step := Assoc.get?_map target (fun tenant value => Value.object
    (comparison.passedThrough (comparison.touched target current) tenant (value.fields?.getD []))) tenant
  have untouched : isTouched (comparison.touched target current) tenant schemaClass =
      !decide (Change.below schemaClass (Change.below tenant (comparison.found target current)) = []) := by
    rw [isTouched_eq, get?_touched]
    cases Change.below schemaClass (Change.below tenant (comparison.found target current)) <;> simp
  rw [Path.get?_pair, Path.get?_pair, kept, step]
  cases found : Assoc.get? target tenant with
  | none => simp
  | some value =>
    cases value with
    | object fields =>
      have outside := Assoc.get?_filter fields (fun key => !comparison.compares key) schemaClass
      have unchanged := Assoc.get?_filter fields (fun key => comparison.compares key && comparison.isNameless key &&
        !isTouched (comparison.touched target current) tenant key) schemaClass
      simp only [Option.map_some, Option.bind_some, Value.get?, Value.fields?, Option.getD_some, passedThrough,
        Assoc.get?_append, outside, unchanged, untouched, Bool.not_not]
      cases comparison.compares schemaClass <;> cases comparison.isNameless schemaClass <;> simp
    | _ => cases objects _ (Assoc.mem_of_get? found)

theorem get?_updates (tenant schemaClass : Key) :
    Path.get? [tenant, schemaClass] (.object (comparison.updates target current)) =
      match Assoc.get? (entries (comparison.touched target current)) (tenant, schemaClass) with
      | some names =>
        some (comparison.updateOf (.object (comparison.worked target current)) ⟨tenant, schemaClass, names⟩)
      | none => Path.get? [tenant, schemaClass] (.object (comparison.kept target current)) :=
  get?_writeAll _ nodup_touched _ tenant schemaClass

theorem get?_updates_named {tenant schemaClass : Key} {fields : Fields}
    (compared : comparison.compares schemaClass = true)
    (named : comparison.isNameless schemaClass = false) (objects : ∀ entry ∈ target, entry.2.isObject = true)
    (replayed : Path.get? [tenant, schemaClass] (.object (comparison.worked target current)) = some (.object fields))
    (name : Key) :
    Path.get? [tenant, schemaClass, name] (.object (comparison.updates target current)) =
      if name ∈ (Change.below schemaClass (Change.below tenant (comparison.found target current))).flatMap
          (comparison.namesBelow schemaClass) then Assoc.get? fields name
      else none := by
  have split := Path.get?_concat [tenant, schemaClass] name (.object (comparison.updates target current))
  rw [List.cons_append, List.singleton_append] at split
  rw [split, get?_updates, get?_touched, get?_kept objects]
  cases Change.below schemaClass (Change.below tenant (comparison.found target current)) with
  | nil => simp [compared, named]
  | cons change rest =>
    dsimp only
    rw [updateOf_object _ named replayed, Option.bind_some, Value.get?, get?_picked]

end Comparison

end Reconcile
