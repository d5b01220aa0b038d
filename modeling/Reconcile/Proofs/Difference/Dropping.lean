import Reconcile.Proofs.Difference.Exactness
import Reconcile.Proofs.Difference.Omission

/-!
Which named objects a comparison drops: those that the device has in a class and that the class, as wanted, does not
have. What is wanted of a class is what the declaration says, or what the baseline has if the declaration says nothing.
Nothing is asked of the documents here but that the device has each class once.
-/

namespace Reconcile

namespace Change

variable {lefts rights : Fields}

theorem delete_mem_below {key : Key} {rest : Path} {before : Value} :
    ⟨rest, .delete before⟩ ∈ below key (between [] (.object lefts) (.object rights)) ↔
      ∃ left, (key, left) ∈ lefts ∧ ⟨rest, .delete before⟩ ∈ between? (some left) (Assoc.get? rights key) := by
  have fresh : ⟨key :: rest, .delete before⟩ ∉ created [] lefts rights := by
    simp [created]
  rw [mem_below, between_object, List.mem_append, or_iff_left fresh, mem_betweenFields]
  constructor
  · rintro ⟨⟨head, left⟩, member, here⟩
    rw [← mem_below, below_ofField] at here
    split at here
    next same => exact ⟨left, same ▸ member, same ▸ here⟩
    next => cases here
  · rintro ⟨left, member, here⟩
    refine ⟨(key, left), member, ?_⟩
    rw [← mem_below, below_ofField, if_pos rfl]
    exact here

theorem delete_name_mem_between (name : Key) :
    (∃ before, ⟨[name], .delete before⟩ ∈ between [] (.object lefts) (.object rights)) ↔
      Assoc.has lefts name = true ∧ Assoc.has rights name = false := by
  simp only [← mem_below, delete_mem_below, Assoc.has_eq_isSome, ← Assoc.mem_keys_iff, Option.isSome_eq_false_iff,
    Option.isNone_iff_eq_none]
  constructor
  · rintro ⟨before, left, member, deleted⟩
    refine ⟨List.mem_map_of_mem member, ?_⟩
    cases found : Assoc.get? rights name with
    | none => rfl
    | some right =>
      rw [found] at deleted
      exact absurd deleted (delete_not_mem_between left right before)
  · rintro ⟨present, absent⟩
    obtain ⟨⟨_, left⟩, member, rfl⟩ := List.mem_map.mp present
    exact ⟨left, left, member, by rw [absent]; exact List.mem_singleton_self _⟩

theorem delete_name_mem {held? wanted? : Option Value} (name : Key) :
    (∃ before, ⟨[name], .delete before⟩ ∈ between? held? wanted?) ↔
      Assoc.has (Path.inside held?) name = true ∧
        ∃ wanted, wanted? = some (.object wanted) ∧ Assoc.has wanted name = false := by
  cases held? with
  | none => cases wanted? <;> simp [between?, Path.inside, Assoc.has_eq_isSome]
  | some held =>
    cases wanted? with
    | none => simp [between?]
    | some wanted =>
      cases flat : held.isObject && wanted.isObject with
      | false =>
        have whole : ¬∃ before, ⟨[name], .delete before⟩ ∈ between [] held wanted := by
          rintro ⟨before, member⟩
          rw [between_flat [] flat] at member
          split at member
          next => cases member
          next => cases List.mem_singleton.mp member
        refine iff_of_false whole ?_
        rintro ⟨present, fields, same, _⟩
        cases same
        cases held with
        | object lefts => cases flat
        | _ => cases present
      | true =>
        cases held with
        | object lefts =>
          cases wanted with
          | object rights =>
            rw [between?, delete_name_mem_between]
            simp [Path.inside, Value.fields?]
          | _ => cases flat
        | _ => cases flat

end Change

namespace Comparison

variable {comparison : Comparison} {target current classes : Fields} {tenant schemaClass : Key}

theorem delete_mem_found (unique : (Assoc.keys (Path.inner current tenant)).Nodup)
    (present : Assoc.get? target tenant = some (.object classes)) (compared : comparison.compares schemaClass = true)
    {rest : Path} {before : Value} :
    ⟨tenant :: schemaClass :: rest, .delete before⟩ ∈ comparison.found target current ↔
      ⟨rest, .delete before⟩ ∈
        Change.between? (Path.get? [tenant, schemaClass] (.object current)) (Assoc.get? classes schemaClass) := by
  have member : tenant ∈ Assoc.keys target := Assoc.mem_keys_iff.mpr (by rw [present]; rfl)
  have same : ∀ left, (tenant, left) ∈ Comparison.before target current ↔
      left = .object (Path.inner current tenant) := by
    intro left
    constructor
    · intro here
      obtain ⟨entry, _, made⟩ := List.mem_map.mp here
      cases made
      rfl
    · rintro rfl
      obtain ⟨entry, inside, rfl⟩ := List.mem_map.mp member
      exact List.mem_map.mpr ⟨entry, inside, rfl⟩
  rw [found, List.mem_filter, and_iff_left (show comparison.concerns ⟨tenant :: schemaClass :: rest, _⟩ = true from compared),
    ← Change.mem_below, Change.delete_mem_below]
  simp only [same, exists_eq_left, present, Change.between?]
  rw [← Change.mem_below, Change.delete_mem_below, Path.get?_inner]
  cases held : Assoc.get? (Path.inner current tenant) schemaClass with
  | none =>
    constructor
    · rintro ⟨left, inside, _⟩
      rw [Assoc.get?_of_mem unique inside] at held
      cases held
    · intro here
      cases found : Assoc.get? classes schemaClass with
      | none =>
        rw [found] at here
        cases here
      | some wanted =>
        rw [found] at here
        cases List.mem_singleton.mp here
  | some value =>
    constructor
    · rintro ⟨left, inside, here⟩
      rw [Assoc.get?_of_mem unique inside] at held
      cases held
      exact here
    · exact fun here => ⟨value, Assoc.mem_of_get? held, here⟩

theorem isSome_get?_deletions (unique : (Assoc.keys (Path.inner current tenant)).Nodup)
    (present : Assoc.get? target tenant = some (.object classes)) (compared : comparison.compares schemaClass = true)
    (named : comparison.isNameless schemaClass = false) (name : Key) :
    (Path.get? [tenant, schemaClass, name] (.object (comparison.deletions target current))).isSome = true ↔
      (Path.get? [tenant, schemaClass, name] (.object current)).isSome = true ∧
        ∃ wanted, Assoc.get? classes schemaClass = some (.object wanted) ∧ Assoc.has wanted name = false := by
  have held : (Path.get? [tenant, schemaClass, name] (.object current)).isSome =
      Assoc.has (Path.inside (Path.get? [tenant, schemaClass] (.object current))) name := by
    rw [Path.get?_cons_inner, Path.get?_inner, Path.get?_inner, ← Path.inner_eq_inside, Assoc.has_eq_isSome]
  have deleted := @Change.delete_name_mem (Path.get? [tenant, schemaClass] (.object current))
    (Assoc.get? classes schemaClass) name
  simp only [← delete_mem_found unique present compared] at deleted
  rw [held, ← deleted]
  rcases noteDeleted_cases tenant name named (comparison.found target current)
      (target.map fun entry => (entry.1, .empty)) with ⟨some, noted⟩ | ⟨never, kept⟩
  · rw [deletions, noted]
    exact iff_of_true rfl some
  · rw [deletions, kept, Path.get?_cons_object, Assoc.get?_map target (fun _ _ => Value.empty), present]
    refine iff_of_false (by simp [Path.get?, Value.get?, Value.empty]) ?_
    rintro ⟨before, member⟩
    exact never before member

end Comparison

namespace Restoration

/-- What is wanted of a class that is neither System nor Authentication. -/
def mended (known? declared? : Option Value) : Option Value :=
  if isOmitted declared? then known?.or declared? else declared?

theorem mended_again (known? declared? : Option Value) :
    mended known? (mended known? declared?) = mended known? declared? := by
  unfold mended
  cases omitted : isOmitted declared? with
  | false => rw [if_neg Bool.false_ne_true, omitted, if_neg Bool.false_ne_true]
  | true => cases known? <;> simp

theorem mended_none (known : Value) : mended (some known) none = some known := rfl

theorem mended_filled {objects : Fields} (filled : objects ≠ []) (known? : Option Value) :
    mended known? (some (.object objects)) = some (.object objects) := by
  rw [mended, isOmitted, List.isEmpty_eq_false_iff.mpr filled, if_neg Bool.false_ne_true]

variable {known declared : Fields} {schemaClass : String}

theorem get?_restoreClass_plain (notSystem : schemaClass ≠ "System") (notLogin : schemaClass ≠ "Authentication") :
    Assoc.get? (restoreClass known declared schemaClass) schemaClass =
      mended (Assoc.get? known schemaClass) (Assoc.get? declared schemaClass) := by
  unfold restoreClass mended
  cases Assoc.get? known schemaClass with
  | none => simp
  | some baseline =>
    dsimp only
    split
    next => rw [Assoc.get?_put_self, Option.some_or]
    next => rfl

theorem get?_restoreTenant_plain (truth : List String) (notSystem : schemaClass ≠ "System")
    (notLogin : schemaClass ≠ "Authentication") :
    Assoc.get? (restoreTenant truth known declared) schemaClass =
      if schemaClass ∈ truth then mended (Assoc.get? known schemaClass) (Assoc.get? declared schemaClass)
      else Assoc.get? declared schemaClass := by
  unfold restoreTenant
  induction truth generalizing declared with
  | nil => simp
  | cons head rest ih =>
    rw [List.foldl_cons, ih]
    by_cases same : head = schemaClass
    · subst same
      rw [get?_restoreClass_plain notSystem notLogin, mended_again, ite_self, if_pos (List.mem_cons_self ..)]
    · rw [get?_restoreClass_of_ne fun equal => same (Key.named.inj equal)]
      simp [Ne.symm same]

end Restoration

end Reconcile
