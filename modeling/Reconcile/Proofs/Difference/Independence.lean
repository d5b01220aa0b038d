import Reconcile.Proofs.Difference.Convergence

/-!
The changes between two objects do not meet: none lies on the way to another. Each of them takes what the first object
has at its place and leaves what the second one has there, and so it does not matter in which order they are carried
out.
-/

namespace Reconcile.Change

/-- Changes whose paths part somewhere. -/
def Apart (one other : Change) : Prop :=
  Path.Apart one.path other.path

theorem apart_of_below {changes : List Change} (inside : Inside changes)
    (each : ∀ key, (below key changes).Pairwise Apart) : changes.Pairwise Apart := by
  induction changes with
  | nil => exact .nil
  | cons change rest ih =>
    obtain ⟨head, path, edit, rfl⟩ := inside.head
    rw [List.pairwise_cons]
    constructor
    · intro other member
      obtain ⟨tail, edit'⟩ := other
      obtain ⟨key, tail, rfl⟩ := List.exists_cons_of_ne_nil (inside.tail _ member)
      by_cases same : head = key
      · subst same
        have here := each head
        rw [below_cons, if_pos rfl, List.pairwise_cons] at here
        exact Path.apart_cons.mpr (here.1 ⟨tail, edit'⟩ (mem_below.mpr member))
      · exact Path.apart_of_head_ne same path tail
    · apply ih inside.tail
      intro key
      have here := each key
      rw [below_cons] at here
      split at here
      next => exact here.of_cons
      next => exact here

theorem apart_flat {left right : Value} (flat : (left.isObject && right.isObject) = false) :
    (between [] left right).Pairwise Apart := by
  rw [between_flat [] flat]
  split
  next => exact .nil
  next => exact List.pairwise_singleton ..

theorem apart_between {left right : Value} (properLeft : left.isProper = true) (properRight : right.isProper = true) :
    (between [] left right).Pairwise Apart := by
  induction left using Value.byParts generalizing right with
  | scalar left scalar => exact apart_flat (flat_of_scalar scalar _)
  | list items ih => exact apart_flat rfl
  | object lefts ih =>
    cases right with
    | object rights =>
      apply apart_of_below (inside_between lefts rights)
      intro key
      rw [below_between (Value.nodup_of_isProper properLeft) (Value.nodup_of_isProper properRight)]
      cases foundLeft : Assoc.get? lefts key with
      | none =>
        cases Assoc.get? rights key with
        | none => exact .nil
        | some right => exact List.pairwise_singleton ..
      | some left =>
        cases foundRight : Assoc.get? rights key with
        | none => exact List.pairwise_singleton ..
        | some right =>
          exact ih (key, left) (Assoc.mem_of_get? foundLeft) (Value.isProper_of_get? properLeft foundLeft)
            (Value.isProper_of_get? properRight foundRight)
    | _ => exact apart_flat rfl

/-- Whether a change leads from what one document has at its path to what the other has there, which is not the same. -/
structure Leads (change : Change) (left right : Value) : Prop where
  before : change.before? = Path.get? change.path left
  after : change.after? = Path.get? change.path right
  differs : ¬Value.Agree change.before? change.after?

theorem leads_flat {left right : Value} (flat : (left.isObject && right.isObject) = false) {change : Change}
    (member : change ∈ between [] left right) : change.Leads left right := by
  rw [between_flat [] flat] at member
  split at member
  next => cases member
  next differ =>
    rw [List.mem_singleton.mp member]
    exact ⟨rfl, rfl, differ⟩

theorem Leads.under {path : Path} {edit : Edit} {key : Key} {left right : Value} {lefts rights : Fields}
    (inner : Leads ⟨path, edit⟩ left right) (foundLeft : Assoc.get? lefts key = some left)
    (foundRight : Assoc.get? rights key = some right) :
    Leads ⟨key :: path, edit⟩ (.object lefts) (.object rights) where
  before := by
    rw [Path.get?_cons_object, foundLeft]
    exact inner.before
  after := by
    rw [Path.get?_cons_object, foundRight]
    exact inner.after
  differs := inner.differs

theorem leads_of_mem {left right : Value} (properLeft : left.isProper = true) (properRight : right.isProper = true) :
    ∀ change ∈ between [] left right, change.Leads left right := by
  induction left using Value.byParts generalizing right with
  | scalar left scalar => exact fun change member => leads_flat (flat_of_scalar scalar _) member
  | list items ih => exact fun change member => leads_flat rfl member
  | object lefts ih =>
    cases right with
    | object rights =>
      rintro ⟨path, edit⟩ member
      obtain ⟨key, path, rfl⟩ := List.exists_cons_of_ne_nil (inside_between lefts rights _ member)
      rw [← mem_below, below_between (Value.nodup_of_isProper properLeft) (Value.nodup_of_isProper properRight)]
        at member
      cases foundLeft : Assoc.get? lefts key with
      | none =>
        cases foundRight : Assoc.get? rights key with
        | none =>
          rw [foundLeft, foundRight] at member
          cases member
        | some right =>
          rw [foundLeft, foundRight] at member
          cases List.mem_singleton.mp member
          exact ⟨by rw [Path.get?_singleton, foundLeft]; rfl, by rw [Path.get?_singleton, foundRight]; rfl, id⟩
      | some left =>
        cases foundRight : Assoc.get? rights key with
        | none =>
          rw [foundLeft, foundRight] at member
          cases List.mem_singleton.mp member
          exact ⟨by rw [Path.get?_singleton, foundLeft]; rfl, by rw [Path.get?_singleton, foundRight]; rfl, id⟩
        | some right =>
          rw [foundLeft, foundRight] at member
          have inner := ih (key, left) (Assoc.mem_of_get? foundLeft) (Value.isProper_of_get? properLeft foundLeft)
            (Value.isProper_of_get? properRight foundRight) _ member
          exact inner.under foundLeft foundRight
    | _ => exact fun change member => leads_flat rfl member

/-- Between two objects there are no changes exactly if they are equal. The paths of the changes are apart from one
another, each change leads from what the first object has at its path to what the second has there, and carried out on
the first object in whatever order they give an object that equals the second. -/
theorem changes_independent {lefts rights : Fields} (properLeft : (Value.object lefts).isProper = true)
    (properRight : (Value.object rights).isProper = true) :
    (between [] (.object lefts) (.object rights) = [] ↔
        (Value.object lefts).strictEq (.object rights) = true) ∧
      (between [] (.object lefts) (.object rights)).Pairwise Apart ∧
      (∀ change ∈ between [] (.object lefts) (.object rights), change.Leads (.object lefts) (.object rights)) ∧
      ∀ order : List Change, order.Perm (between [] (.object lefts) (.object rights)) →
        ∃ after, carryOut order (.object lefts) = .ok (.object after) ∧
          (Value.object after).strictEq (.object rights) = true := by
  refine ⟨between_eq_nil_iff properLeft properRight, apart_between properLeft properRight,
    leads_of_mem properLeft properRight, ?_⟩
  intro order permuted
  have inside : Inside order := fun change member => inside_between lefts rights change (permuted.mem_iff.mp member)
  obtain ⟨value, settled, equal⟩ := settle_permuted properLeft properRight permuted
  rw [settle_object inside, Option.some.injEq] at settled
  subst settled
  exact ⟨_, foldlM_apply inside lefts, equal⟩

/-- A tag that changes, a VLAN that goes, one that is new and a flag that was a number, carried out backwards. -/
theorem changes_independent_vlans :
    let lefts : Fields := [
      ("VLAN", .object [("wire", .object [("tag", .int 7), ("mtu", .int 1500)]), ("old", .empty)]), ("sync", .int 1)]
    let rights : Fields := [
      ("sync", .bool true), ("VLAN", .object [("wire", .object [("mtu", .int 1500), ("tag", .int 8)]), ("new", .empty)])]
    (Value.object lefts).isProper = true ∧ (Value.object rights).isProper = true ∧
      (between [] (.object lefts) (.object rights)).map Change.path =
        ([["VLAN", "wire", "tag"], ["VLAN", "old"], ["VLAN", "new"], ["sync"]] : List Path) ∧
      ∃ after, carryOut (between [] (.object lefts) (.object rights)).reverse (.object lefts) = .ok (.object after) ∧
        (Value.object after).strictEq (.object rights) = true := by
  intro lefts rights
  have properLeft : (Value.object lefts).isProper = true := by decide
  have properRight : (Value.object rights).isProper = true := by decide
  obtain ⟨_, _, _, anyOrder⟩ := changes_independent properLeft properRight
  exact ⟨properLeft, properRight, by decide, anyOrder _ (List.reverse_perm _)⟩

end Reconcile.Change
