import Reconcile.Difference.Restoration
import Reconcile.Proofs.Difference.Replay

/-!
Restoring omitted classes keeps the tenants of a declaration, leaves every tenant an object that was one, and keeps
proper documents proper.
-/

namespace Reconcile.Restoration

def restoreEntry (truth : List String) (tenants : Fields) (entry : Key × Value) : Fields :=
  match Assoc.get? tenants entry.1, entry.2 with
  | some (.object declared), .object known =>
    Assoc.put tenants entry.1 (.object (restoreTenant truth known declared))
  | _, _ => tenants

def restored (truth : List String) (baseline : Value) (tenants : Fields) : Fields :=
  (Path.inside (some baseline)).foldl (restoreEntry truth) tenants

theorem restore_object (truth : List String) (known tenants : Fields) :
    restore truth (.object tenants) (.object known) = .ok (.object (restored truth (.object known) tenants)) := by
  cases known with
  | nil => rfl
  | cons entry rest => rfl

theorem restoreEntry_cases (truth : List String) (tenants : Fields) (entry : Key × Value) :
    restoreEntry truth tenants entry = tenants ∨
      ∃ declared known, Assoc.get? tenants entry.1 = some (.object declared) ∧ entry.2 = .object known ∧
        restoreEntry truth tenants entry =
          Assoc.put tenants entry.1 (.object (restoreTenant truth known declared)) := by
  unfold restoreEntry
  split
  next declared known present object => exact .inr ⟨declared, known, present, object, rfl⟩
  next => exact .inl rfl

theorem get?_restoreEntry_of_ne (truth : List String) (tenants : Fields) {entry : Key × Value} {tenant : Key}
    (other : entry.1 ≠ tenant) : Assoc.get? (restoreEntry truth tenants entry) tenant = Assoc.get? tenants tenant := by
  rcases restoreEntry_cases truth tenants entry with same | ⟨declared, known, _, _, put⟩
  · rw [same]
  · rw [put, Assoc.get?_put_of_ne other]

/-- What a member of the declaration becomes, given what the baseline has under its name. -/
def restoredMember (truth : List String) : Option Value → Option Value → Option Value
  | some (.object declared), some (.object known) => some (.object (restoreTenant truth known declared))
  | declared?, _ => declared?

theorem get?_restoreEntry_self (truth : List String) (tenants : Fields) (tenant : Key) (value : Value) :
    Assoc.get? (restoreEntry truth tenants (tenant, value)) tenant =
      restoredMember truth (Assoc.get? tenants tenant) (some value) := by
  unfold restoreEntry
  split
  next declared known present object =>
    obtain rfl : value = .object known := object
    rw [Assoc.get?_put_self, present, restoredMember]
  next flat =>
    unfold restoredMember
    split
    next declared known present object => exact (flat declared known present (Option.some.inj object)).elim
    next => rfl

theorem restoredMember_none (truth : List String) (declared? : Option Value) :
    restoredMember truth declared? none = declared? := by
  unfold restoredMember
  split
  next absent => cases absent
  next => rfl

theorem get?_restored_member (truth : List String) {baseline : Fields} (unique : (Assoc.keys baseline).Nodup)
    (tenants : Fields) (tenant : Key) :
    Assoc.get? (restored truth (.object baseline) tenants) tenant =
      restoredMember truth (Assoc.get? tenants tenant) (Assoc.get? baseline tenant) := by
  change Assoc.get? (baseline.foldl (restoreEntry truth) tenants) tenant = _
  induction baseline generalizing tenants with
  | nil => exact (restoredMember_none truth _).symm
  | cons entry rest ih =>
    obtain ⟨head, value⟩ := entry
    rw [Assoc.keys_cons, List.nodup_cons] at unique
    rw [List.foldl_cons, ih unique.2]
    by_cases same : head = tenant
    · subst same
      rw [Assoc.get?_eq_none_iff.mpr unique.1, restoredMember_none, get?_restoreEntry_self, Assoc.get?, if_pos rfl]
    · rw [get?_restoreEntry_of_ne truth tenants same, Assoc.get?, if_neg same]

theorem get?_restored (truth : List String) {baseline tenants : Fields} (unique : (Assoc.keys baseline).Nodup)
    {tenant : Key} {known declared : Fields} (there : Assoc.get? baseline tenant = some (.object known))
    (here : Assoc.get? tenants tenant = some (.object declared)) :
    Assoc.get? (restored truth (.object baseline) tenants) tenant =
      some (.object (restoreTenant truth known declared)) := by
  rw [get?_restored_member truth unique, here, there, restoredMember]

theorem keys_restoreEntry (truth : List String) (tenants : Fields) (entry : Key × Value) :
    Assoc.keys (restoreEntry truth tenants entry) = Assoc.keys tenants := by
  rcases restoreEntry_cases truth tenants entry with same | ⟨declared, known, present, _, put⟩
  · rw [same]
  · have member : entry.1 ∈ Assoc.keys tenants := Assoc.mem_keys_iff.mpr (by rw [present]; rfl)
    rw [put, Assoc.keys_put, if_pos member]

theorem keys_restored (truth : List String) (baseline : Value) (tenants : Fields) :
    Assoc.keys (restored truth baseline tenants) = Assoc.keys tenants := by
  unfold restored
  induction Path.inside (some baseline) generalizing tenants with
  | nil => rfl
  | cons entry rest ih => rw [List.foldl_cons, ih, keys_restoreEntry]

theorem objects_restoreEntry (truth : List String) {tenants : Fields} (entry : Key × Value)
    (objects : ∀ tenant ∈ tenants, tenant.2.isObject = true) :
    ∀ tenant ∈ restoreEntry truth tenants entry, tenant.2.isObject = true := by
  rcases restoreEntry_cases truth tenants entry with same | ⟨declared, known, _, _, put⟩
  · rwa [same]
  · rw [put]
    exact Assoc.forall_mem_put (fun value : Value => value.isObject = true) objects rfl

theorem objects_restored (truth : List String) (baseline : Value) {tenants : Fields}
    (objects : ∀ tenant ∈ tenants, tenant.2.isObject = true) :
    ∀ tenant ∈ restored truth baseline tenants, tenant.2.isObject = true := by
  unfold restored
  induction Path.inside (some baseline) generalizing tenants with
  | nil => exact objects
  | cons entry rest ih => exact ih (objects_restoreEntry truth entry objects)

theorem isProper_systemFor (declared : Fields) {baseline : Value} (proper : baseline.isProper = true) :
    (systemFor declared baseline).isProper = true := by
  unfold systemFor
  split
  next => split; exacts [Value.isProper_filter proper _, proper]
  next => exact proper

theorem isProper_withRemoteDefaults {declared baseline : Value} (proper : declared.isProper = true)
    (known : baseline.isProper = true) : (withRemoteDefaults declared baseline).isProper = true := by
  unfold withRemoteDefaults
  split
  next =>
    split
    next defaults found => exact Value.isProper_putNew proper _ (Value.isProper_of_get? known found)
    next => exact proper
  next => exact proper

theorem isProper_restoreClass {known declared : Fields} (properKnown : (Value.object known).isProper = true)
    (proper : (Value.object declared).isProper = true) (schemaClass : String) :
    (Value.object (restoreClass known declared schemaClass)).isProper = true := by
  unfold restoreClass
  split
  next => exact proper
  next baseline found =>
    have properBaseline := Value.isProper_of_get? properKnown found
    dsimp only
    split
    next =>
      apply Value.isProper_put proper
      split
      exacts [isProper_systemFor declared properBaseline, properBaseline]
    next =>
      split
      next =>
        apply Value.isProper_put proper
        apply isProper_withRemoteDefaults _ properBaseline
        cases present : Assoc.get? declared schemaClass with
        | none => rfl
        | some value => exact Value.isProper_of_get? proper present
      next => exact proper

theorem isProper_restoreTenant (truth : List String) {known declared : Fields}
    (properKnown : (Value.object known).isProper = true) (proper : (Value.object declared).isProper = true) :
    (Value.object (restoreTenant truth known declared)).isProper = true := by
  unfold restoreTenant
  induction truth generalizing declared with
  | nil => exact proper
  | cons schemaClass rest ih => exact ih (isProper_restoreClass properKnown proper schemaClass)

theorem isProper_restored (truth : List String) {baseline : Value} {tenants : Fields}
    (properKnown : baseline.isProper = true) (proper : (Value.object tenants).isProper = true) :
    (Value.object (restored truth baseline tenants)).isProper = true := by
  have inner : ∀ entry ∈ Path.inside (some baseline), entry.2.isProper = true := by
    cases baseline with
    | object known => exact (Value.isProper_object.mp properKnown).2
    | _ => intro entry member; cases member
  unfold restored
  generalize Path.inside (some baseline) = known at inner ⊢
  induction known generalizing tenants with
  | nil => exact proper
  | cons entry rest ih =>
    refine ih ?_ fun other member => inner other (List.mem_cons_of_mem _ member)
    rcases restoreEntry_cases truth tenants entry with same | ⟨declared, known, present, object, put⟩
    · rwa [same]
    · have properEntry := inner entry (List.mem_cons_self ..)
      rw [put]
      exact Value.isProper_put proper _
        (isProper_restoreTenant truth (object ▸ properEntry) (Value.isProper_of_get? proper present))

end Reconcile.Restoration
