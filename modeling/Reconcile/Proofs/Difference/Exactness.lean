import Reconcile.Proofs.Difference.Convergence
import Reconcile.Proofs.Difference.Touching

/-!
What a comparison reports for a class of named objects is exact: it deletes the names that the device has and the
desired class lacks, it writes the names whose values differ, and it mentions no other name of the class.
-/

namespace Reconcile

theorem Value.strictEq_object_of_flat {value : Value} (flat : value.isObject = false) (fields : Fields) :
    value.strictEq (.object fields) = false := by
  cases value with
  | object others => cases flat
  | _ => rfl

namespace Change

theorem between?_class (held? : Option Value) (wanted : Fields) :
    (∃ lefts, held? = some (.object lefts)) ∨
      Path.inside held? = [] ∧ ∃ edit, between? held? (some (.object wanted)) = [⟨[], edit⟩] ∧
        after? ⟨[], edit⟩ = some (.object wanted) := by
  cases held? with
  | none => exact .inr ⟨rfl, _, rfl, rfl⟩
  | some held =>
    cases flat : held.isObject with
    | true =>
      cases held with
      | object lefts => exact .inl ⟨lefts, rfl⟩
      | _ => cases flat
    | false =>
      have nothing : Path.inside (some held) = [] := by
        cases held with
        | object lefts => cases flat
        | _ => rfl
      have whole : between? (some held) (some (.object wanted)) = [⟨[], .modify held (.object wanted)⟩] := by
        rw [between?, between_flat [] (by simp [flat]), Value.strictEq_object_of_flat flat]
        rfl
      exact .inr ⟨nothing, _, whole, rfl⟩

theorem delete_not_mem_between (left right before : Value) : ⟨[], .delete before⟩ ∉ between [] left right := by
  intro member
  cases flat : left.isObject && right.isObject with
  | false =>
    rw [between_flat [] flat] at member
    split at member
    next => cases member
    next => cases List.mem_singleton.mp member
  | true =>
    cases left with
    | object lefts =>
      cases right with
      | object rights => exact inside_between lefts rights _ member rfl
      | _ => cases flat
    | _ => cases flat

theorem delete_mem_between? {held? : Option Value} {wanted : Fields}
    (properHeld : ∀ value, held? = some value → value.isProper = true)
    (uniqueWanted : (Assoc.keys wanted).Nodup) (name : Key) :
    (∃ before, ⟨[name], .delete before⟩ ∈ between? held? (some (.object wanted))) ↔
      Assoc.has (Path.inside held?) name = true ∧ Assoc.has wanted name = false := by
  rcases between?_class held? wanted with ⟨lefts, rfl⟩ | ⟨nothing, edit, whole, _⟩
  · have unique := Value.nodup_of_isProper (properHeld _ rfl)
    have present : Path.inside (some (.object lefts)) = lefts := rfl
    rw [present, Assoc.has_eq_isSome, Assoc.has_eq_isSome]
    simp only [between?, ← mem_below, below_between unique uniqueWanted]
    cases foundLeft : Assoc.get? lefts name with
    | none => cases Assoc.get? wanted name <;> simp
    | some left =>
      cases Assoc.get? wanted name with
      | none => simp
      | some right => simp [delete_not_mem_between left right]
  · rw [nothing, whole]
    simp [Assoc.has_eq_isSome]

end Change

namespace Comparison

variable {comparison : Comparison}

theorem mem_namesBelow {schemaClass : Key} (named : comparison.isNameless schemaClass = false)
    {held? : Option Value} {wanted : Fields} (properHeld : ∀ value, held? = some value → value.isProper = true)
    (properWanted : (Value.object wanted).isProper = true) (name : Key) :
    name ∈ (Change.between? held? (some (.object wanted))).flatMap (comparison.namesBelow schemaClass) ↔
      ¬Value.Agree (Assoc.get? (Path.inside held?) name) (Assoc.get? wanted name) := by
  rcases Change.between?_class held? wanted with ⟨lefts, rfl⟩ | ⟨nothing, edit, whole, after⟩
  · have properLefts := properHeld _ rfl
    have below := Change.below_between (Value.nodup_of_isProper properLefts) (Value.nodup_of_isProper properWanted) name
    have agree := Change.between?_eq_nil_iff
      (fun left (found : Assoc.get? lefts name = some left) => Value.isProper_of_get? properLefts found)
      (fun right (found : Assoc.get? wanted name = some right) => Value.isProper_of_get? properWanted found)
    have present : Path.inside (some (.object lefts)) = lefts := rfl
    rw [present, ← agree, ← below, List.eq_nil_iff_forall_not_mem, not_forall, List.mem_flatMap]
    constructor
    · rintro ⟨⟨path, edit⟩, member, concerned⟩
      obtain ⟨head, rest, rfl⟩ := List.exists_cons_of_ne_nil (Change.inside_between lefts wanted _ member)
      obtain rfl : name = head := by simpa [namesBelow, named] using concerned
      exact ⟨⟨rest, edit⟩, not_not.mpr (Change.mem_below.mpr member)⟩
    · rintro ⟨⟨rest, edit⟩, member⟩
      exact ⟨⟨name :: rest, edit⟩, Change.mem_below.mp (not_not.mp member), by simp [namesBelow, named]⟩
  · rw [nothing, whole, Assoc.get?_nil, Value.agree_none_iff, Assoc.get?_eq_none_iff, not_not]
    simp [namesBelow, named, after]

theorem noteDeleted_step (tenant name : Key) {schemaClass : Key} (named : comparison.isNameless schemaClass = false)
    (change : Change) (start : Fields) :
    ((∃ before, change = ⟨[tenant, schemaClass, name], .delete before⟩) ∧
        Path.get? [tenant, schemaClass, name] (.object (comparison.noteDeleted start change)) = some .empty) ∨
      ((∀ before, change ≠ ⟨[tenant, schemaClass, name], .delete before⟩) ∧
        Path.get? [tenant, schemaClass, name] (.object (comparison.noteDeleted start change)) =
          Path.get? [tenant, schemaClass, name] (.object start)) := by
  by_cases here : ∃ before, change = ⟨[tenant, schemaClass, name], .delete before⟩
  · obtain ⟨before, rfl⟩ := here
    refine .inl ⟨⟨before, rfl⟩, ?_⟩
    have long : [tenant, schemaClass, name] ≠ [] := List.cons_ne_nil _ _
    simp [noteDeleted, Change.isDelete, named, Path.get?_put long rfl]
  · refine .inr ⟨fun before same => here ⟨before, same⟩, ?_⟩
    unfold noteDeleted
    split
    next tenant' schemaClass' name' deleted path =>
      split
      next => rfl
      next =>
        have long : [tenant', schemaClass', name'] ≠ [] := List.cons_ne_nil _ _
        have level : [tenant', schemaClass', name'].length = [tenant, schemaClass, name].length := rfl
        rw [Path.get?_put long level, if_neg]
        intro same
        obtain ⟨_, edit⟩ := change
        cases edit with
        | delete before => exact here ⟨before, congrArg (Change.mk · _) (path.trans same)⟩
        | _ => cases deleted
    next => rfl

/-- A name of a class is noted exactly when some change deletes it. -/
theorem noteDeleted_cases (tenant name : Key) {schemaClass : Key} (named : comparison.isNameless schemaClass = false)
    (changes : List Change) (start : Fields) :
    ((∃ before, ⟨[tenant, schemaClass, name], .delete before⟩ ∈ changes) ∧
        Path.get? [tenant, schemaClass, name] (.object (changes.foldl comparison.noteDeleted start)) = some .empty) ∨
      ((∀ before, ⟨[tenant, schemaClass, name], .delete before⟩ ∉ changes) ∧
        Path.get? [tenant, schemaClass, name] (.object (changes.foldl comparison.noteDeleted start)) =
          Path.get? [tenant, schemaClass, name] (.object start)) := by
  induction changes generalizing start with
  | nil => exact .inr ⟨fun _ => List.not_mem_nil, rfl⟩
  | cons change rest ih =>
    rw [List.foldl_cons]
    rcases ih (comparison.noteDeleted start change) with ⟨⟨before, later⟩, noted⟩ | ⟨never, kept⟩
    · exact .inl ⟨⟨before, List.mem_cons_of_mem _ later⟩, noted⟩
    · rw [kept]
      rcases noteDeleted_step tenant name named change start with ⟨⟨before, same⟩, noted⟩ | ⟨other, same⟩
      · exact .inl ⟨⟨before, List.mem_cons.mpr (.inl same.symm)⟩, noted⟩
      · refine .inr ⟨fun before member => ?_, same⟩
        rcases List.mem_cons.mp member with head | later
        · exact other before head.symm
        · exact never before later

variable {target current : Fields}

theorem isProper_worked (proper : Proper target current) :
    (Value.object (comparison.worked target current)).isProper = true := by
  apply Change.isProper_replay
  · intro change member
    exact Change.isProper_after [] _ proper.target change (List.mem_filter.mp member).1
  · apply Value.isProper_of_fields (keys_before target current ▸ Value.nodup_of_isProper proper.target)
    intro tenant value found
    rw [get?_before, Option.map_eq_some_iff] at found
    obtain ⟨_, _, rfl⟩ := found
    exact Path.isProper_inner proper.current tenant

theorem Proper.worked_agrees (proper : Proper target current) {tenant schemaClass : Key}
    (desired : tenant ∈ Assoc.keys target) (compared : comparison.compares schemaClass = true) :
    Value.Agree (Path.get? [tenant, schemaClass] (.object (comparison.worked target current)))
      (Path.get? [tenant, schemaClass] (.object target)) := by
  apply proper.replay_class desired compared
  obtain ⟨value, found⟩ := Option.isSome_iff_exists.mp (Assoc.mem_keys_iff.mp desired)
  rw [Path.get?_pair, get?_before, found, Path.get?_inner]
  rfl

section Class

variable (proper : Proper target current) {tenant schemaClass : Key} {wanted : Fields}
  (compared : comparison.compares schemaClass = true)
  (present : Path.get? [tenant, schemaClass] (.object target) = some (.object wanted))

include proper present

theorem Proper.tenant_of_class : ∃ classes, Assoc.get? target tenant = some (.object classes) ∧
    tenant ∈ Assoc.keys target := by
  rcases proper.tenant_cases tenant with ⟨absent, _⟩ | desired
  · rw [Path.get?_pair, absent] at present
    cases present
  · exact desired

include compared

theorem Proper.below_object : Change.below schemaClass (Change.below tenant (comparison.found target current)) =
    Change.between? (Path.get? [tenant, schemaClass] (.object current)) (some (.object wanted)) := by
  obtain ⟨_, _, member⟩ := proper.tenant_of_class present
  rw [proper.below_class, if_pos ⟨member, compared⟩, present]

theorem Proper.worked_class :
    ∃ fields, Path.get? [tenant, schemaClass] (.object (comparison.worked target current)) = some (.object fields) ∧
      ∀ name, Value.Agree (Assoc.get? fields name) (Assoc.get? wanted name) := by
  obtain ⟨_, _, member⟩ := proper.tenant_of_class present
  have agree := proper.worked_agrees member compared
  rw [present] at agree
  cases replayed : Path.get? [tenant, schemaClass] (.object (comparison.worked target current)) with
  | none =>
    rw [replayed] at agree
    cases agree
  | some value =>
    rw [replayed] at agree
    have equal : value.strictEq (.object wanted) = true := agree
    cases value with
    | object fields =>
      rw [Path.get?_inner] at replayed
      have properFields : (Value.object fields).isProper = true :=
        Value.isProper_of_get? (Path.isProper_inner (isProper_worked proper) tenant) replayed
      have properWanted := (proper.classes tenant schemaClass).2 _ present
      exact ⟨fields, rfl, (Value.strictEq_object_iff (Value.nodup_of_isProper properFields)
        (Value.nodup_of_isProper properWanted)).mp equal⟩
    | _ => rw [Value.strictEq_object_of_flat rfl] at equal; cases equal

variable (named : comparison.isNameless schemaClass = false)

include named

theorem Proper.get?_deletions (name : Key) :
    Path.get? [tenant, schemaClass, name] (.object (comparison.deletions target current)) =
      if Assoc.has (Path.inside (Path.get? [tenant, schemaClass] (.object current))) name = true ∧
        Assoc.has wanted name = false then some .empty else none := by
  have classes := proper.classes tenant schemaClass
  have gone := Change.delete_mem_between? classes.1 (Value.nodup_of_isProper (classes.2 _ present)) name
  simp only [← proper.below_object compared present, Change.mem_below] at gone
  rcases noteDeleted_cases tenant name named (comparison.found target current)
      (target.map fun entry => (entry.1, .empty)) with ⟨some, noted⟩ | ⟨never, kept⟩
  · rw [if_pos (gone.mp some)]
    exact noted
  · rw [if_neg fun both => (gone.mpr both).elim never]
    refine kept.trans ?_
    rw [Path.get?_cons_object, Assoc.get?_map target (fun _ _ => Value.empty)]
    cases Assoc.get? target tenant <;> rfl

/-- What is written under a name equals what is wanted there, and it is written exactly where the sides disagree. -/
theorem Proper.get?_updates (name : Key) :
    ∃ value?, Value.Agree value? (Assoc.get? wanted name) ∧
      Path.get? [tenant, schemaClass, name] (.object (comparison.updates target current)) =
        if Value.Agree (Assoc.get? (Path.inside (Path.get? [tenant, schemaClass] (.object current))) name)
          (Assoc.get? wanted name) then none else value? := by
  obtain ⟨fields, replayed, agree⟩ := proper.worked_class compared present
  have classes := proper.classes tenant schemaClass
  have concerned := mem_namesBelow named classes.1 (classes.2 _ present) name
  refine ⟨Assoc.get? fields name, agree name, ?_⟩
  rw [get?_updates_named compared named proper.objects replayed, proper.below_object compared present]
  simp only [concerned, ite_not]

end Class

variable {desired : Fields} {baseline : Value}

/-- For a compared class of named objects that is wanted as an object, a comparison deletes exactly the names that only
the device has, each with an empty placeholder, and writes exactly the wanted names that the device lacks or holds
with another value, each with a value that equals the wanted one. No name is both written and deleted. -/
theorem delta_names_exact (comparison : Comparison) (inputs : WellFormed desired current baseline) :
    ∃ target delta, comparison.wanted (.object desired) baseline = .ok (.object target) ∧
      comparison.delta (.object desired) (.object current) baseline = .ok delta ∧
      ∀ tenant schemaClass wanted, comparison.compares schemaClass = true →
        comparison.isNameless schemaClass = false →
        Path.get? [tenant, schemaClass] (.object target) = some (.object wanted) →
        let held := Path.inside (Path.get? [tenant, schemaClass] (.object current))
        (∀ name, Path.get? [tenant, schemaClass, name] (.object delta.toDelete) =
          if Assoc.has held name = true ∧ Assoc.has wanted name = false then some .empty else none) ∧
        (∀ name, (Path.get? [tenant, schemaClass, name] (.object delta.toUpdate)).isSome = true ↔
          Assoc.has wanted name = true ∧ ¬Value.Agree (Assoc.get? held name) (Assoc.get? wanted name)) ∧
        (∀ name written, Path.get? [tenant, schemaClass, name] (.object delta.toUpdate) = some written →
          ∃ value, Assoc.get? wanted name = some value ∧ written.strictEq value = true) ∧
        ∀ name, ¬((Path.get? [tenant, schemaClass, name] (.object delta.toUpdate)).isSome = true ∧
          (Path.get? [tenant, schemaClass, name] (.object delta.toDelete)).isSome = true) := by
  have proper := inputs.proper comparison.truth
  have restored : comparison.wanted (.object desired) baseline =
      .ok (.object (Restoration.restored comparison.truth baseline desired)) := wanted_object inputs.toTenanted
  refine ⟨_, _, restored, delta_eq inputs.toTenanted rfl, ?_⟩
  generalize Restoration.restored comparison.truth baseline desired = target at proper
  intro tenant schemaClass wanted compared named present held
  have deleted := proper.get?_deletions compared present named
  have updated := proper.get?_updates compared present named
  have isWritten : ∀ name, (Path.get? [tenant, schemaClass, name]
      (.object (comparison.updates target current))).isSome = true ↔
        Assoc.has wanted name = true ∧ ¬Value.Agree (Assoc.get? held name) (Assoc.get? wanted name) := by
    intro name
    obtain ⟨value?, agree, written⟩ := updated name
    rw [written, Assoc.has_eq_isSome, ← agree.isSome_eq]
    split
    next equal => simp [held, equal]
    next differ => simp [held, differ]
  refine ⟨deleted, isWritten, ?_, ?_⟩
  · intro name value found
    obtain ⟨value?, agree, written⟩ := updated name
    rw [written] at found
    split at found
    next => cases found
    next =>
      rw [found] at agree
      exact Value.agree_some_iff.mp agree
  · rintro name ⟨update, deletion⟩
    rw [deleted, ((isWritten name).mp update).1] at deletion
    simp at deletion

/-- One VLAN goes, one is written, and one that is as wanted is not mentioned. -/
theorem delta_names_exact_vlans :
    let wanted : Fields := [("new", .object [("tag", .int 2)]), ("same", .object [("tag", .int 3)])]
    let held : Fields := [("old", .object [("tag", .int 1)]), ("same", .object [("tag", .int 3)])]
    let desired : Fields := [("Common", .object [("VLAN", .object wanted)])]
    let current : Fields := [("Common", .object [("VLAN", .object held)])]
    WellFormed desired current .null ∧
      Comparison.compares {} "VLAN" = true ∧ Comparison.isNameless {} "VLAN" = false ∧
      ∃ delta, Comparison.delta {} (.object desired) (.object current) .null = .ok delta ∧
        Path.get? ["Common", "VLAN", "old"] (.object delta.toDelete) = some .empty ∧
        (Path.get? ["Common", "VLAN", "new"] (.object delta.toUpdate)).isSome = true ∧
        ¬(Path.get? ["Common", "VLAN", "same"] (.object delta.toUpdate)).isSome = true := by
  intro wanted held desired current
  have inputs : WellFormed desired current .null :=
    ⟨⟨by decide, by decide, rfl⟩, by decide, by decide, rfl⟩
  have compared : Comparison.compares {} "VLAN" = true := by decide
  refine ⟨inputs, compared, rfl, ?_⟩
  obtain ⟨target, delta, restored, outcome, exact⟩ := delta_names_exact {} inputs
  have same : target = desired := by
    cases restored
    rfl
  subst same
  obtain ⟨deleted, updated, _⟩ := exact "Common" "VLAN" wanted compared rfl rfl
  refine ⟨delta, outcome, deleted "old", (updated "new").mpr (by decide), fun found => ?_⟩
  exact absurd ((updated "same").mp found).2 (by decide)

end Comparison

end Reconcile
