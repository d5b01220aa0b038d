import Reconcile.Proofs.Declaration.Checking
import Reconcile.Proofs.Inspection.Classes
import Reconcile.Proofs.Inspection.Filing

/-!
A rebuilt declaration passes the check that declarations go through before they are used. What makes it invalid is only
that several of its objects have been produced under one key.
-/

namespace Reconcile

namespace Report

variable {catalog : Catalog} {root : Value} {place : String} {findings after : Findings}

theorem checkClass_declared (place : String) {name : String} (known : name ∈ catalog.classes)
    (fresh : catalog.isNameless name = true → name ∉ Assoc.keys findings.seen) :
    (checkClass catalog place name findings).errors = findings.errors ∧
      Assoc.keys (checkClass catalog place name findings).seen =
        Assoc.keys findings.seen ++ (if catalog.isNameless name then [name] else []) := by
  unfold checkClass
  dsimp only
  rw [if_pos known]
  cases nameless : catalog.isNameless name with
  | false => simp
  | true =>
    have unseen := fresh nameless
    rw [if_pos rfl, if_pos rfl, Assoc.get?_eq_none_iff.mpr unseen]
    exact ⟨rfl, by rw [Assoc.keys_put, if_neg unseen]⟩

theorem checkMember_declared {key : Key} {value : Value} (declared : catalog.Declared value)
    (fresh : ∀ name ∈ catalog.single? value, name ∉ Assoc.keys findings.seen)
    (run : checkMember catalog root place key findings value = .ok after) :
    after.errors = findings.errors ∧
      (Assoc.keys after.seen).Sublist (Assoc.keys findings.seen ++ (catalog.single? value).toList) := by
  cases value with
  | object fields =>
    rw [checkMember] at run
    split at run
    next =>
      cases run
      exact ⟨rfl, List.sublist_append_left ..⟩
    next =>
      obtain ⟨name, known, field⟩ := declared rfl
      have single : catalog.single? (.object fields) = if catalog.isNameless name then some name else none := by
        rw [Catalog.single?, field]
      have found : Assoc.get? fields "class" = some (.text name) := field
      rw [found] at run
      have warned := followPointers_warned run
      obtain ⟨errors, seen⟩ := checkClass_declared (place ++ "/" ++ key.display) known fun nameless =>
        fresh name (by rw [single, if_pos nameless]; rfl)
      rw [warned.errors, warned.seen, errors, seen, single]
      refine ⟨rfl, ?_⟩
      split <;> exact .refl _
  | _ =>
    rw [checkMember] at run
    · cases run
      exact ⟨rfl, List.sublist_append_left ..⟩
    · simp

theorem checkMembers_declared {members : Fields} (declared : ∀ member ∈ members, catalog.Declared member.2)
    (once : (Assoc.keys findings.seen ++ members.filterMap fun member => catalog.single? member.2).Nodup)
    (run : checkMembers catalog root place findings members = .ok after) : after.errors = findings.errors := by
  induction members generalizing findings with
  | nil =>
    cases run
    rfl
  | cons member rest ih =>
    obtain ⟨key, value⟩ := member
    obtain ⟨first, others⟩ := List.forall_mem_cons.mp declared
    rw [List.filterMap_eq_flatMap_toList, List.flatMap_cons, ← List.append_assoc] at once
    rw [checkMembers] at run
    obtain ⟨middle, here, later⟩ := Result.bind_eq_ok.mp run
    have fresh : ∀ name ∈ catalog.single? value, name ∉ Assoc.keys findings.seen := by
      intro name single seen
      have front := (List.nodup_append.mp once).1
      exact (List.nodup_append.mp front).2.2 name seen name (Option.mem_toList.mpr single) rfl
    obtain ⟨errors, seen⟩ := checkMember_declared first fresh here
    rw [← errors]
    refine ih others ?_ later
    rw [List.filterMap_eq_flatMap_toList]
    exact once.sublist (seen.append (.refl _))

end Report

namespace Rebuild

/-- A draft whose members are all declared, with the classes of single objects that it may have. -/
structure Draft.Sound (catalog : Catalog) (draft : Draft) (classes : List String) : Prop where
  tenant : Assoc.get? draft.fields "class" = some (.text "Tenant")
  declared : ∀ member ∈ draft.fields, catalog.Declared member.2
  once : ∀ name, (draft.fields.filterMap fun member => catalog.single? member.2).count name ≤ classes.count name

theorem Draft.start_sound (catalog : Catalog) : Draft.start.Sound catalog [] where
  tenant := rfl
  declared := by
    intro member inside shaped
    obtain rfl := List.mem_singleton.mp inside
    cases shaped
  once _ := Nat.le_refl _

theorem count_filterMap_put (pick : Value → Option String) (fields : Fields) (key : Key) (value : Value) (name : String) :
    ((Assoc.put fields key value).filterMap fun member => pick member.2).count name ≤
      (fields.filterMap fun member => pick member.2).count name + (pick value).toList.count name := by
  induction fields with
  | nil => simp [Assoc.put, List.filterMap_eq_flatMap_toList]
  | cons member rest ih =>
    obtain ⟨head, present⟩ := member
    simp only [List.filterMap_eq_flatMap_toList] at ih ⊢
    rw [Assoc.put]
    split
    next =>
      simp only [List.flatMap_cons, List.count_append]
      omega
    next =>
      simp only [List.flatMap_cons, List.count_append]
      omega

namespace Draft

variable {catalog : Catalog} {draft : Draft} {classes : List String} {pair : Key × Value}

theorem add_put (tenant : Assoc.get? draft.fields "class" = some (.text "Tenant")) (pair : Key × Value) :
    ∃ target, target ≠ Key.named "class" ∧ (draft.add pair).fields = Assoc.put draft.fields target pair.2 := by
  unfold add
  split
  next => exact ⟨_, mark_ne_class pair.1 _, rfl⟩
  next free =>
    refine ⟨pair.1, ?_, rfl⟩
    intro same
    rw [same, Assoc.has_eq_isSome, tenant] at free
    exact free rfl

theorem Sound.add (sound : draft.Sound catalog classes) (declared : catalog.Declared pair.2) :
    (draft.add pair).Sound catalog (classes ++ (catalog.single? pair.2).toList) := by
  obtain ⟨target, other, written⟩ := add_put sound.tenant pair
  constructor
  · rw [written, Assoc.get?_put_of_ne other, sound.tenant]
  · rw [written]
    exact Assoc.forall_mem_put catalog.Declared sound.declared declared
  · intro name
    have before := sound.once name
    have after := count_filterMap_put catalog.single? draft.fields target pair.2 name
    rw [written, List.count_append]
    omega

theorem Sound.foldl (sound : draft.Sound catalog classes) {pairs : Fields}
    (declared : ∀ pair ∈ pairs, catalog.Declared pair.2) :
    (pairs.foldl Draft.add draft).Sound catalog (classes ++ pairs.filterMap fun pair => catalog.single? pair.2) := by
  induction pairs generalizing draft classes with
  | nil => simpa using sound
  | cons pair rest ih =>
    obtain ⟨first, others⟩ := List.forall_mem_cons.mp declared
    have all := ih (sound.add first) others
    rw [List.append_assoc] at all
    rw [List.filterMap_eq_flatMap_toList, List.flatMap_cons, ← List.filterMap_eq_flatMap_toList]
    exact all

theorem duplicates_foldl (taken : draft.duplicates.isEmpty = false) (pairs : Fields) :
    (pairs.foldl Draft.add draft).duplicates.isEmpty = false := by
  induction pairs generalizing draft with
  | nil => exact taken
  | cons pair rest ih =>
    refine ih ?_
    unfold add
    split
    next => exact Assoc.isEmpty_put ..
    next => exact taken

theorem isEmpty_duplicates_iff {pairs : Fields} (unmarked : draft.duplicates.isEmpty = true)
    (unique : (Assoc.keys draft.fields).Nodup) :
    (pairs.foldl Draft.add draft).duplicates.isEmpty = true ↔
      (Assoc.keys draft.fields ++ Assoc.keys pairs).Nodup := by
  induction pairs generalizing draft with
  | nil => simpa [unmarked] using unique
  | cons pair rest ih =>
    obtain ⟨key, value⟩ := pair
    rw [List.foldl_cons, Assoc.keys_cons]
    cases taken : Assoc.has draft.fields key with
    | true =>
      have marked : (draft.add (key, value)).duplicates.isEmpty = false := by
        rw [add, if_pos taken]
        exact Assoc.isEmpty_put ..
      rw [duplicates_foldl marked]
      refine iff_of_false Bool.false_ne_true fun distinct => ?_
      exact (List.nodup_append.mp distinct).2.2 key (Assoc.has_iff.mp taken) key (List.mem_cons_self ..) rfl
    | false =>
      have next : draft.add (key, value) = { draft with fields := draft.fields ++ [(key, value)] } := by
        rw [add, if_neg (by simp [taken]), Assoc.put_of_absent taken]
      have keys : Assoc.keys (draft.fields ++ [(key, value)]) = Assoc.keys draft.fields ++ [key] := List.map_append
      have absent : key ∉ Assoc.keys draft.fields := fun member => by
        rw [Assoc.has_iff.mpr member] at taken
        cases taken
      have grown : (Assoc.keys (draft.fields ++ [(key, value)])).Nodup := by
        rw [keys]
        exact List.nodup_append.mpr ⟨unique, List.nodup_singleton key, fun other member last here same =>
          absent (List.mem_singleton.mp here ▸ same ▸ member)⟩
      have later := @ih { draft with fields := draft.fields ++ [(key, value)] } unmarked grown
      rw [next, later, keys, List.append_assoc, List.singleton_append]

end Draft

theorem report_rebuilt {catalog : Catalog} (declares : catalog.Declares) {config pairs : Fields}
    (host : ∀ value, Assoc.get? config "hostname" = some value → value.isObject = false)
    (done : produced catalog config = .ok pairs) (version : String) {report : Report}
    (checked : Report.ofDeclaration catalog (.object [("class", .text "Device"), ("schemaVersion", .text version),
      ("Common", .object (pairs.foldl Draft.add .start).fields)]) = .ok report) :
    report.valid = true ∧ report.errors = [] := by
  obtain ⟨declared, distinct⟩ := produced_declared declares host done
  have sound := (Draft.start_sound catalog).foldl declared
  generalize pairs.foldl Draft.add .start = draft at sound checked
  have marked : (Fields.lookup draft.fields "class").spells "Tenant" = true := by
    rw [Fields.lookup, sound.tenant]
    rfl
  have tenants : Declaration.tenants [("class", .text "Device"), ("schemaVersion", .text version),
      ("Common", .object draft.fields)] = [.named "Common"] := by
    simp [Declaration.tenants, Declaration.ownKeys, marked]
  unfold Report.ofDeclaration at checked
  dsimp only at checked
  rw [tenants] at checked
  obtain ⟨findings, run, done⟩ := Result.bind_eq_ok.mp checked
  cases done
  obtain ⟨members, run, done⟩ := Result.bind_eq_ok.mp run
  cases done
  have once : (Assoc.keys ({} : Report.Findings).seen ++
      draft.fields.filterMap fun member => catalog.single? member.2).Nodup := by
    rw [List.nodup_iff_count_le_one]
    exact fun name => Nat.le_trans (sound.once name) (List.nodup_iff_count_le_one.mp distinct name)
  have blameless := Report.checkMembers_declared sound.declared once run
  exact ⟨by rw [blameless]; rfl, blameless⟩

end Rebuild

end Reconcile
