import Mathlib.Data.List.Induction
import Reconcile.Proofs.Difference.Omission

/-!
What restoring omitted classes does to a tenant, for every list of classes in charge, in any order and with
repetitions. A class settles at its first turn and stays as it is at every further one, so restoring a second time
changes nothing.
-/

namespace Reconcile.Restoration

/-- Whether declared authentication lacks defaults of remote users that the baseline has. -/
structure LacksDefaults (original declared : Value) : Prop where
  object : declared.isObject = true
  absent : declared.get? "remoteUsersDefaults" = none
  known : (original.get? "remoteUsersDefaults").isSome = true

/-- What a class in charge that the baseline has comes to in a tenant, given what was declared of it. -/
inductive Mended (tenant : Fields) (original : Value) (name : String) : Option Value → Value → Prop where
  | restored {declared? : Option Value} (omitted : isOmitted declared? = true) :
      Mended tenant original name declared? original
  /-- A host name that is given for the tenant takes the place of the one in its System class. -/
  | unnamed {declared? : Option Value} {fields : Fields} (omitted : isOmitted declared? = true)
      (system : name = "System") (object : original = .object fields)
      (hosted : (tenant.lookup "hostname").truthy = true) :
      Mended tenant original name declared? (.object (Assoc.erase fields "hostname"))
  | kept {value : Value} (declared : isOmitted (some value) = false)
      (complete : name = "Authentication" → ¬LacksDefaults original value) :
      Mended tenant original name (some value) value
  | completed {fields : Fields} {defaults : Value} (declared : isOmitted (some (.object fields)) = false)
      (login : name = "Authentication") (lacking : Assoc.get? fields "remoteUsersDefaults" = none)
      (known : original.get? "remoteUsersDefaults" = some defaults) :
      Mended tenant original name (some (.object fields)) (.object (Assoc.put fields "remoteUsersDefaults" defaults))

theorem withRemoteDefaults_of_complete {original declared : Value} (complete : ¬LacksDefaults original declared) :
    withRemoteDefaults declared original = declared := by
  unfold withRemoteDefaults
  split
  next fields known =>
    split
    next defaults found =>
      cases present : Assoc.get? fields "remoteUsersDefaults" with
      | none => exact (complete ⟨rfl, present, Option.isSome_of_eq_some found⟩).elim
      | some value => rw [Assoc.putNew_eq_self (Option.isSome_of_eq_some present)]
    next => rfl
  next => rfl

theorem withRemoteDefaults_of_lacking {original : Value} {fields : Fields} {defaults : Value}
    (lacking : Assoc.get? fields "remoteUsersDefaults" = none)
    (known : original.get? "remoteUsersDefaults" = some defaults) :
    withRemoteDefaults (.object fields) original = .object (Assoc.put fields "remoteUsersDefaults" defaults) := by
  cases original with
  | object baseline =>
    have found : Assoc.get? baseline "remoteUsersDefaults" = some defaults := known
    simp [withRemoteDefaults, found, Assoc.putNew, Assoc.has_eq_isSome, lacking]
  | _ => cases known

theorem systemFor_empty (declared : Fields) : systemFor declared (.object []) = .object [] := by
  rw [systemFor]
  split <;> rfl

section Tenant

variable {known declared tenant : Fields} {name : String} {original : Value}

theorem restoreClass_of_known (there : Assoc.get? known name = some original) :
    restoreClass known declared name =
      if isOmitted (Assoc.get? declared name) then
        Assoc.put declared name (if name = "System" then systemFor declared original else original)
      else if name = "Authentication" then
        Assoc.put declared name (withRemoteDefaults ((Assoc.get? declared name).getD .null) original)
      else declared := by
  rw [restoreClass, there]

theorem hostname_restoreClass (hosted : (declared.lookup "hostname").truthy = true) (head : String) :
    (restoreClass known declared head).lookup "hostname" = declared.lookup "hostname" := by
  rw [Fields.lookup, Fields.lookup]
  by_cases same : head = "hostname"
  · subst same
    have given : isOmitted (Assoc.get? declared "hostname") = false := by
      rw [Fields.lookup] at hosted
      cases found : Assoc.get? declared "hostname" with
      | none =>
        rw [found] at hosted
        cases hosted
      | some value =>
        rw [found] at hosted
        cases value with
        | object fields => cases fields <;> simp_all [Value.truthy, isOmitted]
        | _ => rfl
    cases there : Assoc.get? known "hostname" with
    | none => rw [restoreClass_eq_self there]
    | some original =>
      rw [restoreClass_of_known there, given, if_neg Bool.false_ne_true, if_neg (by decide)]
  · rw [get?_restoreClass_of_ne fun equal => same (Key.named.inj equal)]

theorem Mended.restoreClass {declared? : Option Value} {value : Value}
    (mended : Mended tenant original name declared? value) (head : String) :
    Mended (restoreClass known tenant head) original name declared? value := by
  cases mended with
  | restored omitted => exact .restored omitted
  | unnamed omitted system object hosted =>
    exact .unnamed omitted system object (by rw [hostname_restoreClass hosted, hosted])
  | kept declared complete => exact .kept declared complete
  | completed declared login lacking known => exact .completed declared login lacking known

theorem mended_omitted (there : Assoc.get? known name = some original)
    (omitted : isOmitted (Assoc.get? declared name) = true) :
    ∃ value, Assoc.get? (restoreClass known declared name) name = some value ∧
      Mended (restoreClass known declared name) original name (Assoc.get? declared name) value := by
  have here : Assoc.get? (restoreClass known declared name) name =
      some (if name = "System" then systemFor declared original else original) := by
    rw [restoreClass_of_known there, if_pos omitted, Assoc.get?_put_self]
  refine ⟨_, here, ?_⟩
  by_cases system : name = "System"
  · subst system
    have host : (restoreClass known declared "System").lookup "hostname" = declared.lookup "hostname" := by
      rw [Fields.lookup, Fields.lookup, get?_restoreClass_of_ne (by decide)]
    rw [if_pos rfl]
    cases original with
    | object fields =>
      rw [systemFor]
      split
      next hosted => exact .unnamed omitted rfl rfl (host ▸ hosted)
      next => exact .restored omitted
    | _ => exact .restored omitted
  · rw [if_neg system]
    exact .restored omitted

theorem mended_given {value : Value} (there : Assoc.get? known name = some original)
    (present : Assoc.get? declared name = some value) (given : isOmitted (some value) = false) :
    ∃ after, Assoc.get? (restoreClass known declared name) name = some after ∧
      Mended (restoreClass known declared name) original name (some value) after := by
  by_cases login : name = "Authentication"
  · have here : Assoc.get? (restoreClass known declared name) name = some (withRemoteDefaults value original) := by
      rw [restoreClass_of_known there, present, given, if_neg Bool.false_ne_true, if_pos login,
        Assoc.get?_put_self, Option.getD_some]
    refine ⟨_, here, ?_⟩
    by_cases lacks : LacksDefaults original value
    · obtain ⟨object, absent, known⟩ := lacks
      obtain ⟨defaults, known⟩ := Option.isSome_iff_exists.mp known
      cases value with
      | object fields =>
        rw [withRemoteDefaults_of_lacking absent known]
        exact .completed given login absent known
      | _ => cases object
    · rw [withRemoteDefaults_of_complete lacks]
      exact .kept given fun _ => lacks
  · refine ⟨value, ?_, .kept given fun same => (login same).elim⟩
    rw [restoreClass_of_known there, present, given, if_neg Bool.false_ne_true, if_neg login, present]

theorem mended_restoreClass (there : Assoc.get? known name = some original) :
    ∃ value, Assoc.get? (restoreClass known declared name) name = some value ∧
      Mended (restoreClass known declared name) original name (Assoc.get? declared name) value := by
  cases omitted : isOmitted (Assoc.get? declared name) with
  | true => exact mended_omitted there omitted
  | false =>
    cases present : Assoc.get? declared name with
    | none =>
      rw [present] at omitted
      cases omitted
    | some value => exact mended_given there present (present ▸ omitted)

theorem Mended.restoreClass_eq {declared? : Option Value} {value : Value}
    (mended : Mended tenant original name declared? value) (there : Assoc.get? known name = some original)
    (here : Assoc.get? tenant name = some value) : Restoration.restoreClass known tenant name = tenant := by
  -- Either turn of the step writes what is there.
  suffices same :
      (isOmitted (some value) = true → (if name = "System" then systemFor tenant original else original) = value) ∧
      (name = "Authentication" → isOmitted (some value) = false → withRemoteDefaults value original = value) by
    rw [restoreClass_of_known there, here]
    split
    next omitted => rw [same.1 omitted, Assoc.put_eq_self here]
    next given =>
      split
      next login => rw [Option.getD_some, same.2 login (by simpa using given), Assoc.put_eq_self here]
      next => rfl
  cases mended with
  | restored =>
    refine ⟨fun omitted => ?_, fun _ _ => withRemoteDefaults_self original⟩
    cases original with
    | object fields =>
      obtain rfl : fields = [] := List.isEmpty_iff.mp omitted
      rw [systemFor_empty, ite_self]
    | _ => cases omitted
  | unnamed _ system object hosted =>
    refine ⟨fun _ => ?_, fun login => ?_⟩
    · rw [if_pos system, object, systemFor, if_pos hosted]
    · exact absurd (system.symm.trans login) (by decide)
  | kept declared complete =>
    refine ⟨fun omitted => ?_, fun login _ => withRemoteDefaults_of_complete (complete login)⟩
    cases declared.symm.trans omitted
  | completed declared login lacking known =>
    refine ⟨fun omitted => ?_, fun _ _ => withRemoteDefaults_of_complete fun lacks => ?_⟩
    · cases (Assoc.isEmpty_put ..).symm.trans omitted
    · cases (Assoc.get?_put_self ..).symm.trans lacks.absent

end Tenant

/-- What a run over the classes in charge makes of a tenant: the classes that the baseline has are mended, and everything
else is as declared. -/
structure Restored (truth : List String) (known declared tenant : Fields) : Prop where
  classes : ∀ name ∈ truth, ∀ original, Assoc.get? known name = some original →
    ∃ value, Assoc.get? tenant name = some value ∧ Mended tenant original name (Assoc.get? declared name) value
  others : ∀ key, (∀ name ∈ truth, key = .named name → Assoc.get? known name = none) →
    Assoc.get? tenant key = Assoc.get? declared key

theorem restored_nil (known declared : Fields) : Restored [] known declared declared where
  classes := fun _ member => (List.not_mem_nil member).elim
  others := fun _ _ => rfl

theorem Restored.concat {truth : List String} {known declared tenant : Fields}
    (run : Restored truth known declared tenant) (last : String) :
    Restored (truth ++ [last]) known declared (restoreClass known tenant last) where
  classes := by
    intro name member original there
    by_cases same : name = last
    · subst same
      by_cases earlier : name ∈ truth
      · obtain ⟨value, here, mended⟩ := run.classes name earlier original there
        rw [mended.restoreClass_eq there here]
        exact ⟨value, here, mended⟩
      · have fresh : Assoc.get? tenant name = Assoc.get? declared name :=
          run.others name fun other member equal => absurd (Key.named.inj equal ▸ member) earlier
        exact fresh ▸ mended_restoreClass there
    · have earlier : name ∈ truth := by simpa [same] using member
      obtain ⟨value, here, mended⟩ := run.classes name earlier original there
      have differ : Key.named last ≠ .named name := fun equal => same (Key.named.inj equal).symm
      exact ⟨value, (get?_restoreClass_of_ne differ).trans here, mended.restoreClass last⟩
  others := by
    intro key unknown
    have before := run.others key fun name member => unknown name (List.mem_append_left _ member)
    by_cases same : Key.named last = key
    · subst same
      rw [restoreClass_eq_self (unknown last (List.mem_append_right _ (List.mem_singleton_self last)) rfl), before]
    · rw [get?_restoreClass_of_ne same, before]

theorem restored_restoreTenant (truth : List String) (known declared : Fields) :
    Restored truth known declared (restoreTenant truth known declared) := by
  induction truth using List.reverseRecOn with
  | nil => exact restored_nil known declared
  | append_singleton truth last ih =>
    rw [restoreTenant, List.foldl_append]
    exact ih.concat last

theorem restoreTenant_again (truth : List String) (known declared : Fields) :
    restoreTenant truth known (restoreTenant truth known declared) = restoreTenant truth known declared := by
  have run := restored_restoreTenant truth known declared
  apply Result.foldl_eq_self
  intro name member
  cases there : Assoc.get? known name with
  | none => exact restoreClass_eq_self there
  | some original =>
    obtain ⟨value, here, mended⟩ := run.classes name member original there
    exact mended.restoreClass_eq there here

theorem restored_again (truth : List String) {baseline : Fields} (unique : (Assoc.keys baseline).Nodup)
    (tenants : Fields) :
    restored truth (.object baseline) (restored truth (.object baseline) tenants) =
      restored truth (.object baseline) tenants := by
  have member := get?_restored_member truth unique tenants
  generalize restored truth (.object baseline) tenants = after at member
  apply Result.foldl_eq_self
  intro entry inside
  rcases restoreEntry_cases truth after entry with same | ⟨declared, known, present, object, put⟩
  · exact same
  · -- The member was an object, so it has been restored once.
    have there : Assoc.get? baseline entry.1 = some (.object known) := object ▸ Assoc.get?_of_mem unique inside
    have here := member entry.1
    rw [present, there] at here
    cases before : Assoc.get? tenants entry.1 with
    | none =>
      rw [before] at here
      cases here
    | some value =>
      rw [before] at here
      cases value with
      | object first =>
        cases here
        rw [put, restoreTenant_again, Assoc.put_eq_self present]
      | _ => cases here

/-- Restoring omitted classes from a baseline always succeeds and, done again, changes nothing. The declaration keeps its
members in their order. A member that is an object on both sides is restored class by class, and every other member
stays as it is. -/
theorem restore_mends (truth : List String) (declaration : Fields) {baseline : Fields}
    (unique : (Assoc.keys baseline).Nodup) :
    ∃ after, restore truth (.object declaration) (.object baseline) = .ok (.object after) ∧
      restore truth (.object after) (.object baseline) = .ok (.object after) ∧
      Assoc.keys after = Assoc.keys declaration ∧
      (∀ tenant declared known, Assoc.get? declaration tenant = some (.object declared) →
        Assoc.get? baseline tenant = some (.object known) →
          ∃ mended, Assoc.get? after tenant = some (.object mended) ∧ Restored truth known declared mended) ∧
      ∀ tenant, (∀ declared known, Assoc.get? declaration tenant = some (.object declared) →
        Assoc.get? baseline tenant ≠ some (.object known)) → Assoc.get? after tenant = Assoc.get? declaration tenant := by
  refine ⟨_, restore_object truth baseline declaration, ?_, keys_restored truth _ declaration, ?_, ?_⟩
  · rw [restore_object, restored_again truth unique]
  · intro tenant declared known here there
    exact ⟨_, get?_restored truth unique there here, restored_restoreTenant truth known declared⟩
  · intro tenant flat
    rw [get?_restored_member truth unique]
    unfold restoredMember
    split
    next declared known here there => exact (flat declared known here there).elim
    next => rfl

/-- The System class comes back without its host name, as the host name is restored first. It has a second turn, which
changes nothing, as little as restoring everything again. -/
theorem restore_mends_system :
    let truth := ["hostname", "System", "VLAN", "Authentication", "System"]
    let login : Value := .object [("source", .text "local")]
    let defaults : Value := .object [("role", .text "guest")]
    let declaration : Fields := [
      ("Common", .object [("VLAN", .empty), ("Authentication", login), ("Pool", .int 1)]), ("Spare", .int 2)]
    let baseline : Fields := [
      ("Common", .object [
        ("hostname", .text "north"), ("System", .object [("hostname", .text "north"), ("idleTimeout", .int 10)]),
        ("VLAN", .object [("wire", .object [("tag", .int 7)])]),
        ("Authentication", .object [("remoteUsersDefaults", defaults)])]),
      ("Spare", .empty), ("Other", .empty)]
    (Assoc.keys baseline).Nodup ∧ ∃ after,
      restore truth (.object declaration) (.object baseline) = .ok (.object after) ∧
      restore truth (.object after) (.object baseline) = .ok (.object after) ∧
      Assoc.keys after = ["Common", "Spare"] ∧
      Path.get? ["Common", "System"] (.object after) = some (.object [("idleTimeout", .int 10)]) ∧
      Path.get? ["Common", "VLAN", "wire", "tag"] (.object after) = some (.int 7) ∧
      Path.get? ["Common", "Authentication", "remoteUsersDefaults"] (.object after) = some defaults ∧
      Path.get? ["Common", "Pool"] (.object after) = some (.int 1) := by
  intro truth login defaults declaration baseline
  have unique : (Assoc.keys baseline).Nodup := by decide
  obtain ⟨after, once, again, names, _, _⟩ := restore_mends truth declaration unique
  cases once
  exact ⟨unique, _, rfl, again, names, rfl, rfl, rfl, rfl⟩

end Reconcile.Restoration
