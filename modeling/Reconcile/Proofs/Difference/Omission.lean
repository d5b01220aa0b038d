import Reconcile.Proofs.Difference.Touching

/-!
A declaration that names its tenants and nothing in them, on a device that is still what its baseline says. Every
compared class is restored as the device has it, except that the System class loses its host name where the host
name has been restored before it. Beyond that there is nothing to change.
-/

namespace Reconcile

namespace Restoration

/-- The tenants of a configuration with nothing in them. -/
def undeclared (config : Fields) : Fields :=
  config.map fun tenant => (tenant.1, .empty)

/-- Whether a tenant has at a key what the baseline has there, as far as it has anything. -/
def Follows (known declared : Fields) (key : Key) : Prop :=
  Assoc.get? declared key = none ∨ Assoc.get? declared key = Assoc.get? known key

section Tenant

variable {known declared : Fields} {key : Key} {schemaClass : String}

theorem get?_restoreClass_of_ne (other : Key.named schemaClass ≠ key) :
    Assoc.get? (restoreClass known declared schemaClass) key = Assoc.get? declared key := by
  unfold restoreClass
  split
  next => rfl
  next =>
    dsimp only
    split
    next => exact Assoc.get?_put_of_ne other _
    next =>
      split
      next => exact Assoc.get?_put_of_ne other _
      next => rfl

theorem withRemoteDefaults_self (baseline : Value) : withRemoteDefaults baseline baseline = baseline := by
  cases baseline with
  | object fields =>
    rw [withRemoteDefaults]
    split
    next defaults found =>
      rw [Assoc.putNew_eq_self]
      rw [Assoc.has_eq_isSome, found]
      rfl
    next => rfl
  | _ => rfl

theorem get?_restoreClass_self (plain : schemaClass ≠ "System") (follows : Follows known declared schemaClass) :
    Assoc.get? (restoreClass known declared schemaClass) schemaClass = Assoc.get? known schemaClass := by
  unfold restoreClass
  cases found : Assoc.get? known schemaClass with
  | none =>
    rcases follows with absent | same
    · exact absent
    · exact same.trans found
  | some baseline =>
    rcases follows with absent | same
    · simp only [absent, isOmitted, ↓reduceIte, plain, Assoc.get?_put_self]
    · rw [found] at same
      dsimp only
      rw [same, Option.getD_some, withRemoteDefaults_self]
      split
      next => exact Assoc.get?_put_self ..
      next =>
        split
        next => exact Assoc.get?_put_self ..
        next => exact same

theorem restoreClass_eq_self (unknown : Assoc.get? known schemaClass = none) :
    restoreClass known declared schemaClass = declared := by
  rw [restoreClass, unknown]

theorem get?_restoreTenant (truth : List String) (plain : schemaClass ≠ "System")
    (follows : Follows known declared schemaClass) :
    Assoc.get? (restoreTenant truth known declared) schemaClass =
      if schemaClass ∈ truth then Assoc.get? known schemaClass else Assoc.get? declared schemaClass := by
  unfold restoreTenant
  induction truth generalizing declared with
  | nil => simp
  | cons head rest ih =>
    rw [List.foldl_cons]
    by_cases same : head = schemaClass
    · subst same
      have restored := get?_restoreClass_self plain follows
      rw [ih (.inr restored), restored, ite_self, if_pos (List.mem_cons_self ..)]
    · have kept : Assoc.get? (restoreClass known declared head) schemaClass = Assoc.get? declared schemaClass :=
        get?_restoreClass_of_ne fun equal => same (Key.named.inj equal)
      rw [ih (by rw [Follows, kept]; exact follows), kept]
      simp [Ne.symm same]

theorem systemFor_congr {declared other : Fields}
    (same : Assoc.get? other "hostname" = Assoc.get? declared "hostname") (baseline : Value) :
    systemFor other baseline = systemFor declared baseline := by
  cases baseline with
  | object fields => rw [systemFor, systemFor, Fields.lookup, Fields.lookup, same]
  | _ => rfl

theorem Follows.restoreClass (host : Follows known declared "hostname") (head : String) :
    Follows known (restoreClass known declared head) "hostname" := by
  by_cases same : head = "hostname"
  · subst same
    exact .inr (get?_restoreClass_self (by decide) host)
  · rw [Follows, get?_restoreClass_of_ne fun equal => same (Key.named.inj equal)]
    exact host

theorem systemFor_restoreClass (host : Follows known declared "hostname") (head : String) {baseline : Value}
    (omitted : isOmitted (some (systemFor declared baseline)) = true) :
    systemFor (restoreClass known declared head) baseline = systemFor declared baseline := by
  by_cases same : head = "hostname"
  · subst same
    rcases host with absent | follows
    · cases baseline with
      | object fields =>
        -- No host name was taken out so far, so the class has been empty in the baseline.
        have bare : systemFor declared (.object fields) = .object fields := by
          rw [systemFor, Fields.lookup, absent]
          rfl
        rw [bare] at omitted
        obtain rfl : fields = [] := List.isEmpty_iff.mp omitted
        rw [bare, systemFor]
        split <;> rfl
      | _ => rfl
    · apply systemFor_congr
      rw [get?_restoreClass_self (by decide) (.inr follows), follows]
  · exact systemFor_congr (get?_restoreClass_of_ne fun equal => same (Key.named.inj equal)) baseline

theorem system_stays (truth : List String) {baseline : Value} (there : Assoc.get? known "System" = some baseline)
    (host : Follows known declared "hostname") {value : Value} (here : Assoc.get? declared "System" = some value)
    (again : isOmitted (some value) = true → systemFor declared baseline = value) :
    Assoc.get? (restoreTenant truth known declared) "System" = some value := by
  unfold restoreTenant
  induction truth generalizing declared with
  | nil => exact here
  | cons head rest ih =>
    rw [List.foldl_cons]
    refine ih (host.restoreClass head) ?_ fun omitted => ?_
    · by_cases same : head = "System"
      · subst same
        rw [restoreClass, there]
        dsimp only
        rw [here]
        split
        next omitted => simp only [↓reduceIte, Assoc.get?_put_self, again omitted]
        next => exact here
      · rw [get?_restoreClass_of_ne fun equal => same (Key.named.inj equal), here]
    · have same := again omitted
      rw [systemFor_restoreClass host head (same.symm ▸ omitted), same]

/-- The System class is restored at its first turn, with a view to the host name that is there by then. -/
theorem system_restoreTenant (truth : List String) (host : Follows known declared "hostname")
    (absent : Assoc.get? declared "System" = none) :
    Assoc.get? (restoreTenant truth known declared) "System" =
      if "System" ∈ truth then
        (Assoc.get? known "System").map
          (systemFor (restoreTenant (truth.takeWhile (· ≠ "System")) known declared))
      else none := by
  induction truth generalizing declared with
  | nil => simpa [restoreTenant] using absent
  | cons head rest ih =>
    change Assoc.get? (restoreTenant rest known (restoreClass known declared head)) "System" = _
    by_cases same : head = "System"
    · subst same
      rw [if_pos (List.mem_cons_self ..)]
      cases there : Assoc.get? known "System" with
      | none =>
        rw [restoreClass_eq_self there, ih host absent, there, Option.map_none, ite_self]
        rfl
      | some baseline =>
        have restored : Assoc.get? (restoreClass known declared "System") "System" =
            some (systemFor declared baseline) := by
          rw [restoreClass, there]
          simp only [absent, isOmitted, ↓reduceIte, Assoc.get?_put_self]
        rw [system_stays rest there (host.restoreClass "System") restored]
        · rfl
        · exact systemFor_restoreClass host "System"
    · have other : Key.named head ≠ "System" := fun equal => same (Key.named.inj equal)
      rw [ih (host.restoreClass head) ((get?_restoreClass_of_ne other).trans absent),
        List.takeWhile_cons_of_pos (by simpa using same)]
      simp [Ne.symm same, restoreTenant]

end Tenant

end Restoration

namespace Comparison

open Restoration

/-- Whether the host name of a System class gets lost in restoring: the host name of the tenant is restored before
the class is, and is then taken for a declared one. -/
structure LosesHostname (truth : List String) (config : Fields) (tenant : Key) (host : Value) : Prop where
  restored : "System" ∈ truth
  first : "hostname" ∈ truth.takeWhile (· ≠ "System")
  named : ((Path.get? [tenant, "hostname"] (.object config)).getD .null).truthy = true
  held : Path.get? [tenant, "System", "hostname"] (.object config) = some host

theorem compares_iff {comparison : Comparison} {key : Key} :
    comparison.compares key = true ↔ ∃ name, key = .named name ∧ name ≠ "hostname" ∧ name ∈ comparison.truth := by
  cases key with
  | named name => simp [compares]
  | _ => simp [compares]

theorem between?_self {field? : Option Value} (proper : ∀ value, field? = some value → value.isProper = true) :
    Change.between? field? field? = [] := by
  rw [Change.between?_eq_nil_iff proper proper]
  cases field? with
  | none => trivial
  | some value => exact Value.strictEq_self value (proper value rfl)

theorem mem_between_erase {fields : Fields} (proper : (Value.object fields).isProper = true) (key : Key) {path : Path}
    {edit : Edit} :
    ⟨path, edit⟩ ∈ Change.between [] (.object fields) (.object (Assoc.erase fields key)) ↔
      ∃ value, Assoc.get? fields key = some value ∧ path = [key] ∧ edit = .delete value := by
  have unique := Value.nodup_of_isProper proper
  have uniqueLeft : (Assoc.keys (Assoc.erase fields key)).Nodup := Assoc.nodup_keys_filter unique _
  constructor
  · intro member
    obtain ⟨head, rest, rfl⟩ := List.exists_cons_of_ne_nil (Change.inside_between _ _ _ member)
    rw [← Change.mem_below, Change.below_between unique uniqueLeft, Assoc.get?_erase] at member
    split at member
    next same =>
      subst same
      cases found : Assoc.get? fields key with
      | none =>
        rw [found] at member
        cases member
      | some value =>
        rw [found, Change.between?, List.mem_singleton] at member
        cases member
        exact ⟨value, rfl, rfl, rfl⟩
    next =>
      rw [between?_self fun value found => Value.isProper_of_get? proper found] at member
      cases member
  · rintro ⟨value, found, rfl, rfl⟩
    rw [← Change.mem_below, Change.below_between unique uniqueLeft, Assoc.get?_erase_self, found]
    exact List.mem_singleton_self _

theorem mem_between_systemFor (declared : Fields) {baseline : Value} (proper : baseline.isProper = true) {path : Path}
    {edit : Edit} :
    ⟨path, edit⟩ ∈ Change.between [] baseline (systemFor declared baseline) ↔
      (declared.lookup "hostname").truthy = true ∧
        ∃ host, baseline.get? "hostname" = some host ∧ path = ["hostname"] ∧ edit = .delete host := by
  have still : Change.between [] baseline baseline = [] :=
    (Change.between_eq_nil_iff proper proper).mpr (Value.strictEq_self baseline proper)
  cases baseline with
  | object fields =>
    rw [systemFor]
    cases named : (declared.lookup "hostname").truthy with
    | true => simpa [Value.get?] using mem_between_erase proper "hostname"
    | false => simp [still]
  | _ => simp [systemFor, still, Value.get?]

theorem mem_between?_restoreTenant {truth : List String} {known : Fields}
    (proper : (Value.object known).isProper = true) {name : String} (listed : name ∈ truth) {path : Path}
    {edit : Edit} :
    ⟨path, edit⟩ ∈ Change.between? (Assoc.get? known name) (Assoc.get? (restoreTenant truth known []) name) ↔
      name = "System" ∧ "hostname" ∈ truth.takeWhile (· ≠ "System") ∧ (known.lookup "hostname").truthy = true ∧
        ∃ host, (Assoc.get? known "System").bind (·.get? "hostname") = some host ∧ path = ["hostname"] ∧
          edit = .delete host := by
  by_cases system : name = "System"
  · subst system
    have host : (Fields.lookup (restoreTenant (truth.takeWhile (· ≠ "System")) known []) "hostname").truthy = true ↔
        "hostname" ∈ truth.takeWhile (· ≠ "System") ∧ (known.lookup "hostname").truthy = true := by
      rw [Fields.lookup, get?_restoreTenant _ (by decide) (.inl rfl)]
      split
      next first => rw [Fields.lookup, and_iff_right first]
      next later => exact ⟨fun given => (Bool.false_ne_true given).elim, fun both => absurd both.1 later⟩
    rw [system_restoreTenant truth (.inl rfl) rfl, if_pos listed]
    cases found : Assoc.get? known "System" with
    | none => simp [Change.between?]
    | some baseline =>
      rw [Option.map_some, Change.between?, mem_between_systemFor _ (Value.isProper_of_get? proper found), host]
      simp [and_assoc]
  · rw [get?_restoreTenant truth system (.inl rfl), if_pos listed,
      between?_self fun value found => Value.isProper_of_get? proper found]
    simp [system]

section Undeclared

variable {config : Fields} (objects : ∀ tenant ∈ config, tenant.2.isObject = true)
  (proper : (Value.object config).isProper = true)

include objects proper

theorem get?_restored_undeclared (truth : List String) {tenant : Key}
    (member : tenant ∈ Assoc.keys (restored truth (.object config) (undeclared config))) :
    ∃ known, Assoc.get? config tenant = some (.object known) ∧
      Assoc.get? (restored truth (.object config) (undeclared config)) tenant =
        some (.object (restoreTenant truth known [])) := by
  rw [keys_restored, undeclared, Assoc.keys_map config fun _ _ => Value.empty, Assoc.mem_keys_iff] at member
  obtain ⟨value, found⟩ := Option.isSome_iff_exists.mp member
  have object := objects _ (Assoc.mem_of_get? found)
  cases value with
  | object known =>
    refine ⟨known, found, get?_restored truth (Value.nodup_of_isProper proper) found ?_⟩
    rw [undeclared, Assoc.get?_map config fun _ _ => Value.empty, found]
    rfl
  | _ => cases object

theorem tenanted_undeclared : Tenanted (undeclared config) config (.object config) where
  objects := by
    intro entry member
    obtain ⟨tenant, _, rfl⟩ := List.mem_map.mp member
    rfl
  held := by
    intro entry member
    obtain ⟨tenant, inside, rfl⟩ := List.mem_map.mp member
    rw [Assoc.get?_of_mem (Value.nodup_of_isProper proper) inside]
    simp [objects tenant inside]
  known := rfl

theorem proper_undeclared (truth : List String) :
    Proper (restored truth (.object config) (undeclared config)) config where
  objects := objects_restored truth _ (tenanted_undeclared objects proper).objects
  target := by
    apply isProper_restored truth proper
    rw [Value.isProper_object, undeclared, Assoc.keys_map config fun _ _ => Value.empty]
    refine ⟨Value.nodup_of_isProper proper, fun entry member => ?_⟩
    obtain ⟨tenant, _, rfl⟩ := List.mem_map.mp member
    rfl
  current := proper

/-- With nothing declared, the only changes that a comparison finds are the host names that get lost. -/
theorem mem_found_undeclared (comparison : Comparison) {change : Change} :
    change ∈ comparison.found (restored comparison.truth (.object config) (undeclared config)) config ↔
      ∃ tenant host, LosesHostname comparison.truth config tenant host ∧
        change = ⟨[tenant, "System", "hostname"], .delete host⟩ := by
  have sides := proper_undeclared objects proper comparison.truth
  have hostname (tenant : Key) : Path.get? [tenant, "System", "hostname"] (.object config) =
      (Path.get? [tenant, "System"] (.object config)).bind (·.get? "hostname") :=
    Path.get?_concat [tenant, "System"] "hostname" (.object config)
  obtain ⟨path, edit⟩ := change
  constructor
  · intro member
    obtain ⟨tenant, schemaClass, rest, rfl, compared⟩ := path_of_mem_found member
    rw [← Change.mem_below, ← Change.mem_below, sides.below_class] at member
    split at member
    next both =>
      obtain ⟨known, held, target⟩ := get?_restored_undeclared objects proper comparison.truth both.1
      obtain ⟨name, rfl, _, listed⟩ := compares_iff.mp compared
      rw [Path.get?_pair, Path.get?_pair, held, target] at member
      obtain ⟨rfl, first, named, host, found, rfl, rfl⟩ :=
        (mem_between?_restoreTenant (Value.isProper_of_get? proper held) listed).mp member
      refine ⟨tenant, host, ⟨listed, first, ?_, ?_⟩, rfl⟩
      · rw [Path.get?_pair, held]
        exact named
      · rw [hostname, Path.get?_pair, held]
        exact found
    next => cases member
  · rintro ⟨tenant, host, loses, same⟩
    cases same
    have found := loses.held
    have member : tenant ∈ Assoc.keys (restored comparison.truth (.object config) (undeclared config)) := by
      rw [keys_restored, undeclared, Assoc.keys_map config fun _ _ => Value.empty, Assoc.mem_keys_iff]
      rw [Path.get?_cons_object] at found
      exact Option.isSome_of_isSome_bind (by rw [found]; rfl)
    obtain ⟨known, held, target⟩ := get?_restored_undeclared objects proper comparison.truth member
    have named := loses.named
    rw [hostname, Path.get?_pair, held] at found
    rw [Path.get?_pair, held] at named
    rw [← Change.mem_below, ← Change.mem_below, sides.below_class,
      if_pos ⟨member, compares_iff.mpr ⟨_, rfl, by decide, loses.restored⟩⟩, Path.get?_pair, Path.get?_pair, held,
      target]
    exact (mem_between?_restoreTenant (Value.isProper_of_get? proper held) loses.restored).mpr
      ⟨rfl, loses.first, named, host, found, rfl, rfl⟩

/-- Comparing a device that is as its baseline says with a declaration that leaves out everything always has an
outcome. The changes are the deletions of the host names that get lost, and where none gets lost nothing changes and
nothing is deleted. -/
theorem delta_undeclared (comparison : Comparison) :
    ∃ delta, comparison.delta (.object (undeclared config)) (.object config) (.object config) = .ok delta ∧
      (∀ change, change ∈ delta.changes ↔ ∃ tenant host, LosesHostname comparison.truth config tenant host ∧
        change = ⟨[tenant, "System", "hostname"], .delete host⟩) ∧
      ((∀ tenant host, ¬LosesHostname comparison.truth config tenant host) →
        delta.changes = [] ∧ ∀ entry ∈ delta.toDelete, entry.2 = .empty) := by
  refine ⟨_, delta_eq (tenanted_undeclared objects proper) rfl,
    fun change => mem_found_undeclared objects proper comparison, fun none => ?_⟩
  have nothing : comparison.found (restored comparison.truth (.object config) (undeclared config)) config = [] := by
    rw [List.eq_nil_iff_forall_not_mem]
    intro change member
    obtain ⟨tenant, host, loses, _⟩ := (mem_found_undeclared objects proper comparison).mp member
    exact none tenant host loses
  refine ⟨nothing, ?_⟩
  rw [deletions, nothing]
  intro entry member
  obtain ⟨source, _, rfl⟩ := List.mem_map.mp member
  rfl

end Undeclared

/-- A device that has a host name, a System class without it, local users and a VLAN needs nothing. -/
theorem delta_undeclared_vlan :
    let config : Fields := [("Common", .object [
      ("hostname", .text "north"), ("System", .object [("idleTimeout", .int 10)]),
      ("Authentication", .object [("remoteUsersDefaults", .object [("role", .text "guest")])]),
      ("VLAN", .object [("wire", .object [("tag", .int 7)])])])]
    (∀ tenant ∈ config, tenant.2.isObject = true) ∧ (Value.object config).isProper = true ∧
      (∀ tenant host, ¬LosesHostname defaultTruth config tenant host) ∧
      ∃ delta, Comparison.delta {} (.object (undeclared config)) (.object config) (.object config) = .ok delta ∧
        delta.changes = [] ∧ ∀ entry ∈ delta.toDelete, entry.2 = .empty := by
  intro config
  have objects : ∀ tenant ∈ config, tenant.2.isObject = true := by decide
  have proper : (Value.object config).isProper = true := by decide
  have keeps : ∀ tenant host, ¬LosesHostname defaultTruth config tenant host := by
    intro tenant host loses
    have held := loses.held
    by_cases same : tenant = "Common"
    · subst same
      cases held
    · simp [Path.get?, Value.get?, Assoc.get?, config, Ne.symm same] at held
  obtain ⟨delta, outcome, _, unchanged⟩ := delta_undeclared objects proper {}
  exact ⟨objects, proper, keeps, delta, outcome, unchanged keeps⟩

/-- A device whose System class repeats the host name is told to drop it, though nothing was declared and nothing has
drifted. -/
theorem undeclared_hostname_deleted :
    let config : Fields := [("Common", .object [
      ("hostname", .text "north"), ("System", .object [("hostname", .text "north")])])]
    ∃ delta, Comparison.delta {} (.object (undeclared config)) (.object config) (.object config) = .ok delta ∧
      delta.changes = [⟨["Common", "System", "hostname"], .delete (.text "north")⟩] :=
  ⟨_, rfl, rfl⟩

end Comparison

end Reconcile
