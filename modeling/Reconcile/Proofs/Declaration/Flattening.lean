import Reconcile.Proofs.Declaration.Checking
import Reconcile.Proofs.Declaration.Pointers
import Reconcile.Proofs.Declaration.Renaming
import Reconcile.Proofs.Engine.Planning

/-!
Flattening a valid declaration keeps every declared object. This takes a declaration that does not declare two objects
of one class under one key of a tenant, in different groups, and has no loose value under the name of a declared class.
-/

namespace Reconcile

open Result

namespace Leaf

def isObject : Leaf → Bool
  | .object _ _ _ => true
  | _ => false

/-- Whether two leaves would be written over one another without any check noticing. -/
def clashes (catalog : Catalog) : Leaf → Leaf → Bool
  | .object schemaClass key _, .object other name _ =>
    schemaClass == other && key == name && !catalog.isNameless schemaClass
  | .object schemaClass _ _, .loose key _ | .loose key _, .object schemaClass _ _ => key == .named schemaClass
  | _, _ => false

/-- Leaves none of which is written over a declared object. -/
def Unambiguous (catalog : Catalog) (leaves : List Leaf) : Prop :=
  leaves.Pairwise fun first second => first.clashes catalog second = false

instance (catalog : Catalog) (leaves : List Leaf) : Decidable (Unambiguous catalog leaves) :=
  inferInstanceAs (Decidable (List.Pairwise _ _))

/-- Whether neither of two leaves can touch what is written for the other. -/
def Separate (catalog : Catalog) (first second : Leaf) : Prop :=
  first.clashes catalog second = false ∧ ∀ name ∈ first.single? catalog, name ∉ second.single? catalog

theorem place_object (catalog : Catalog) (schemaClass : String) (key : Key) (declared : Fields) :
    ∃ rest, (Leaf.object schemaClass key declared).place catalog = .named schemaClass :: rest := by
  rw [place]
  split
  next => exact ⟨[], rfl⟩
  next => exact ⟨[key], rfl⟩

theorem Separate.apart {catalog : Catalog} {first second : Leaf} (separate : Separate catalog first second)
    {root : Value} (left : first.Understood root) (right : second.Understood root)
    (either : first.isObject = true ∨ second.isObject = true) :
    Path.Apart (first.place catalog) (second.place catalog) := by
  obtain ⟨apart, once⟩ := separate
  cases first with
  | shapeless => cases left
  | loose key value =>
    cases second with
    | shapeless => cases right
    | loose => rcases either with shape | shape <;> cases shape
    | object schemaClass name declared =>
      have differ : key ≠ .named schemaClass := beq_eq_false_iff_ne.mp apart
      obtain ⟨rest, placed⟩ := place_object catalog schemaClass name declared
      rw [placed]
      exact Path.apart_of_head_ne differ [] rest
  | object schemaClass key declared =>
    cases second with
    | shapeless => cases right
    | loose name value =>
      have differ : name ≠ .named schemaClass := beq_eq_false_iff_ne.mp apart
      obtain ⟨rest, placed⟩ := place_object catalog schemaClass key declared
      rw [placed]
      exact Path.apart_of_head_ne (Ne.symm differ) rest []
    | object other name declared' =>
      by_cases same : schemaClass = other
      · subst same
        cases nameless : catalog.isNameless schemaClass with
        | true => exact absurd (by simp [single?, nameless]) (once schemaClass (by simp [single?, nameless]))
        | false =>
          have differ : key ≠ name := by simpa [clashes, nameless] using apart
          simp only [place, nameless, Bool.false_eq_true, ↓reduceIte]
          exact Path.apart_of_length_eq rfl fun equal => differ (List.cons.inj (List.cons.inj equal).2).1
      · obtain ⟨rest, placed⟩ := place_object catalog schemaClass key declared
        obtain ⟨rest', placed'⟩ := place_object catalog other name declared'
        rw [placed, placed']
        exact Path.apart_of_head_ne (fun equal => same (Key.named.inj equal)) rest rest'

end Leaf

theorem Report.Sound.separate {catalog : Catalog} {root : Value} {leaves : List Leaf} (sound : Sound catalog root leaves)
    (unambiguous : Leaf.Unambiguous catalog leaves) : leaves.Pairwise (Leaf.Separate catalog) := by
  have once := List.pairwise_filterMap.mp sound.once
  refine (unambiguous.and once).imp fun both => ⟨both.1, fun name left right => ?_⟩
  exact both.2 name left name right rfl

namespace Flattener

variable {flattener : Flattener} {root : Value}

def kept (flattener : Flattener) (schemaClass : String) (body : Fields) : Fields :=
  if flattener.catalog.isNameless schemaClass then Assoc.putAll [] body else body

/-- An object that is filed among separate leaves is found at its place in the end. -/
theorem run_keeps {leaves : List Leaf} (separate : leaves.Pairwise (Leaf.Separate flattener.catalog))
    (understood : ∀ leaf ∈ leaves, leaf.Understood root) {final : Fields}
    (run : leaves.foldlM (flattener.file root) [] = .ok final) {schemaClass : String} {key : Key} {declared : Fields}
    (member : .object schemaClass key declared ∈ leaves) :
    ∃ body, flattener.body root schemaClass key declared = .ok body ∧
      Path.get? ((Leaf.object schemaClass key declared).place flattener.catalog) (.object final) =
        some (.object (flattener.kept schemaClass body)) := by
  obtain ⟨front, back, rfl⟩ := List.append_of_mem member
  rw [List.foldlM_append] at run
  obtain ⟨before, first, run⟩ := bind_eq_ok.mp run
  rw [List.foldlM_cons] at run
  obtain ⟨after, here, last⟩ := bind_eq_ok.mp run
  obtain ⟨_, later, across⟩ := List.pairwise_append.mp separate
  have own := understood _ member
  obtain ⟨body, made, _, rfl⟩ := of_file_object here
  refine ⟨body, made, ?_⟩
  have untouched : ∀ leaf ∈ back, Path.Apart (leaf.place flattener.catalog)
      ((Leaf.object schemaClass key declared).place flattener.catalog) := by
    intro leaf among
    have apart := List.rel_of_pairwise_cons later among
    exact (apart.apart own (understood leaf (by simp [among])) (.inl rfl)).symm
  obtain ⟨rest, placed⟩ := Leaf.place_object flattener.catalog schemaClass key declared
  rw [run_frame last untouched, Path.get?_put_self (placed ▸ List.cons_ne_nil _ _)]
  unfold content kept
  cases nameless : flattener.catalog.isNameless schemaClass with
  | false => rfl
  | true =>
    -- The class has not been written before, so that nothing is there yet to merge with.
    have shared : (Leaf.object schemaClass key declared).place flattener.catalog = [.named schemaClass] := by
      rw [Leaf.place, if_pos nameless]
    have fresh : ∀ leaf ∈ front, Path.Apart (leaf.place flattener.catalog) [.named schemaClass] := by
      intro leaf among
      exact shared ▸ (across leaf among _ (List.mem_cons_self ..)).apart (understood leaf (by simp [among])) own (.inr rfl)
    have absent := run_frame first fresh
    rw [Path.get?_singleton, Path.get?_singleton] at absent
    rw [if_pos rfl, if_pos rfl, Path.inner, absent]
    rfl

theorem body_fails (grounded : flattener.catalog.Grounded) (schemaClass : String) (key : Key) {declared : Fields}
    (followed : Declaration.Followed root (.object declared)) :
    FailsOnPointers (flattener.body root schemaClass key declared) := by
  have resolved : FailsOnPointers (Declaration.resolveFields root (Assoc.erase declared "class")) :=
    Declaration.resolveFields_fails _ fun field among => followed.fields field (List.mem_of_mem_filter among)
  unfold body
  refine resolved.bind fun fields _ => ?_
  split
  next => exact .of_succeeds (grounded.renameObject ..)
  next => exact .of_succeeds (grounded.renameObject ..)

theorem body_succeeds (grounded : flattener.catalog.Grounded) (schemaClass : String) (key : Key) {declared : Fields}
    (resolved : Succeeds (Declaration.resolveFields root (Assoc.erase declared "class"))) :
    Succeeds (flattener.body root schemaClass key declared) :=
  resolved.bind fun _ => .ite (grounded.renameObject ..) (grounded.renameObject ..)

theorem run_error {leaves : List Leaf} (separate : leaves.Pairwise (Leaf.Separate flattener.catalog))
    (understood : ∀ leaf ∈ leaves, leaf.Understood root) {flat : Fields}
    (takes : ∀ schemaClass key declared, .object schemaClass key declared ∈ leaves → Takes flat schemaClass)
    {fault : Fault} (failed : leaves.foldlM (flattener.file root) flat = .error fault) :
    ∃ schemaClass key declared, .object schemaClass key declared ∈ leaves ∧
      flattener.body root schemaClass key declared = .error fault := by
  induction leaves generalizing flat with
  | nil => cases failed
  | cons leaf rest ih =>
    obtain ⟨first, others⟩ := List.forall_mem_cons.mp understood
    obtain ⟨across, later⟩ := List.pairwise_cons.mp separate
    rw [List.foldlM_cons] at failed
    cases here : flattener.file root flat leaf with
    | ok next =>
      rw [here] at failed
      obtain ⟨schemaClass, key, declared, among, failure⟩ := ih later others (fun schemaClass key declared among => by
        refine file_takes ?_ here (takes schemaClass key declared (List.mem_cons_of_mem _ among))
        rintro value rfl
        have apart := (across _ among).1
        simp [Leaf.clashes] at apart) failed
      exact ⟨schemaClass, key, declared, List.mem_cons_of_mem _ among, failure⟩
    | error cause =>
      rw [here] at failed
      obtain rfl : cause = fault := Except.error.inj failed
      cases leaf with
      | loose => cases here
      | shapeless => cases first
      | object schemaClass key declared =>
        refine ⟨schemaClass, key, declared, List.mem_cons_self .., ?_⟩
        cases made : flattener.body root schemaClass key declared with
        | error fault =>
          rw [file, flattenObject_eq, made] at here
          exact here
        | ok body =>
          rw [file_object made (takes schemaClass key declared (List.mem_cons_self ..))] at here
          cases here

theorem flattenTenants_error {declaration : Fields} {tenants : List Key}
    (sound : ∀ tenant ∈ tenants,
      Report.Sound flattener.catalog (.object declaration) (Leaf.ofTenant (.object declaration) tenant))
    (unambiguous : ∀ tenant ∈ tenants,
      Leaf.Unambiguous flattener.catalog (Leaf.ofTenant (.object declaration) tenant))
    {fault : Fault} (failed : flattener.flattenTenants declaration tenants = .error fault) :
    ∃ tenant ∈ tenants, ∃ schemaClass key declared,
      .object schemaClass key declared ∈ Leaf.ofTenant (.object declaration) tenant ∧
        flattener.body (.object declaration) schemaClass key declared = .error fault := by
  induction tenants with
  | nil => cases failed
  | cons tenant rest ih =>
    obtain ⟨first, others⟩ := List.forall_mem_cons.mp sound
    obtain ⟨clear, clearOthers⟩ := List.forall_mem_cons.mp unambiguous
    rw [flattenTenants_cons] at failed
    cases here : (Leaf.ofTenant (.object declaration) tenant).foldlM (flattener.file (.object declaration)) [] with
    | error cause =>
      rw [here] at failed
      obtain rfl : cause = fault := Except.error.inj failed
      exact ⟨tenant, List.mem_cons_self .., run_error (first.separate clear) first.understood
        (fun schemaClass _ _ _ => takes_nil schemaClass) here⟩
    | ok flat =>
      rw [here] at failed
      cases later : flattener.flattenTenants declaration rest with
      | error cause =>
        rw [later] at failed
        obtain rfl : cause = fault := Except.error.inj failed
        obtain ⟨other, among, failure⟩ := ih others clearOthers later
        exact ⟨other, List.mem_cons_of_mem _ among, failure⟩
      | ok others =>
        rw [later] at failed
        cases failed

/-- A valid declaration that is not ambiguous is flattened if all its pointers can be resolved. -/
theorem flattened_succeeds {flattener : Flattener} (grounded : flattener.catalog.Grounded) {fields : Fields}
    {report : Report} (checked : Report.ofDeclaration flattener.catalog (.object fields) = .ok report)
    (valid : report.valid = true)
    (unambiguous : ∀ tenant ∈ Declaration.tenants fields,
      Leaf.Unambiguous flattener.catalog (Leaf.ofTenant (.object fields) tenant))
    (resolved : ∀ tenant ∈ Declaration.tenants fields, ∀ schemaClass key declared,
      .object schemaClass key declared ∈ Leaf.ofTenant (.object fields) tenant →
        Succeeds (Declaration.resolveFields (.object fields) (Assoc.erase declared "class"))) :
    Succeeds (flattener.flattened (.object fields)) := by
  obtain ⟨_, same, sound⟩ := Report.ofDeclaration_sound checked valid
  obtain rfl := Value.object.inj same
  refine Succeeds.bind ?_ fun _ => .ok _
  cases flat : flattener.flattenTenants fields (Declaration.tenants fields) with
  | ok body => exact .ok body
  | error fault =>
    obtain ⟨tenant, among, schemaClass, key, declared, member, failure⟩ := flattenTenants_error sound unambiguous flat
    obtain ⟨body, made⟩ := body_succeeds grounded schemaClass key (resolved tenant among schemaClass key declared member)
    rw [failure] at made
    cases made

/-- For a valid declaration that is not ambiguous, flattening fails only because of a pointer that refers to itself.
If it succeeds, every object of every tenant is found, as its body says, under its class and key, or under its class
alone if that class has no names; and no two objects of a tenant share a place. -/
theorem flatten_keeps {flattener : Flattener} (grounded : flattener.catalog.Grounded) {declaration : Value}
    {report : Report} (checked : Report.ofDeclaration flattener.catalog declaration = .ok report)
    (valid : report.valid = true)
    (unambiguous : ∀ fields, declaration = .object fields → ∀ tenant ∈ Declaration.tenants fields,
      Leaf.Unambiguous flattener.catalog (Leaf.ofTenant declaration tenant))
    (task : Option String) (log : Log) :
    (∀ fault, (flattener.flatten task declaration log).1 = .error fault → ∃ pointer, fault = .selfPointer pointer) ∧
    ∀ flat, (flattener.flatten task declaration log).1 = .ok flat → ∀ tenant ∈ flat.tenants,
      ∃ kept, Path.get? [tenant] (.object flat.body) = some (.object kept) ∧
        (∀ schemaClass key declared, .object schemaClass key declared ∈ Leaf.ofTenant declaration tenant →
          ∃ body, flattener.body declaration schemaClass key declared = .ok body ∧
            if flattener.catalog.isNameless schemaClass then
              Path.get? [.named schemaClass] (.object kept) = some (.object (Assoc.putAll [] body))
            else Path.get? [.named schemaClass, key] (.object kept) = some (.object body)) ∧
        (Leaf.ofTenant declaration tenant).Pairwise fun first second =>
          first.isObject = true → second.isObject = true →
            first.place flattener.catalog ≠ second.place flattener.catalog := by
  obtain ⟨fields, rfl, sound⟩ := Report.ofDeclaration_sound checked valid
  rw [flattener.yields_flatten task (.object fields) log, flattened]
  constructor
  · refine FailsOnPointers.bind (fun fault failed => ?_) fun _ _ => .ok _
    obtain ⟨tenant, among, schemaClass, key, declared, member, failure⟩ :=
      flattenTenants_error sound (unambiguous fields rfl) failed
    exact body_fails grounded schemaClass key ((sound tenant among).understood _ member) fault failure
  · intro flat run tenant among
    obtain ⟨body, flattened, done⟩ := bind_eq_ok.mp run
    cases done
    obtain ⟨kept, filed, placed⟩ := get?_flattenTenants flattened among
    have checked := sound tenant among
    have separate := checked.separate (unambiguous fields rfl tenant among)
    refine ⟨kept, by rw [Path.get?_singleton, placed], fun schemaClass key declared member => ?_, ?_⟩
    · obtain ⟨body, made, there⟩ := run_keeps separate checked.understood filed member
      refine ⟨body, made, ?_⟩
      rw [Leaf.place, Flattener.kept] at there
      cases nameless : flattener.catalog.isNameless schemaClass with
      | true => simpa only [nameless, ↓reduceIte] using there
      | false => simpa only [nameless, Bool.false_eq_true, ↓reduceIte] using there
    · refine separate.imp_of_mem fun left right apart shaped _ same => ?_
      have away := apart.apart (checked.understood _ left) (checked.understood _ right) (.inl shaped)
      exact away.1 (same ▸ List.prefix_refl _)

/-- A VLAN in a group, the settings of a class without names and a loose host name are all kept. -/
theorem flatten_keeps_grouped :
    let members : Fields := [
      ("class", .text "Tenant"), ("hostname", .text "north"),
      ("network", .object [("wire", .object [("class", .text "VLAN"), ("tag", .int 7)])]),
      ("time", .object [("class", .text "NTP"), ("timezone", .text "UTC")])]
    let declaration : Value := .object [("class", .text "Device"), ("Common", .object members)]
    let flattener : Flattener := { catalog := .packaged }
    ∃ report flat kept, Report.ofDeclaration .packaged declaration = .ok report ∧ report.valid = true ∧
      Leaf.Unambiguous .packaged (Leaf.ofTenant declaration "Common") ∧
      (flattener.flatten none declaration []).1 = .ok flat ∧ .named "Common" ∈ flat.tenants ∧
      Path.get? ["Common"] (.object flat.body) = some (.object kept) ∧
      (Path.get? ["VLAN", "wire"] (.object kept)).isSome = true ∧ (Path.get? ["NTP"] (.object kept)).isSome = true := by
  intro members declaration flattener
  have passed : passes Report.valid (Report.ofDeclaration .packaged declaration) = true := by decide +kernel
  obtain ⟨report, checked, valid⟩ := of_passes passed
  have clear : Leaf.Unambiguous .packaged (Leaf.ofTenant declaration "Common") := by decide +kernel
  have only {tenant : Key} (member : tenant ∈ Declaration.tenants [("class", .text "Device"), ("Common", .object members)]) :
      tenant = "Common" := List.mem_singleton.mp member
  have unambiguous : ∀ fields, declaration = .object fields → ∀ tenant ∈ Declaration.tenants fields,
      Leaf.Unambiguous .packaged (Leaf.ofTenant declaration tenant) := by
    intro fields same tenant member
    obtain rfl := Value.object.inj same
    rw [only member]
    exact clear
  have run : Succeeds (flattener.flatten none declaration []).1 := by
    rw [flattener.yields_flatten none declaration []]
    refine flattened_succeeds Catalog.packaged_grounded checked valid (unambiguous _ rfl) ?_
    intro tenant member schemaClass key declared among
    obtain rfl := only member
    -- The leaves are the host name, the VLAN and the NTP settings, and none of them has a pointer.
    rcases among with _ | ⟨_, among⟩
    rcases among with _ | ⟨_, among⟩
    · exact ⟨_, rfl⟩
    rcases among with _ | ⟨_, among⟩
    · exact ⟨_, rfl⟩
    cases among
  obtain ⟨flat, run⟩ := run
  obtain ⟨_, keeps⟩ := @flatten_keeps flattener Catalog.packaged_grounded _ _ checked valid unambiguous none []
  have there : .named "Common" ∈ flat.tenants := by
    rw [flattener.yields_flatten none declaration []] at run
    obtain ⟨body, _, done⟩ := bind_eq_ok.mp run
    cases done
    exact List.mem_singleton_self _
  obtain ⟨kept, common, objects, _⟩ := keeps flat run "Common" there
  have vlan : flattener.catalog.isNameless "VLAN" = false := by decide +kernel
  have ntp : flattener.catalog.isNameless "NTP" = true := by decide +kernel
  obtain ⟨_, _, wire⟩ := objects "VLAN" "wire" _ (.tail _ (.head _))
  obtain ⟨_, _, time⟩ := objects "NTP" "time" _ (.tail _ (.tail _ (.head _)))
  rw [vlan, if_neg Bool.false_ne_true] at wire
  rw [ntp, if_pos rfl] at time
  exact ⟨report, flat, kept, checked, valid, clear, run, there, common,
    Option.isSome_of_eq_some wire, Option.isSome_of_eq_some time⟩

/-- A declaration with a VLAN and, after it, a loose value under the name of the class is valid. In the flat form the
value has taken the place of the class, and the VLAN is lost. -/
theorem class_replaced_by_value :
    let members : Fields := [
      ("class", .text "Tenant"), ("v", .object [("class", .text "VLAN"), ("tag", .int 1)]), ("VLAN", .text "x")]
    let declaration : Value := .object [("class", .text "Device"), ("Common", .object members)]
    ∃ report flat, Report.ofDeclaration .packaged declaration = .ok report ∧ report.valid = true ∧
      (Flattener.flatten { catalog := .packaged } none declaration []).1 = .ok flat ∧
      Path.get? ["Common", "VLAN"] (.object flat.body) = some (.text "x") ∧
      Path.get? ["Common", "VLAN", "v"] (.object flat.body) = none := by
  intro members declaration
  have passed : passes Report.valid (Report.ofDeclaration .packaged declaration) = true := by decide +kernel
  obtain ⟨report, checked, valid⟩ := of_passes passed
  let flattener : Flattener := { catalog := .packaged }
  obtain ⟨body, made⟩ : Succeeds (flattener.body declaration "VLAN" "v" [("class", .text "VLAN"), ("tag", .int 1)]) :=
    body_succeeds Catalog.packaged_grounded "VLAN" "v" ⟨_, rfl⟩
  have leaves : Leaf.ofTenant declaration "Common" =
      [.object "VLAN" "v" [("class", .text "VLAN"), ("tag", .int 1)], .loose "VLAN" (.text "x")] := rfl
  obtain ⟨filed, first⟩ : Succeeds (flattener.file declaration [] (.object "VLAN" "v" _)) :=
    ⟨_, file_object made (takes_nil "VLAN")⟩
  have run : (flattener.flatten none declaration []).1 =
      .ok ⟨["Common"], [("Common", .object (Assoc.put filed "VLAN" (.text "x")))]⟩ := by
    rw [flattener.yields_flatten none declaration []]
    change (flattener.flattenTenants _ ["Common"] >>= _) = _
    rw [flattenTenants_cons, leaves, List.foldlM_cons, first]
    rfl
  refine ⟨report, _, checked, valid, run, ?_, ?_⟩
  · rw [Path.get?_pair]
    exact Assoc.get?_put_self ..
  · rw [Path.get?_cons_object, Assoc.get?, if_pos rfl, Option.bind_some, Path.get?_pair, Assoc.get?_put_self]
    rfl

end Flattener

end Reconcile
