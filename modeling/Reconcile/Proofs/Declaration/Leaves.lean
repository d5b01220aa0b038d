import Reconcile.Declaration.Flat
import Reconcile.Proofs.Path
import Reconcile.Proofs.Result

/-!
A tenant of a declaration is a tree: objects without a class only group what they hold. Flattening goes through its
leaves in the order in which they are declared and writes each of them to one place of the flat form.
-/

namespace Reconcile

/-- What a tenant declares once its groups are opened. -/
inductive Leaf where
  /-- A value that is no object. -/
  | loose (key : Key) (value : Value)
  | object (schemaClass : String) (key : Key) (declared : Fields)
  /-- An object that says something for its class that is none. -/
  | shapeless (key : Key) (given : Value)

namespace Leaf

mutual

def ofMember (key : Key) : Value → List Leaf
  | .object fields =>
    if key = "class" then []
    else match Fields.lookup fields "class" with
      | .null => ofMembers fields
      | .text schemaClass => [.object schemaClass key fields]
      | other => [.shapeless key other]
  | value => if key = "class" then [] else [.loose key value]

def ofMembers : Fields → List Leaf
  | [] => []
  | (key, value) :: rest => ofMember key value ++ ofMembers rest

end

def ofTenant (declaration : Value) (tenant : Key) : List Leaf :=
  match declaration.get? tenant with
  | some (.object members) => ofMembers members
  | _ => []

/-- The key under which a leaf is found in the flat form. -/
def top : Leaf → Key
  | .loose key _ | .shapeless key _ => key
  | .object schemaClass _ _ => schemaClass

/-- The path at which the flat form has a leaf: objects of a class without names share the place of the class. -/
def place (catalog : Catalog) : Leaf → Path
  | .loose key _ => [key]
  | .object schemaClass key _ => if catalog.isNameless schemaClass then [.named schemaClass] else [.named schemaClass, key]
  | .shapeless _ _ => []

end Leaf

namespace Flattener

/-- A declared object with its pointers followed and its name filled in, in the device's own names. -/
def body (flattener : Flattener) (root : Value) (schemaClass : String) (name : Key) (declared : Fields) :
    Result Fields := do
  let fields ← Declaration.resolveFields root (Assoc.erase declared "class")
  if flattener.catalog.isNameless schemaClass then
    flattener.catalog.renameObject schemaClass (flattener.withDefaults schemaClass fields) none
  else
    let fields := if (fields.lookup "name").truthy then fields else Assoc.put fields "name" name.toValue
    flattener.catalog.renameObject schemaClass fields (nameText name)

def file (flattener : Flattener) (root : Value) (flat : Fields) : Leaf → Result Fields
  | .loose key value => .ok (Assoc.put flat key value)
  | .object schemaClass key declared => flattener.flattenObject root schemaClass key declared flat
  | .shapeless key given => .error (.classShape key given)

variable (flattener : Flattener) (root : Value)

mutual

theorem flattenMember_eq (key : Key) (flat : Fields) :
    ∀ value, flattener.flattenMember root key flat value = (Leaf.ofMember key value).foldlM (flattener.file root) flat
  | .object fields => by
    rw [flattenMember, Leaf.ofMember]
    split
    next => rfl
    next =>
      cases Fields.lookup fields "class" with
      | null => exact flattenMembers_eq flat fields
      | text schemaClass => exact (bind_pure _).symm
      | _ => rfl
  | .null | .bool _ | .int _ | .real _ | .text _ | .list _ => by
    rw [flattenMember, Leaf.ofMember]
    · split
      next => rfl
      next => rfl
    all_goals simp

theorem flattenMembers_eq (flat : Fields) :
    ∀ members, flattener.flattenMembers root flat members =
      (Leaf.ofMembers members).foldlM (flattener.file root) flat
  | [] => rfl
  | (key, value) :: rest => by
    rw [flattenMembers, Leaf.ofMembers, List.foldlM_append, flattenMember_eq key flat value]
    exact congrArg _ (funext fun next => flattenMembers_eq next rest)

end

theorem flattenObject_eq (schemaClass : String) (name : Key) (declared flat : Fields) :
    flattener.flattenObject root schemaClass name declared flat =
      flattener.body root schemaClass name declared >>= fun body =>
        if flattener.catalog.isNameless schemaClass then fileTogether schemaClass body flat
        else fileNamed schemaClass name body flat := by
  unfold flattenObject body
  cases Declaration.resolveFields root (Assoc.erase declared "class") with
  | error fault => rfl
  | ok fields =>
    simp only [Result.ok_bind]
    split
    next => rfl
    next => rfl

def content (schemaClass : String) (body flat : Fields) : Fields :=
  if flattener.catalog.isNameless schemaClass then Assoc.putAll (Path.inner flat (.named schemaClass)) body else body

/-- A place that can take an object of a class: nothing is there, or an object. -/
def Takes (flat : Fields) (schemaClass : String) : Prop :=
  ∀ value, Assoc.get? flat (.named schemaClass) = some value → value.isObject = true

variable {flattener} {root}

theorem takes_nil (schemaClass : String) : Takes [] schemaClass := fun _ found => nomatch found

theorem Takes.getD {flat : Fields} {schemaClass : String} (takes : Takes flat schemaClass) :
    (Assoc.get? flat (.named schemaClass)).getD .empty = .object (Path.inner flat (.named schemaClass)) := by
  unfold Path.inner
  cases found : Assoc.get? flat (.named schemaClass) with
  | none => rfl
  | some value =>
    cases value with
    | object => rfl
    | _ => cases takes _ found

theorem file_object {schemaClass : String} {name : Key} {declared body flat : Fields}
    (made : flattener.body root schemaClass name declared = .ok body) (takes : Takes flat schemaClass) :
    flattener.file root flat (.object schemaClass name declared) =
      .ok (((Leaf.object schemaClass name declared).place flattener.catalog).put
        (.object (flattener.content schemaClass body flat)) flat) := by
  rw [file, flattenObject_eq, made, Result.ok_bind, Leaf.place, content]
  split
  next =>
    rw [fileTogether, takes.getD]
    rfl
  next =>
    rw [fileNamed, takes.getD]
    rfl

theorem takes_of_file {schemaClass : String} {name : Key} {declared flat next : Fields}
    (run : flattener.file root flat (.object schemaClass name declared) = .ok next) : Takes flat schemaClass := by
  rw [file, flattenObject_eq] at run
  obtain ⟨body, _, run⟩ := Result.bind_eq_ok.mp run
  intro value found
  split at run
  next =>
    rw [fileTogether, found] at run
    cases value with
    | object => rfl
    | _ => cases run
  next =>
    rw [fileNamed, found] at run
    cases value with
    | object => rfl
    | _ => cases run

theorem of_file_object {schemaClass : String} {name : Key} {declared flat next : Fields}
    (run : flattener.file root flat (.object schemaClass name declared) = .ok next) :
    ∃ body, flattener.body root schemaClass name declared = .ok body ∧ Takes flat schemaClass ∧
      next = ((Leaf.object schemaClass name declared).place flattener.catalog).put
        (.object (flattener.content schemaClass body flat)) flat := by
  have takes := takes_of_file run
  have made := run
  rw [file, flattenObject_eq] at made
  obtain ⟨body, made, _⟩ := Result.bind_eq_ok.mp made
  rw [file_object made takes] at run
  exact ⟨body, made, takes, (Except.ok.inj run).symm⟩

theorem of_file {leaf : Leaf} {flat next : Fields} (run : flattener.file root flat leaf = .ok next) :
    ∃ value, next = (leaf.place flattener.catalog).put value flat := by
  cases leaf with
  | loose key value => exact ⟨value, (Except.ok.inj run).symm⟩
  | object schemaClass key declared =>
    obtain ⟨body, _, _, written⟩ := of_file_object run
    exact ⟨_, written⟩
  | shapeless => cases run

theorem file_frame {leaf : Leaf} {flat next : Fields} (run : flattener.file root flat leaf = .ok next) {path : Path}
    (apart : Path.Apart (leaf.place flattener.catalog) path) :
    Path.get? path (.object next) = Path.get? path (.object flat) := by
  obtain ⟨value, rfl⟩ := of_file run
  exact Path.get?_put_apart apart value flat

theorem file_other {leaf : Leaf} {flat next : Fields} (run : flattener.file root flat leaf = .ok next) {key : Key}
    (other : leaf.top ≠ key) : Assoc.get? next key = Assoc.get? flat key := by
  obtain ⟨value, rfl⟩ := of_file run
  cases leaf with
  | loose => exact Path.get?_put_head (Ne.symm other) [] value flat
  | object =>
    rw [Leaf.place]
    split <;> exact Path.get?_put_head (Ne.symm other) _ value flat
  | shapeless => cases run

section Run

variable {leaves : List Leaf} {flat final : Fields} (run : leaves.foldlM (flattener.file root) flat = .ok final)
include run

theorem run_frame {path : Path} (apart : ∀ leaf ∈ leaves, Path.Apart (leaf.place flattener.catalog) path) :
    Path.get? path (.object final) = Path.get? path (.object flat) :=
  Result.foldlM_keeps (fun next => Path.get? path (.object next) = Path.get? path (.object flat))
    (fun leaf member _ _ same step => (file_frame step (apart leaf member)).trans same) rfl run

end Run

theorem file_named {schemaClass : String} (named : flattener.catalog.isNameless schemaClass = false) {leaf : Leaf}
    (classed : ∀ value, leaf ≠ .loose schemaClass value) {flat next : Fields}
    (run : flattener.file root flat leaf = .ok next) (name : Key) :
    (Path.get? [.named schemaClass, name] (.object next)).isSome = true ↔
      (Path.get? [.named schemaClass, name] (.object flat)).isSome = true ∨
        ∃ declared, leaf = .object schemaClass name declared := by
  by_cases here : leaf.top = schemaClass
  · cases leaf with
    | loose key value => exact absurd (congrArg (Leaf.loose · value) here) (classed value)
    | object other key declared =>
      obtain rfl : other = schemaClass := Key.named.inj here
      obtain ⟨body, _, _, rfl⟩ := of_file_object run
      have level : [.named other, key].length = [Key.named other, name].length := rfl
      rw [Leaf.place, named, if_neg Bool.false_ne_true, Path.get?_put (List.cons_ne_nil _ _) level]
      by_cases same : key = name
      · subst same
        simp
      · simp [same]
    | shapeless => cases run
  · rw [Path.get?_cons_object, file_other run here, ← Path.get?_cons_object]
    refine (or_iff_left ?_).symm
    rintro ⟨declared, rfl⟩
    exact here rfl

/-- The objects that a class with names has are those that are declared, wherever they are. -/
theorem run_named {schemaClass : String} (named : flattener.catalog.isNameless schemaClass = false) {leaves : List Leaf}
    (classed : ∀ value, .loose schemaClass value ∉ leaves) {flat final : Fields}
    (run : leaves.foldlM (flattener.file root) flat = .ok final) (name : Key) :
    (Path.get? [.named schemaClass, name] (.object final)).isSome = true ↔
      (Path.get? [.named schemaClass, name] (.object flat)).isSome = true ∨
        ∃ declared, .object schemaClass name declared ∈ leaves := by
  induction leaves generalizing flat with
  | nil =>
    cases run
    simp
  | cons leaf rest ih =>
    rw [List.foldlM_cons] at run
    obtain ⟨next, here, later⟩ := Result.bind_eq_ok.mp run
    have first : ∀ value, leaf ≠ .loose schemaClass value := fun value same =>
      classed value (same ▸ List.mem_cons_self ..)
    rw [ih (fun value member => classed value (List.mem_cons_of_mem _ member)) later,
      file_named named first here, or_assoc]
    simp only [List.mem_cons, exists_or, eq_comm]

theorem file_takes {schemaClass : String} {leaf : Leaf} (classed : ∀ value, leaf ≠ .loose schemaClass value)
    {flat next : Fields} (run : flattener.file root flat leaf = .ok next) (takes : Takes flat schemaClass) :
    Takes next schemaClass := by
  intro value found
  by_cases here : leaf.top = schemaClass
  · cases leaf with
    | loose key value =>
      obtain rfl : key = .named schemaClass := here
      exact absurd rfl (classed value)
    | object other key declared =>
      obtain rfl : other = schemaClass := Key.named.inj here
      obtain ⟨body, _, _, rfl⟩ := of_file_object run
      rw [Leaf.place] at found
      split at found
      next =>
        rw [Path.put, Assoc.get?_put_self] at found
        cases found
        rfl
      next =>
        rw [Path.put, Assoc.get?_put_self] at found
        cases found
        rfl
    | shapeless => cases run
  · rw [file_other run here] at found
    exact takes value found

theorem run_takes {schemaClass : String} {leaves : List Leaf} (classed : ∀ value, .loose schemaClass value ∉ leaves)
    {flat final : Fields} (run : leaves.foldlM (flattener.file root) flat = .ok final) (takes : Takes flat schemaClass) :
    Takes final schemaClass :=
  Result.foldlM_keeps (Takes · schemaClass)
    (fun _ member _ _ takes step => file_takes (fun value same => classed value (same ▸ member)) step takes) takes run

/-- A class with names of which something is declared has exactly the declared objects in the end. -/
theorem run_declared {schemaClass : String} (named : flattener.catalog.isNameless schemaClass = false)
    {leaves : List Leaf} (classed : ∀ value, .loose schemaClass value ∉ leaves) {final : Fields}
    (run : leaves.foldlM (flattener.file root) [] = .ok final) {key : Key} {declared : Fields}
    (member : .object schemaClass key declared ∈ leaves) :
    ∃ objects, Assoc.get? final schemaClass = some (.object objects) ∧ objects ≠ [] ∧
      ∀ name, Assoc.has objects name = true ↔ ∃ declared, .object schemaClass name declared ∈ leaves := by
  have names (name : Key) : (Path.get? [.named schemaClass, name] (.object final)).isSome = true ↔
      ∃ declared, .object schemaClass name declared ∈ leaves := by
    rw [run_named named classed run name, or_iff_right]
    simp [Path.get?, Value.get?]
  have some := (names key).mpr ⟨declared, member⟩
  rw [Path.get?_pair] at some
  cases found : Assoc.get? final (.named schemaClass) with
  | none =>
    rw [found] at some
    cases some
  | some value =>
    cases value with
    | object objects =>
      refine ⟨objects, rfl, ?_, fun name => ?_⟩
      · rintro rfl
        rw [found] at some
        cases some
      · rw [← names name, Path.get?_pair, found, Assoc.has_eq_isSome]
        rfl
    | _ => cases run_takes classed run (takes_nil schemaClass) _ found

theorem run_undeclared {schemaClass : String} {leaves : List Leaf} (classed : ∀ value, .loose schemaClass value ∉ leaves)
    (undeclared : ∀ key declared, .object schemaClass key declared ∉ leaves) {final : Fields}
    (run : leaves.foldlM (flattener.file root) [] = .ok final) : Assoc.get? final schemaClass = none := by
  refine Result.foldlM_keeps (fun flat => Assoc.get? flat (.named schemaClass) = none) ?_ rfl run
  intro leaf member flat next absent step
  by_cases here : leaf.top = schemaClass
  · cases leaf with
    | loose key value =>
      obtain rfl : key = .named schemaClass := here
      exact absurd member (classed value)
    | object other key declared =>
      obtain rfl : other = schemaClass := Key.named.inj here
      exact absurd member (undeclared key declared)
    | shapeless => cases step
  · rw [file_other step here, absent]

theorem flattenTenants_cons (flattener : Flattener) (declaration : Fields) (tenant : Key) (rest : List Key) :
    flattener.flattenTenants declaration (tenant :: rest) =
      (Leaf.ofTenant (.object declaration) tenant).foldlM (flattener.file (.object declaration)) [] >>= fun flat =>
        flattener.flattenTenants declaration rest >>= fun others => .ok ((tenant, .object flat) :: others) := by
  rw [flattenTenants, Leaf.ofTenant, Value.get?]
  cases Assoc.get? declaration tenant with
  | none => rfl
  | some value =>
    cases value with
    | object members =>
      dsimp only
      rw [flattenMembers_eq]
      rfl
    | _ => rfl

theorem objects_flattenTenants {declaration : Fields} {tenants : List Key} {body : Fields}
    (run : flattener.flattenTenants declaration tenants = .ok body) : ∀ entry ∈ body, entry.2.isObject = true := by
  induction tenants generalizing body with
  | nil =>
    cases run
    exact fun _ member => (List.not_mem_nil member).elim
  | cons head rest ih =>
    rw [flattenTenants_cons] at run
    obtain ⟨first, _, run⟩ := Result.bind_eq_ok.mp run
    obtain ⟨others, later, done⟩ := Result.bind_eq_ok.mp run
    cases done
    exact List.forall_mem_cons.mpr ⟨rfl, ih later⟩

theorem get?_flattenTenants {declaration : Fields} {tenants : List Key} {body : Fields}
    (run : flattener.flattenTenants declaration tenants = .ok body) {tenant : Key} (among : tenant ∈ tenants) :
    ∃ flat, (Leaf.ofTenant (.object declaration) tenant).foldlM (flattener.file (.object declaration)) [] = .ok flat ∧
      Assoc.get? body tenant = some (.object flat) := by
  induction tenants generalizing body with
  | nil => cases among
  | cons head rest ih =>
    rw [flattenTenants_cons] at run
    obtain ⟨first, here, run⟩ := Result.bind_eq_ok.mp run
    obtain ⟨others, later, done⟩ := Result.bind_eq_ok.mp run
    cases done
    by_cases same : head = tenant
    · subst same
      exact ⟨first, here, by rw [Assoc.get?, if_pos rfl]⟩
    · rw [Assoc.get?, if_neg same]
      exact ih later (List.mem_of_ne_of_mem (Ne.symm same) among)

end Flattener

end Reconcile
