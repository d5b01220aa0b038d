import Reconcile.Observation.Read
import Reconcile.Proofs.Declaration.Flattening
import Reconcile.Proofs.Mapping.Agreement
import Reconcile.Proofs.Observation.Evolution

/-!
Reading a device, one looks at the surface of the common tenant only; flattening opens its groups as well. On what is
declared outside of groups the two agree.
-/

namespace Reconcile

open Result

namespace Leaf

def isGroup : Value → Bool
  | .object fields => (Fields.lookup fields "class").isNull
  | _ => false

def standing (members : Fields) : List Leaf :=
  ofMembers (members.filter fun entry => !isGroup entry.2)

def grouped (members : Fields) : List Leaf :=
  ofMembers (members.filter fun entry => isGroup entry.2)

theorem mem_ofMembers {leaf : Leaf} {members : Fields} :
    leaf ∈ ofMembers members ↔ ∃ entry ∈ members, leaf ∈ ofMember entry.1 entry.2 := by
  induction members with
  | nil => simp [ofMembers]
  | cons entry rest ih => simp [ofMembers, ih]

theorem mem_ofMembers_iff {leaf : Leaf} {members : Fields} :
    leaf ∈ ofMembers members ↔ leaf ∈ standing members ∨ leaf ∈ grouped members := by
  simp only [standing, grouped, mem_ofMembers, List.mem_filter, ← exists_or]
  refine exists_congr fun entry => ?_
  cases isGroup entry.2 <;> simp

theorem object_mem_standing {members : Fields} {schemaClass : String} {key : Key} {declared : Fields} :
    .object schemaClass key declared ∈ standing members ↔
      (key, .object declared) ∈ members ∧ key ≠ .named "class" ∧
        Fields.lookup declared "class" = .text schemaClass := by
  rw [standing, mem_ofMembers]
  constructor
  · rintro ⟨⟨name, value⟩, member, leaf⟩
    obtain ⟨member, single⟩ := List.mem_filter.mp member
    cases value with
    | object fields =>
      rw [ofMember] at leaf
      split at leaf
      next => cases leaf
      next other =>
        rw [isGroup] at single
        split at leaf
        next nothing => simp [nothing, Value.isNull] at single
        next other' spelt =>
          cases List.mem_singleton.mp leaf
          exact ⟨member, other, spelt⟩
        next => cases List.mem_singleton.mp leaf
    | _ =>
      rw [ofMember] at leaf
      · split at leaf
        next => cases leaf
        next => cases List.mem_singleton.mp leaf
      all_goals simp
  · rintro ⟨member, other, spelt⟩
    refine ⟨_, List.mem_filter.mpr ⟨member, by simp [isGroup, spelt, Value.isNull]⟩, ?_⟩
    rw [ofMember, if_neg other, spelt]
    exact List.mem_singleton_self _

mutual

theorem isObject_of_loose_member {key : Key} {content : Value} (name : Key) :
    ∀ value, .loose key content ∈ ofMember name value → content.isObject = false
  | .object fields, leaf => by
    rw [ofMember] at leaf
    split at leaf
    next => cases leaf
    next =>
      split at leaf
      next => exact isObject_of_loose fields leaf
      next => cases List.mem_singleton.mp leaf
      next => cases List.mem_singleton.mp leaf
  | .null, leaf | .bool _, leaf | .int _, leaf | .real _, leaf | .text _, leaf | .list _, leaf => by
    rw [ofMember] at leaf
    · split at leaf
      next => cases leaf
      next =>
        cases List.mem_singleton.mp leaf
        rfl
    all_goals simp

theorem isObject_of_loose {key : Key} {content : Value} :
    ∀ members, .loose key content ∈ ofMembers members → content.isObject = false
  | [], leaf => nomatch leaf
  | (name, value) :: rest, leaf => by
    rcases List.mem_append.mp leaf with here | later
    · exact isObject_of_loose_member name value here
    · exact isObject_of_loose rest later

end

end Leaf

theorem Declaration.keys_resolveFields {root : Value} {fields resolved : Fields}
    (run : resolveFields root fields = .ok resolved) : Assoc.keys resolved = Assoc.keys fields := by
  induction fields generalizing resolved with
  | nil =>
    cases run
    rfl
  | cons entry rest ih =>
    obtain ⟨key, value⟩ := entry
    rw [resolveFields] at run
    obtain ⟨first, _, run⟩ := bind_eq_ok.mp run
    obtain ⟨others, later, done⟩ := bind_eq_ok.mp run
    cases done
    rw [Assoc.keys_cons, Assoc.keys_cons, ih later]

/-- A declaration is read for the objects of its common tenant that stand in no group. -/
theorem Gatherer.declares_iff {declaration : Value} {members : Fields}
    (common : declaration.get? "Common" = some (.object members)) (tenant : Fields.lookup members "class" = .text "Tenant")
    (unique : (Assoc.keys members).Nodup) (schemaClass : String) :
    declares declaration schemaClass = true ↔
      ∃ key declared, .object schemaClass key declared ∈ Leaf.standing members := by
  simp only [declares, common, List.any_eq_true, Leaf.object_mem_standing]
  constructor
  · rintro ⟨⟨key, value⟩, member, spells⟩
    cases value with
    | object declared =>
      refine ⟨key, declared, member, ?_, Widening.eq_text_of_spells spells⟩
      rintro rfl
      rw [Fields.lookup, Assoc.get?_of_mem unique member] at tenant
      cases tenant
    | _ => cases spells
  · rintro ⟨key, declared, member, _, spelt⟩
    refine ⟨_, member, ?_⟩
    change (Fields.lookup declared "class").spells schemaClass = true
    rw [spelt, Value.spells]
    exact beq_self_eq_true _

/-- Variables are filed together, each under the name it is declared with. -/
structure Catalog.FilesVariables (catalog : Catalog) : Prop where
  nameless : catalog.isNameless "DbVariables" = true
  kept : ∀ {item filed renamed}, catalog.renameObject "DbVariables" item filed = .ok renamed →
    ∀ key, Assoc.has renamed key = Assoc.has item key

theorem Catalog.packaged_filesVariables : Catalog.packaged.FilesVariables where
  nameless := by decide +kernel
  kept := by
    intro item filed renamed run key
    have describes : Catalog.packaged.Describes "DbVariables" Packaged.dbVariables :=
      ⟨rfl, rfl, rfl⟩
    obtain ⟨naming, same⟩ := describes.renameObject_eq (by decide) item filed
    rw [same] at run
    cases run
    have separate : PropertyRule.Separate Packaged.dbVariables.properties := by decide
    have reversible : ∀ rule ∈ Packaged.dbVariables.properties, rule.Reversible := by decide
    have nothing : PropertyRule.newIds Packaged.dbVariables.properties = [] := rfl
    rw [Assoc.has_eq_isSome, Assoc.has_eq_isSome, PropertyRule.get?_settled separate reversible,
      nothing, if_neg fun ⟨_, member, _⟩ => List.not_mem_nil member]
    by_cases here : key = .named "value"
    · have among : PropertyRule.plain "value" ∈ Packaged.dbVariables.properties := List.mem_singleton_self _
      have place : (PropertyRule.plain "value").declaredPath = [.named "value"] := Path.ofDotted_undotted (by decide)
      have found : Assoc.get? (PropertyRule.takeOverAll Packaged.dbVariables.properties naming item).1
          (.named (PropertyRule.plain "value").id) = _ :=
        PropertyRule.get?_takeOverAll separate reversible item among
      rw [place, Path.get?_singleton] at found
      subst here
      refine (congrArg Option.isSome found).trans ?_
      change (((PropertyRule.plain "value").returned? (Assoc.get? item (.named "value"))).or
        (Assoc.get? item (.named "value"))).isSome = _
      cases Assoc.get? item (.named "value") with
      | none => rfl
      | some value => rw [Option.isSome_or, Option.isSome_some, Bool.or_true]
    · rw [PropertyRule.get?_takeOverAll_other reversible item]
      intro rule member
      cases List.mem_singleton.mp member
      exact here

namespace Flattener

variable {flattener : Flattener} {root : Value}

theorem file_filed {schemaClass : String} {leaf : Leaf} (classed : ∀ value, leaf ≠ .loose schemaClass value)
    {flat next : Fields} (run : flattener.file root flat leaf = .ok next) :
    (Assoc.get? next schemaClass).isSome = true ↔
      (Assoc.get? flat schemaClass).isSome = true ∨ ∃ key declared, leaf = .object schemaClass key declared := by
  by_cases here : leaf.top = schemaClass
  · cases leaf with
    | loose key value => exact absurd (congrArg (Leaf.loose · value) here) (classed value)
    | object other key declared =>
      obtain rfl : other = schemaClass := Key.named.inj here
      obtain ⟨body, _, _, rfl⟩ := of_file_object run
      refine ⟨fun _ => .inr ⟨key, declared, rfl⟩, fun _ => ?_⟩
      rw [Leaf.place]
      split <;> rw [Path.put, Assoc.get?_put_self] <;> rfl
    | shapeless => cases run
  · rw [file_other run here]
    refine (or_iff_left ?_).symm
    rintro ⟨key, declared, rfl⟩
    exact here rfl

/-- The flat form has the classes of which an object is declared, wherever it stands. -/
theorem run_filed {schemaClass : String} {leaves : List Leaf} (classed : ∀ value, .loose schemaClass value ∉ leaves)
    {flat final : Fields} (run : leaves.foldlM (flattener.file root) flat = .ok final) :
    (Assoc.get? final schemaClass).isSome = true ↔
      (Assoc.get? flat schemaClass).isSome = true ∨ ∃ key declared, .object schemaClass key declared ∈ leaves := by
  induction leaves generalizing flat with
  | nil =>
    cases run
    simp
  | cons leaf rest ih =>
    rw [List.foldlM_cons] at run
    obtain ⟨next, here, later⟩ := bind_eq_ok.mp run
    have first : ∀ value, leaf ≠ .loose schemaClass value := fun value same =>
      classed value (same ▸ List.mem_cons_self ..)
    rw [ih (fun value member => classed value (List.mem_cons_of_mem _ member)) later, file_filed first here, or_assoc]
    simp only [List.mem_cons, exists_or, eq_comm]

def Sets (name : Key) (leaf : Leaf) : Prop :=
  ∃ key declared, leaf = .object "DbVariables" key declared ∧ name ≠ .named "class" ∧ Assoc.has declared name = true

theorem has_body (files : flattener.catalog.FilesVariables) {key : Key} {declared body : Fields}
    (made : flattener.body root "DbVariables" key declared = .ok body) (name : Key) :
    Assoc.has body name = Assoc.has (Assoc.erase declared "class") name := by
  rw [Flattener.body] at made
  obtain ⟨resolved, run, made⟩ := bind_eq_ok.mp made
  rw [if_pos files.nameless, withDefaults, if_neg (by decide)] at made
  rw [files.kept made, Bool.eq_iff_iff, Assoc.has_eq_isSome, Assoc.has_eq_isSome, ← Assoc.mem_keys_iff,
    ← Assoc.mem_keys_iff, Declaration.keys_resolveFields run]

theorem file_sets (files : flattener.catalog.FilesVariables) {leaf : Leaf}
    (plain : ∀ key value, leaf = .loose key value → value.isObject = false) {flat next : Fields}
    (run : flattener.file root flat leaf = .ok next) {name : Key}
    (stored : Assoc.has (Path.inner next "DbVariables") name = true) :
    Assoc.has (Path.inner flat "DbVariables") name = true ∨ Sets name leaf := by
  by_cases here : leaf.top = .named "DbVariables"
  · cases leaf with
    | loose key value =>
      obtain rfl : key = .named "DbVariables" := here
      cases run
      rw [Path.inner_eq_inside, Assoc.get?_put_self] at stored
      have shape := plain _ _ rfl
      cases value <;> cases shape <;> cases stored
    | object other key declared =>
      obtain rfl : other = "DbVariables" := Key.named.inj here
      obtain ⟨body, made, _, rfl⟩ := of_file_object run
      rw [Leaf.place, if_pos files.nameless, Path.put, Path.inner_eq_inside, Assoc.get?_put_self, content,
        if_pos files.nameless] at stored
      change Assoc.has (Assoc.putAll (Path.inner flat (.named "DbVariables")) body) name = true at stored
      rw [Assoc.has_putAll, has_body files made, Bool.or_eq_true, Assoc.has_eq_isSome, Assoc.get?_erase] at stored
      rcases stored with here | before
      · split at here
        next => cases here
        next other => exact .inr ⟨key, declared, rfl, Ne.symm other, here⟩
      · exact .inl before
    | shapeless => cases run
  · rw [Path.inner_eq_inside, file_other run here, ← Path.inner_eq_inside] at stored
    exact .inl stored

/-- All variables in the flat form of a tenant are declared by one of its leaves. -/
theorem run_sets (files : flattener.catalog.FilesVariables) {members final : Fields}
    (run : (Leaf.ofMembers members).foldlM (flattener.file root) [] = .ok final) {name : Key}
    (stored : Assoc.has (Path.inner final "DbVariables") name = true) :
    ∃ leaf ∈ Leaf.ofMembers members, Sets name leaf := by
  have empty : Assoc.has (Path.inner [] (.named "DbVariables")) name = false := rfl
  refine Result.foldlM_keeps (fun flat => Assoc.has (Path.inner flat "DbVariables") name = true →
    ∃ leaf ∈ Leaf.ofMembers members, Sets name leaf) (fun leaf member flat next known step there => ?_)
    (fun there => ?_) run stored
  · have plain : ∀ key value, leaf = .loose key value → value.isObject = false := by
      rintro key value rfl
      exact Leaf.isObject_of_loose members member
    rcases file_sets files plain step there with before | sets
    · exact known before
    · exact ⟨leaf, member, sets⟩
  · rw [empty] at there
    cases there

end Flattener

theorem DeviceReader.mem_declaredVariables {declaration : Value} {members : Fields}
    (common : declaration.get? "Common" = some (.object members)) :
    ∃ names, declaredVariables declaration = .ok names ∧
      ∀ leaf ∈ Leaf.standing members, ∀ name, Flattener.Sets name leaf → name ∈ names := by
  cases declaration with
  | object fields =>
    have found : Fields.lookup fields "Common" = .object members := by
      rw [Fields.lookup, show Assoc.get? fields "Common" = _ from common]
      rfl
    have taken : ((Value.object members).orElse .empty).fieldsOrFail = .ok members := by cases members <;> rfl
    refine ⟨_, by rw [declaredVariables, found, taken]; rfl, ?_⟩
    rintro leaf standing name ⟨key, declared, rfl, other, has⟩
    obtain ⟨member, _, spelt⟩ := Leaf.object_mem_standing.mp standing
    refine List.mem_flatMap.mpr ⟨_, member, ?_⟩
    dsimp only
    rw [spelt, if_pos (show Value.spells (.text "DbVariables") "DbVariables" = true from by decide)]
    rw [Assoc.has_eq_isSome, ← Assoc.mem_keys_iff] at has
    exact List.mem_filter.mpr ⟨has, by simpa using other⟩
  | _ => cases common

theorem Flattener.common_of_flatten {flattener : Flattener} {declaration : Value} {task : Option String} {log : Log}
    {flat : FlatDeclaration} (run : (flattener.flatten task declaration log).1 = .ok flat)
    (proper : declaration.isProper = true) (tenant : .named "Common" ∈ flat.tenants) :
    ∃ members kept, declaration.get? "Common" = some (.object members) ∧
      Assoc.get? flat.body "Common" = some (.object kept) ∧ (Assoc.keys members).Nodup ∧
      Fields.lookup members "class" = .text "Tenant" ∧
      (Leaf.ofMembers members).foldlM (flattener.file declaration) [] = .ok kept := by
  rw [flattener.yields_flatten task declaration log] at run
  cases declaration with
  | object fields =>
    obtain ⟨body, flattened, done⟩ := bind_eq_ok.mp run
    cases done
    obtain ⟨kept, filed, placed⟩ := get?_flattenTenants flattened tenant
    obtain ⟨⟨_, value⟩, among, rfl⟩ := List.mem_map.mp tenant
    obtain ⟨member, classed⟩ := List.mem_filter.mp among
    have found := Assoc.get?_of_mem (Value.nodup_of_isProper proper) member
    cases value with
    | object members =>
      have spells := (Bool.and_eq_true_iff.mp classed).2
      have common : (Value.object fields).get? "Common" = some (.object members) := found
      rw [Leaf.ofTenant, common] at filed
      exact ⟨members, kept, common, placed, Value.nodup_of_isProper (Value.isProper_of_get? proper found),
        Widening.eq_text_of_spells spells, filed⟩
    | _ => simp at classed
  | _ => cases run

/-- A declaration that can be flattened is read for just the classes that its common tenant has in the flat form,
unless a class is only declared in groups, and for all the variables there, unless they are declared in groups. -/
theorem flatten_surface {flattener : Flattener} {declaration : Value} {task : Option String} {log : Log}
    {flat : FlatDeclaration} (run : (flattener.flatten task declaration log).1 = .ok flat)
    (proper : declaration.isProper = true) (tenant : .named "Common" ∈ flat.tenants) :
    ∃ members kept names, declaration.get? "Common" = some (.object members) ∧
      Assoc.get? flat.body "Common" = some (.object kept) ∧ DeviceReader.declaredVariables declaration = .ok names ∧
      (∀ schemaClass : String, Gatherer.declares declaration schemaClass = true ↔
        ∃ key declared, .object schemaClass key declared ∈ Leaf.standing members) ∧
      (∀ schemaClass : String, (∀ value, .loose (.named schemaClass) value ∉ Leaf.ofMembers members) →
        ((Assoc.get? kept schemaClass).isSome = true ↔ Gatherer.declares declaration schemaClass = true ∨
          ∃ key declared, .object schemaClass key declared ∈ Leaf.grouped members)) ∧
      (flattener.catalog.FilesVariables → ∀ name, Assoc.has (Path.inner kept "DbVariables") name = true →
        name ∈ names ∨ ∃ leaf ∈ Leaf.grouped members, Flattener.Sets name leaf) := by
  obtain ⟨members, kept, common, placed, unique, classed, filed⟩ := Flattener.common_of_flatten run proper tenant
  obtain ⟨names, known, listed⟩ := DeviceReader.mem_declaredVariables common
  have surface := Gatherer.declares_iff common classed unique
  refine ⟨members, kept, names, common, placed, known, surface, fun schemaClass free => ?_, fun files name stored => ?_⟩
  · rw [Flattener.run_filed free filed, surface]
    simp only [Leaf.mem_ofMembers_iff, exists_or]
    exact or_iff_right Bool.false_ne_true
  · obtain ⟨leaf, member, sets⟩ := Flattener.run_sets files filed stored
    rcases Leaf.mem_ofMembers_iff.mp member with standing | grouped
    · exact .inl (listed leaf standing name sets)
    · exact .inr ⟨leaf, grouped, sets⟩

theorem Flattener.flatten_variables {flattener : Flattener} (grounded : flattener.catalog.Grounded)
    (files : flattener.catalog.FilesVariables) {members declared : Fields} {key : Key}
    (classed : Fields.lookup members "class" = .text "Tenant")
    (leaves : Leaf.ofMembers members = [.object "DbVariables" key declared])
    (resolved : Succeeds (Declaration.resolveFields (.object [("class", .text "Device"), ("Common", .object members)])
      (Assoc.erase declared "class"))) (task : Option String) (log : Log) :
    ∃ kept, (flattener.flatten task (.object [("class", .text "Device"), ("Common", .object members)]) log).1 =
        .ok ⟨["Common"], [("Common", .object kept)]⟩ ∧
      ∀ name, name ≠ .named "class" → Assoc.has declared name = true →
        Assoc.has (Path.inner kept "DbVariables") name = true := by
  obtain ⟨body, made⟩ : Succeeds (flattener.body _ "DbVariables" key declared) :=
    body_succeeds grounded "DbVariables" key resolved
  have filed := file_object made (takes_nil "DbVariables")
  rw [Leaf.place, if_pos files.nameless, content, if_pos files.nameless] at filed
  refine ⟨Assoc.put [] (.named "DbVariables") (.object (Assoc.putAll [] body)), ?_, fun name other has => ?_⟩
  · have tenants : Declaration.tenants [("class", .text "Device"), ("Common", .object members)] = [.named "Common"] := by
      simp [Declaration.tenants, Declaration.ownKeys, classed, Value.spells]
    have common : Leaf.ofTenant (.object [("class", .text "Device"), ("Common", .object members)]) "Common" =
        [.object "DbVariables" key declared] := leaves
    rw [flattener.yields_flatten task _ log, flattened, tenants, flattenTenants_cons, common, List.foldlM_cons, filed]
    rfl
  · rw [Path.inner_eq_inside, Assoc.get?_put_self]
    change Assoc.has (Assoc.putAll [] body) name = true
    rw [Assoc.has_putAll, has_body files made, Assoc.has_eq_isSome, Assoc.get?_erase_of_ne (Ne.symm other),
      ← Assoc.has_eq_isSome, has]
    rfl

/-- A variable that is declared in no group is looked for. -/
theorem flatten_surface_variable :
    let members : Fields := [("class", .text "Tenant"), ("dbs", .object [("class", .text "DbVariables"), ("a", .text "1")])]
    let declaration : Value := .object [("class", .text "Device"), ("Common", .object members)]
    let flattener : Flattener := { catalog := .packaged }
    declaration.isProper = true ∧ ∃ flat names, (flattener.flatten none declaration []).1 = .ok flat ∧
      .named "Common" ∈ flat.tenants ∧ DeviceReader.declaredVariables declaration = .ok names ∧ .named "a" ∈ names := by
  intro members declaration flattener
  have proper : declaration.isProper = true := by decide +kernel
  have leaves : Leaf.ofMembers members =
      [.object "DbVariables" "dbs" [("class", .text "DbVariables"), ("a", .text "1")]] := rfl
  obtain ⟨kept, run, stored⟩ := @Flattener.flatten_variables flattener Catalog.packaged_grounded
    Catalog.packaged_filesVariables members _ _ rfl leaves ⟨_, rfl⟩ none []
  have tenant : .named "Common" ∈ [Key.named "Common"] := List.mem_singleton_self _
  obtain ⟨_, _, names, common, placed, known, _, _, listed⟩ := flatten_surface run proper tenant
  cases common
  cases placed
  rcases listed Catalog.packaged_filesVariables "a" (stored "a" (by decide) rfl) with member | ⟨leaf, grouped, _⟩
  · exact ⟨proper, _, names, run, tenant, known, member⟩
  · cases grouped

/-- A variable that is declared in a group is filed, but a read of the declaration does not look for it, nor does it
take the class to be declared. -/
theorem grouped_variable_overlooked :
    let members : Fields := [("class", .text "Tenant"),
      ("wrap", .object [("dbs", .object [("class", .text "DbVariables"), ("a", .text "1")])])]
    let declaration : Value := .object [("class", .text "Device"), ("Common", .object members)]
    ∃ kept, (Flattener.flatten { catalog := .packaged } none declaration []).1 =
        .ok ⟨["Common"], [("Common", .object kept)]⟩ ∧
      Assoc.has (Path.inner kept "DbVariables") "a" = true ∧
      DeviceReader.declaredVariables declaration = .ok [] ∧ Gatherer.declares declaration "DbVariables" = false := by
  intro members declaration
  have leaves : Leaf.ofMembers members =
      [.object "DbVariables" "dbs" [("class", .text "DbVariables"), ("a", .text "1")]] := rfl
  obtain ⟨kept, run, stored⟩ := @Flattener.flatten_variables { catalog := .packaged } Catalog.packaged_grounded
    Catalog.packaged_filesVariables members _ _ rfl leaves ⟨_, rfl⟩ none []
  exact ⟨kept, run, stored "a" (by decide) rfl, rfl, by decide⟩

end Reconcile
