import Reconcile.Proofs.Declaration.Substitution

/-!
What becomes of the pointers of a declaration when it is flattened: one that comes to a text stands for the text, one that
comes to none stands for itself, and one that comes to itself cannot be resolved.
-/

namespace Reconcile

open Result

/-- Whether a declaration has been found to make no sense. -/
def Fault.isParseFailure : Fault → Bool
  | .declarationShape | .classShape _ _ | .selfPointer _ => true
  | _ => false

namespace Flattener

open Declaration

variable {flattener : Flattener} {root : Value}

theorem resolves_of_flattenMembers {declared members flat final : Fields} {front : Place}
    (stands : Stands declared front members) (run : flattener.flattenMembers root flat members = .ok final) :
    Succeeds (resolveFields root (Assoc.erase declared "class")) := by
  induction stands generalizing flat final with
  | here member own classed =>
    rw [flattenMembers_eq_foldlM] at run
    obtain ⟨state, next, step⟩ := of_mem_foldlM run (Assoc.mem_of_get? member)
    rw [flattenMember, if_neg own, classed] at step
    obtain ⟨fields, resolved, _⟩ := bind_eq_ok.mp step
    exact ⟨fields, resolved⟩
  | grouped member own unclassed _ ih =>
    rw [flattenMembers_eq_foldlM] at run
    obtain ⟨state, next, step⟩ := of_mem_foldlM run (Assoc.mem_of_get? member)
    rw [flattenMember, if_neg own, unclassed] at step
    exact ih step

theorem resolves_of_flatten {declaration : Value} {declared : Fields} {front : Place}
    (declares : Declares declared front declaration) {task : Option String} {log : Log} {flat : FlatDeclaration}
    (run : (flattener.flatten task declaration log).1 = .ok flat) :
    Succeeds (resolveFields declaration (Assoc.erase declared "class")) := by
  rw [flattener.yields_flatten task declaration log] at run
  cases declares with
  | tenant among found stands =>
    obtain ⟨body, flattened, _⟩ := bind_eq_ok.mp run
    obtain ⟨kept, filed, _⟩ := get?_flattenTenants flattened among
    rw [ofTenant_eq found, ← flattenMembers_eq] at filed
    exact resolves_of_flattenMembers stands filed

theorem of_body_error {schemaClass : String} {key : Key} {declared : Fields} {fault : Fault}
    (failed : flattener.body root schemaClass key declared = .error fault) :
    resolveFields root (Assoc.erase declared "class") = .error fault ∨
      ∃ item filed, flattener.catalog.renameObject schemaClass item filed = .error fault := by
  unfold Flattener.body at failed
  cases resolved : resolveFields root (Assoc.erase declared "class") with
  | error cause =>
    rw [resolved] at failed
    exact .inl failed
  | ok fields =>
    rw [resolved, ok_bind] at failed
    refine .inr ?_
    split at failed
    next => exact ⟨_, _, failed⟩
    next => exact ⟨_, _, failed⟩

/-- Filing leaves fails on one that says something for its class that is none, or on an object that has no body, unless
there are loose values under the names of classes. -/
theorem run_error_of_free {leaves : List Leaf} {flat : Fields}
    (free : ∀ schemaClass key declared, .object schemaClass key declared ∈ leaves →
      Takes flat schemaClass ∧ ∀ value, .loose schemaClass value ∉ leaves)
    {fault : Fault} (failed : leaves.foldlM (flattener.file root) flat = .error fault) :
    (∃ key given, fault = .classShape key given) ∨ ∃ schemaClass key declared,
      .object schemaClass key declared ∈ leaves ∧ flattener.body root schemaClass key declared = .error fault := by
  induction leaves generalizing flat with
  | nil => cases failed
  | cons leaf rest ih =>
    rw [List.foldlM_cons] at failed
    cases here : flattener.file root flat leaf with
    | ok next =>
      rw [here] at failed
      refine (ih (fun schemaClass key declared among => ?_) failed).imp_right ?_
      · obtain ⟨takes, unobstructed⟩ := free schemaClass key declared (List.mem_cons_of_mem _ among)
        refine ⟨file_takes (fun value same => unobstructed value ?_) here takes, fun value among => ?_⟩
        · exact same ▸ List.mem_cons_self ..
        · exact unobstructed value (List.mem_cons_of_mem _ among)
      · rintro ⟨schemaClass, key, declared, among, failure⟩
        exact ⟨schemaClass, key, declared, List.mem_cons_of_mem _ among, failure⟩
    | error cause =>
      rw [here] at failed
      obtain rfl : cause = fault := Except.error.inj failed
      cases leaf with
      | loose => cases here
      | shapeless key given => exact .inl ⟨key, given, (Except.error.inj here).symm⟩
      | object schemaClass key declared =>
        refine .inr ⟨schemaClass, key, declared, List.mem_cons_self .., ?_⟩
        cases made : flattener.body root schemaClass key declared with
        | error fault =>
          rw [file, flattenObject_eq, made] at here
          exact here
        | ok body =>
          rw [file_object made (free schemaClass key declared (List.mem_cons_self ..)).1] at here
          cases here

theorem exists_of_flattenTenants_error {fields : Fields} {tenants : List Key} {fault : Fault}
    (failed : flattener.flattenTenants fields tenants = .error fault) : ∃ tenant ∈ tenants,
      (Leaf.ofTenant (.object fields) tenant).foldlM (flattener.file (.object fields)) [] = .error fault := by
  induction tenants with
  | nil => cases failed
  | cons tenant rest ih =>
    rw [flattenTenants_cons] at failed
    cases here : (Leaf.ofTenant (.object fields) tenant).foldlM (flattener.file (.object fields)) [] with
    | error cause =>
      rw [here] at failed
      obtain rfl : cause = fault := Except.error.inj failed
      exact ⟨tenant, List.mem_cons_self .., here⟩
    | ok flat =>
      rw [here, ok_bind] at failed
      cases later : flattener.flattenTenants fields rest with
      | error cause =>
        rw [later] at failed
        obtain rfl : cause = fault := Except.error.inj failed
        obtain ⟨other, among, failed⟩ := ih later
        exact ⟨other, List.mem_cons_of_mem _ among, failed⟩
      | ok others =>
        rw [later] at failed
        cases failed

theorem of_resolveFields_error {fields : Fields} (proper : (Value.object fields).isProper = true) {tenant : Key}
    (among : tenant ∈ tenants fields) {schemaClass : String} {key : Key} {declared : Fields}
    (leaf : .object schemaClass key declared ∈ Leaf.ofTenant (.object fields) tenant) {fault : Fault}
    (failed : resolveFields (.object fields) (Assoc.erase declared "class") = .error fault) :
    fault.isParseFailure = true ∨ fault = .unreadableText ∧ Misled (.object fields) := by
  cases found : Assoc.get? fields tenant with
  | none =>
    rw [Leaf.ofTenant, Value.get?, found] at leaf
    cases leaf
  | some value =>
    cases value with
    | object members =>
      rw [ofTenant_eq found] at leaf
      obtain ⟨front, stands⟩ := exists_stands (Value.isProper_of_get? proper found) leaf
      have declares : Declares declared (.key tenant :: front) (.object fields) := .tenant among found stands
      have properDeclared : (Value.object declared).isProper = true :=
        Value.isProper_of_at? proper declares.at?
      have failed : resolveTexts (.object fields) (.object (Assoc.erase declared "class")) = .error fault := by
        rw [resolveTexts, failed]
        rfl
      obtain ⟨inner, pointer, text, failed⟩ := resolveTexts_error (Value.isProper_filter properDeclared _) failed
      obtain ⟨unmarked, leaf⟩ := at?_erase text
      obtain ⟨slash, ⟨rfl, strays⟩ | rfl⟩ := resolveText_error failed
      · exact .inr ⟨rfl, _, declared, inner, pointer, ⟨declares, unmarked, leaf, slash⟩, strays⟩
      · exact .inl rfl
    | _ =>
      rw [Leaf.ofTenant, Value.get?, found] at leaf
      cases leaf

theorem of_flatten_error {declaration : Value} (proper : declaration.isProper = true) {task : Option String} {log : Log}
    {fault : Fault} (failed : (flattener.flatten task declaration log).1 = .error fault) :
    fault.isParseFailure = true ∨ fault = .unreadableText ∧ Misled declaration ∨ Obstructed declaration ∨
      ∃ schemaClass item filed, flattener.catalog.renameObject schemaClass item filed = .error fault := by
  rw [flattener.yields_flatten task declaration log] at failed
  cases declaration with
  | object fields =>
    by_cases obstructed : Obstructed (.object fields)
    · exact .inr (.inr (.inl obstructed))
    · cases flat : flattener.flattenTenants fields (tenants fields) with
      | ok body =>
        rw [flattened, flat] at failed
        cases failed
      | error cause =>
        rw [flattened, flat] at failed
        obtain rfl : cause = fault := Except.error.inj failed
        obtain ⟨tenant, among, failed⟩ := exists_of_flattenTenants_error flat
        have free : ∀ schemaClass key declared, .object schemaClass key declared ∈ Leaf.ofTenant (.object fields) tenant →
            Takes [] schemaClass ∧ ∀ value, .loose schemaClass value ∉ Leaf.ofTenant (.object fields) tenant := by
          intro schemaClass key declared object
          refine ⟨takes_nil schemaClass, fun value loose => obstructed ?_⟩
          exact ⟨tenant, among, schemaClass, key, declared, value, object, loose⟩
        rcases run_error_of_free free failed with ⟨key, given, rfl⟩ | ⟨schemaClass, key, declared, leaf, failed⟩
        · exact .inl rfl
        · rcases of_body_error failed with failed | ⟨item, filed, failed⟩
          · exact (of_resolveFields_error proper among leaf failed).imp_right .inl
          · exact .inr (.inr (.inr ⟨schemaClass, item, filed, failed⟩))
  | _ =>
    obtain rfl := Except.error.inj failed
    exact .inl rfl

/-- In a declaration, a pointer in an object can be replaced by the text that it comes to, if that is no pointer and no
other pointer leads to its place: flattening comes to the same. A pointer that comes to no text is kept as it is. One
that strays, or that comes to itself, makes flattening fail: as a parse failure, unless some pointer strays, a class is
obstructed by a loose value or the catalog cannot rename an object. -/
theorem flatten_pointers (flattener : Flattener) {declaration : Value} (proper : declaration.isProper = true)
    {front inner : Place} {declared : Fields} {pointer : String} (points : Points declaration front declared inner pointer)
    (task : Option String) (log : Log) :
    (∀ target, Pointer.resolve declaration pointer = .ok (.text target) → Text.startsWith "/" target = false →
        Unshared declaration (front ++ inner) →
          flattener.flatten task (Value.replace (front ++ inner) (.text target) declaration) log =
            flattener.flatten task declaration log) ∧
      (∀ found flat, Pointer.resolve declaration pointer = .ok found → found.isText = false →
        (flattener.flatten task declaration log).1 = .ok flat →
          ∃ fields, resolveFields declaration (Assoc.erase declared "class") = .ok fields ∧
            Value.at? inner (.object fields) = some (.text pointer)) ∧
      (Pointer.Strays declaration pointer ∨ ∃ found, Pointer.resolve declaration pointer = .ok found) ∧
      (Pointer.Strays declaration pointer ∨ Pointer.resolve declaration pointer = .ok (.text pointer) →
        ∃ fault, (flattener.flatten task declaration log).1 = .error fault ∧
          (fault.isParseFailure = true ∨ fault = .unreadableText ∧ Misled declaration ∨ Obstructed declaration ∨
            ∃ schemaClass item filed, flattener.catalog.renameObject schemaClass item filed = .error fault)) := by
  have outcome := Pointer.resolve_failsWhen declaration pointer
  have text := at?_erase_of_unmarked points.unmarked points.leaf
  -- In a declaration that is flattened the pointer has been resolved, and what it stands for is in its place.
  have resolves {flat : FlatDeclaration} (run : (flattener.flatten task declaration log).1 = .ok flat) :
      ∃ fields found, resolveFields declaration (Assoc.erase declared "class") = .ok fields ∧
        resolveText declaration pointer = .ok found ∧ Value.at? inner (.object fields) = some found := by
    obtain ⟨fields, resolved⟩ := resolves_of_flatten points.declares run
    have whole : resolveTexts declaration (.object (Assoc.erase declared "class")) = .ok (.object fields) := by
      rw [resolveTexts, resolved]
      rfl
    obtain ⟨found, stands, there⟩ := at?_resolveTexts whole text
    exact ⟨fields, found, resolved, stands, there⟩
  refine ⟨fun target resolved plain unshared => ?_, fun found flat resolved mute run => ?_, ?_, fun wrong => ?_⟩
  · rw [flatten_replace proper points resolved plain unshared task]
  · obtain ⟨fields, kept, whole, stands, there⟩ := resolves run
    have silent : found.text? = none := by cases found <;> first | rfl | cases mute
    rw [resolveText_of_ok points.slash resolved, silent, if_neg nofun] at stands
    exact ⟨fields, whole, there.trans (congrArg some (Except.ok.inj stands).symm)⟩
  · by_cases strays : Pointer.Strays declaration pointer
    · exact .inl strays
    · exact .inr (outcome.succeeds strays)
  · cases run : (flattener.flatten task declaration log).1 with
    | error fault => exact ⟨fault, rfl, of_flatten_error proper run⟩
    | ok flat =>
      obtain ⟨_, _, _, stands, _⟩ := resolves run
      rcases wrong with strays | own
      · rw [resolveText_of_error points.slash (outcome.fails strays)] at stands
        cases stands
      · rw [resolveText_of_ok points.slash own, Value.text?, if_pos rfl] at stands
        cases stands

/-- A self IP whose VLAN is given by a pointer to a host name is flattened as if it were given by the name. -/
theorem flatten_pointers_vlan :
    let declared (vlan : String) : Fields := [("class", .text "SelfIp"), ("vlan", .text vlan)]
    let declaration (vlan : String) : Value := .object [("class", .text "Device"), ("Common", .object [
      ("class", .text "Tenant"), ("net", .text "internal"), ("inner", .object (declared vlan))])]
    let flattener : Flattener := { catalog := .packaged }
    (declaration "/Common/net").isProper = true ∧
      Points (declaration "/Common/net") [.key "Common", .key "inner"] (declared "/Common/net") [.key "vlan"] "/Common/net" ∧
      Unshared (declaration "/Common/net") [.key "Common", .key "inner", .key "vlan"] ∧
      flattener.flatten none (declaration "internal") [] = flattener.flatten none (declaration "/Common/net") [] := by
  intro declared declaration flattener
  have proper : (declaration "/Common/net").isProper = true := by decide +kernel
  have points : Points (declaration "/Common/net") [.key "Common", .key "inner"] (declared "/Common/net") [.key "vlan"]
      "/Common/net" := by
    refine ⟨.tenant ?_ rfl (.here rfl ?_ rfl), ?_, rfl, ?_⟩
    · exact List.mem_singleton_self _
    · decide
    · decide
    · decide
  have unshared : Unshared (declaration "/Common/net") [.key "Common", .key "inner", .key "vlan"] := by
    intro outer held within content other apart shared
    have there := other.at?
    have slash := other.slash
    -- There is no other text that begins with a slash, and this one leads to the name.
    have only : content = "/Common/net" := by
      have plain {place : Place} {other : String} (begins : Text.startsWith "/" other = false)
          (there : Value.at? place (.text other) = some (.text content)) : content = "/Common/net" := by
        rw [Value.eq_of_at?_text there, begins] at slash
        cases slash
      obtain ⟨_, _, _, member, _, there⟩ := Value.exists_of_at? there
      rcases member with _ | ⟨_, _ | ⟨_, ⟨⟩⟩⟩
      · exact plain (by decide) there
      obtain ⟨_, _, _, member, _, there⟩ := Value.exists_of_at? there
      rcases member with _ | ⟨_, _ | ⟨_, _ | ⟨_, ⟨⟩⟩⟩⟩
      · exact plain (by decide) there
      · exact plain (by decide) there
      obtain ⟨_, _, _, member, _, there⟩ := Value.exists_of_at? there
      rcases member with _ | ⟨_, _ | ⟨_, ⟨⟩⟩⟩
      · exact plain (by decide) there
      · exact Value.eq_of_at?_text there
    have leads : Pointer.place? (declaration "/Common/net") content = some [.key "Common", .key "net"] := by
      rw [only]
      rfl
    rw [leads] at shared
    exact absurd (Option.some.inj shared) (by decide)
  have resolved : Pointer.resolve (declaration "/Common/net") "/Common/net" = .ok (.text "internal") := by rfl
  have plain : Text.startsWith "/" "internal" = false := by decide
  obtain ⟨replaced, _⟩ := flatten_pointers flattener proper points none []
  exact ⟨proper, points, unshared, replaced "internal" resolved plain unshared⟩

/-- A raised two passes for a digit and is none. A pointer with it into a list leads nowhere, but it is not kept: nothing is
parsed, and the failure is not that of a declaration that makes no sense. -/
theorem raised_digit_not_kept :
    let members : Fields := [
      ("class", .text "Tenant"), ("inner", .object [("class", .text "SelfIp"), ("vlan", .text "/Common/wire/interfaces/²")]),
      ("wire", .object [("class", .text "VLAN"), ("interfaces", .list [.object [("name", .text "1.1")]])])]
    let declaration : Value := .object [("class", .text "Device"), ("Common", .object members)]
    Pointer.place? declaration "/Common/wire/interfaces/²" = none ∧
      (Flattener.flatten { catalog := .packaged } none declaration []).1 = .error .unreadableText ∧
      Fault.unreadableText.isParseFailure = false := by
  refine ⟨?_, ?_, rfl⟩
  · rfl
  · rfl

end Flattener

end Reconcile
