import Reconcile.Proofs.Declaration.Standing

/-!
Pointers stand for what they point at: flattening a declaration comes to the same when a pointer in a declared object is
replaced by the text that it comes to, as long as no other pointer leads to its place.
-/

namespace Reconcile

open Result

namespace Declaration

section Fields

variable {root other : Value}

theorem resolveFields_congr {fields : Fields} (proper : (Value.object fields).isProper = true)
    (same : ∀ place content, place.head? ≠ some (.key "class") → Value.at? place (.object fields) = some (.text content) →
      resolveText root content = resolveText other content) :
    resolveFields root (Assoc.erase fields "class") = resolveFields other (Assoc.erase fields "class") := by
  have ⟨unique, inner⟩ := Value.isProper_object.mp proper
  refine resolveFields_same fun entry member => ?_
  have ⟨member, own⟩ := Assoc.mem_erase.mp member
  refine resolveTexts_congr (inner entry member) fun place content there => ?_
  exact same (.key entry.1 :: place) content (unmarked_key own) (by rw [Value.at?_field unique member, there])

theorem resolveFields_replace {fields : Fields} (proper : (Value.object fields).isProper = true) {key : Key}
    (own : key ≠ .named "class") {rest : Place} {content fresh : String}
    (text : Value.at? (.key key :: rest) (.object fields) = some (.text content))
    (here : resolveText root content = resolveText other fresh)
    (others : ∀ elsewhere content, elsewhere ≠ .key key :: rest → elsewhere.head? ≠ some (.key "class") →
      Value.at? elsewhere (.object fields) = some (.text content) → resolveText root content = resolveText other content) :
    resolveFields root (Assoc.erase fields "class") =
      resolveFields other (Assoc.erase (Assoc.adjust fields key (Value.replace rest (.text fresh))) "class") := by
  have ⟨unique, inner⟩ := Value.isProper_object.mp proper
  have uniqueRest : (Assoc.keys (Assoc.erase fields "class")).Nodup := Assoc.nodup_keys_filter unique _
  obtain ⟨value, found, inside⟩ := Option.bind_eq_some_iff.mp text
  have found : Assoc.get? fields key = some value := found
  rw [Assoc.erase_adjust own]
  refine resolveFields_adjust uniqueRest (fun value' there => ?_) fun entry member apart => ?_
  · rw [Assoc.get?_erase_of_ne (Ne.symm own)] at there
    obtain rfl : value = value' := Option.some.inj (found.symm.trans there)
    refine resolveTexts_replace (Value.isProper_of_get? proper found) inside here ?_
    intro place content away there
    refine others (.key key :: place) content (fun same => away (List.cons.inj same).2) (unmarked_key own) ?_
    rw [Value.at?_key, found, Option.bind_some, there]
  · have ⟨member, unclassed⟩ := Assoc.mem_erase.mp member
    refine resolveTexts_congr (inner entry member) fun place content there => ?_
    refine others (.key entry.1 :: place) content (fun same => ?_) (unmarked_key unclassed)
      (by rw [Value.at?_field unique member, there])
    exact apart (Place.Step.key.inj (List.cons.inj same).1)

end Fields

theorem tenants_adjust {fields : Fields} {tenant : Key} {members after : Fields} {change : Value → Value}
    (found : Assoc.get? fields tenant = some (.object members)) (changed : change (.object members) = .object after)
    (class_eq : Fields.lookup after "class" = Fields.lookup members "class") :
    tenants (Assoc.adjust fields tenant change) = tenants fields := by
  refine Assoc.keys_filter_adjust fun value there => ?_
  obtain rfl : .object members = value := Option.some.inj (found.symm.trans there)
  rw [changed]
  dsimp only
  rw [class_eq]

end Declaration

namespace Flattener

open Declaration

variable {flattener : Flattener} {root other : Value}

theorem flattenMembers_eq_foldlM (flat members : Fields) :
    flattener.flattenMembers root flat members =
      members.foldlM (fun flat entry => flattener.flattenMember root entry.1 flat entry.2) flat := by
  induction members generalizing flat with
  | nil => rfl
  | cons entry rest ih =>
    rw [flattenMembers, List.foldlM_cons]
    exact congrArg _ (funext ih)

theorem flattenObject_congr {declared after : Fields} {schemaClass : String} {name : Key} {flat : Fields}
    (same : resolveFields root (Assoc.erase declared "class") = resolveFields other (Assoc.erase after "class")) :
    flattener.flattenObject root schemaClass name declared flat =
      flattener.flattenObject other schemaClass name after flat := by
  unfold flattenObject
  rw [same]

theorem flattenMember_congr (key : Key) (flat : Fields) {value : Value} (proper : value.isProper = true)
    (same : ∀ place content, Carries [(key, value)] place content → resolveText root content = resolveText other content) :
    flattener.flattenMember root key flat value = flattener.flattenMember other key flat value := by
  induction value using Value.byParts generalizing key flat with
  | scalar value plain =>
    cases value with
    | list => cases plain
    | object => cases plain
    | _ => rfl
  | list => rfl
  | object fields ih =>
    have ⟨unique, inner⟩ := Value.isProper_object.mp proper
    have found : Assoc.get? [(key, Value.object fields)] key = some (.object fields) := if_pos rfl
    rw [flattenMember, flattenMember]
    by_cases own : key = "class"
    · rw [if_pos own, if_pos own]
    · rw [if_neg own, if_neg own]
      cases marked : Fields.lookup fields "class" with
      | null =>
        dsimp only
        rw [flattenMembers_eq_foldlM, flattenMembers_eq_foldlM]
        refine foldlM_congr (fun entry member state => ?_) flat
        refine ih entry member entry.1 state (inner entry member) fun place content carries => ?_
        exact same (.key key :: place) content (.grouped found own marked (carries.of_mem unique member).1)
      | text schemaClass =>
        refine flattenObject_congr (resolveFields_congr proper fun place content unmarked there => ?_)
        exact same (.key key :: place) content (.here found own marked unmarked there)
      | _ => rfl

theorem flattenMembers_congr {members : Fields} (proper : (Value.object members).isProper = true)
    (same : ∀ place content, Carries members place content → resolveText root content = resolveText other content)
    (flat : Fields) :
    flattener.flattenMembers root flat members = flattener.flattenMembers other flat members := by
  have ⟨unique, inner⟩ := Value.isProper_object.mp proper
  rw [flattenMembers_eq_foldlM, flattenMembers_eq_foldlM]
  refine foldlM_congr (fun entry member state => ?_) flat
  refine flattenMember_congr entry.1 state (inner entry member) fun place content carries => ?_
  exact same place content (carries.of_mem unique member).1

theorem flattenMembers_replace {declared members : Fields} {key : Key} {rest inner : Place} {content fresh : String}
    (stands : Stands declared (.key key :: rest) members) (proper : (Value.object members).isProper = true)
    (leaf : Value.at? inner (.object declared) = some (.text content)) (unmarked : inner.head? ≠ some (.key "class"))
    (here : resolveText root content = resolveText other fresh)
    (others : ∀ elsewhere content, elsewhere ≠ .key key :: rest ++ inner → Carries members elsewhere content →
      resolveText root content = resolveText other content)
    (flat : Fields) :
    flattener.flattenMembers root flat members =
      flattener.flattenMembers other flat (Assoc.adjust members key (Value.replace (rest ++ inner) (.text fresh))) := by
  have ⟨unique, innerProper⟩ := Value.isProper_object.mp proper
  -- The members but the one that the place leads through stay as they are.
  have apart : ∀ entry ∈ members, entry.1 ≠ key → ∀ flat, flattener.flattenMember root entry.1 flat entry.2 =
      flattener.flattenMember other entry.1 flat entry.2 := by
    intro entry member apart flat
    refine flattenMember_congr entry.1 flat (innerProper entry member) fun place content carries => ?_
    obtain ⟨carries, tail, rfl⟩ := carries.of_mem unique member
    exact others _ content (fun same => apart (Place.Step.key.inj (List.cons.inj same).1)) carries
  rw [flattenMembers_eq_foldlM, flattenMembers_eq_foldlM]
  refine foldlM_eq_of_forall₂ (Assoc.forall₂_adjust unique (fun value there flat => ?_) apart) flat
  cases stands with
  | @here _ _ schemaClass member own classed =>
    obtain rfl : .object declared = value := Option.some.inj (member.symm.trans there)
    obtain ⟨next, later, rfl, unclassed⟩ := exists_key_of_leaf leaf unmarked
    have kept : Fields.lookup (Assoc.adjust declared next (Value.replace later (.text fresh))) "class" =
        .text schemaClass := by
      rw [Fields.lookup, Assoc.get?_adjust, if_neg unclassed]
      exact classed
    rw [List.nil_append, Value.replace_key, flattenMember, flattenMember, if_neg own, if_neg own, classed, kept]
    refine flattenObject_congr (resolveFields_replace (Value.isProper_of_get? proper member) unclassed leaf here ?_)
    intro place content away unmarked there
    refine others (.key key :: place) content (fun same => away (List.cons.inj same).2) ?_
    exact .here member own classed unmarked there
  | @grouped _ group _ _ member own unclassed inside =>
    obtain rfl : .object group = value := Option.some.inj (member.symm.trans there)
    obtain ⟨next, later, rfl, ownNext⟩ := inside.head
    have kept : Fields.lookup (Assoc.adjust group next (Value.replace (later ++ inner) (.text fresh))) "class" = .null := by
      rw [Fields.lookup, Assoc.get?_adjust, if_neg ownNext]
      exact unclassed
    rw [List.cons_append, Value.replace_key, flattenMember, flattenMember, if_neg own, if_neg own, unclassed, kept]
    refine flattenMembers_replace inside (Value.isProper_of_get? proper member) leaf unmarked here ?_ flat
    intro place content away carries
    exact others (.key key :: place) content (fun same => away (List.cons.inj same).2) (.grouped member own unclassed carries)

theorem flattenTenants_congr {fields others : Fields} {tenants : List Key}
    (same : ∀ tenant ∈ tenants, (Leaf.ofTenant (.object fields) tenant).foldlM (flattener.file (.object fields)) [] =
      (Leaf.ofTenant (.object others) tenant).foldlM (flattener.file (.object others)) []) :
    flattener.flattenTenants fields tenants = flattener.flattenTenants others tenants := by
  induction tenants with
  | nil => rfl
  | cons tenant rest ih =>
    have ⟨first, later⟩ := List.forall_mem_cons.mp same
    rw [flattenTenants_cons, flattenTenants_cons, first, ih later]

theorem ofTenant_eq {fields members : Fields} {tenant : Key} (found : Assoc.get? fields tenant = some (.object members)) :
    Leaf.ofTenant (.object fields) tenant = Leaf.ofMembers members := by
  rw [Leaf.ofTenant, Value.get?, found]

theorem ofTenant_congr {fields others : Fields} {tenant : Key} (proper : (Value.object fields).isProper = true)
    (kept : Assoc.get? others tenant = Assoc.get? fields tenant)
    (same : ∀ members place content, Assoc.get? fields tenant = some (.object members) → Carries members place content →
      resolveText (.object fields) content = resolveText (.object others) content) :
    (Leaf.ofTenant (.object fields) tenant).foldlM (flattener.file (.object fields)) [] =
      (Leaf.ofTenant (.object others) tenant).foldlM (flattener.file (.object others)) [] := by
  cases found : Assoc.get? fields tenant with
  | none =>
    rw [Leaf.ofTenant, Leaf.ofTenant, Value.get?, Value.get?, kept, found]
    rfl
  | some value =>
    cases value with
    | object members =>
      rw [ofTenant_eq found, ofTenant_eq (kept.trans found), ← flattenMembers_eq, ← flattenMembers_eq]
      refine flattenMembers_congr (Value.isProper_of_get? proper found) (fun place content carries => ?_) []
      exact same members place content found carries
    | _ =>
      rw [Leaf.ofTenant, Leaf.ofTenant, Value.get?, Value.get?, kept, found]
      rfl

/-- A pointer to a text that is no pointer can be replaced by the text, if no other pointer leads to its place. -/
theorem flatten_replace {declaration : Value} (proper : declaration.isProper = true) {front inner : Place}
    {declared : Fields} {pointer target : String} (points : Points declaration front declared inner pointer)
    (resolved : Pointer.resolve declaration pointer = .ok (.text target)) (plain : Text.startsWith "/" target = false)
    (unshared : Unshared declaration (front ++ inner)) (task : Option String) :
    flattener.flatten task (Value.replace (front ++ inner) (.text target) declaration) =
      flattener.flatten task declaration := by
  have text := points.at?
  obtain ⟨declares, unmarked, leaf, slash⟩ := points
  cases declares with
  | @tenant fields members name rest among found stands =>
    obtain ⟨key, rest, rfl, own⟩ := stands.head
    rw [List.cons_append, Value.replace_key]
    let change := Value.replace (.key key :: rest ++ inner) (.text target)
    let others := Assoc.adjust fields name change
    -- Every other text stands for what it stood for before, and the pointer for the text that now is in its place.
    have same {tenant : Key} {within : Fields} (among : tenant ∈ Declaration.tenants fields)
        (found : Assoc.get? fields tenant = some (.object within)) : ∀ elsewhere content, Carries within elsewhere content →
          .key tenant :: elsewhere ≠ .key name :: (.key key :: rest ++ inner) →
            resolveText (.object fields) content = resolveText (.object others) content := by
      rintro _ content ⟨stands, unmarked, leaf⟩ apart
      refine resolveText_congr fun pointed => (Pointer.follow_replace text target ?_).symm
      exact unshared _ _ _ content ⟨.tenant among found stands, unmarked, leaf, pointed⟩ apart
    have here : resolveText (.object fields) pointer = resolveText (.object others) target := by
      have differ : (Value.text target).text? ≠ some pointer := by
        intro equal
        rw [Option.some.inj equal, slash] at plain
        cases plain
      rw [resolveText_of_ok slash resolved, if_neg differ, resolveText_of_plain plain]
      rfl
    have changed : change (.object members) =
        .object (Assoc.adjust members key (Value.replace (rest ++ inner) (.text target))) := rfl
    have tenants : Declaration.tenants others = Declaration.tenants fields := by
      refine tenants_adjust found changed ?_
      rw [Fields.lookup, Fields.lookup, Assoc.get?_adjust, if_neg own]
    have flat : flattener.flattenTenants fields (Declaration.tenants fields) =
        flattener.flattenTenants others (Declaration.tenants fields) := by
      refine flattenTenants_congr fun tenant listed => ?_
      by_cases there : name = tenant
      · subst there
        have after : Assoc.get? others name = some (change (.object members)) := by
          rw [Assoc.get?_adjust, if_pos rfl, found, Option.map_some]
        rw [ofTenant_eq found, ofTenant_eq (after.trans (congrArg some changed)), ← flattenMembers_eq, ← flattenMembers_eq]
        refine flattenMembers_replace stands (Value.isProper_of_get? proper found) leaf unmarked here ?_ []
        intro place content apart carries
        exact same among found place content carries fun equal => apart (List.cons.inj equal).2
      · have kept : Assoc.get? others tenant = Assoc.get? fields tenant := by
          rw [Assoc.get?_adjust, if_neg there]
        refine ofTenant_congr proper kept fun within place content held carries => ?_
        refine same listed held place content carries fun equal => there ?_
        exact (Place.Step.key.inj (List.cons.inj equal).1).symm
    rw [flatten, flatten, tenants, flat]

end Flattener

end Reconcile
