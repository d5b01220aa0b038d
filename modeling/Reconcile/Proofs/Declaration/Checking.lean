import Reconcile.Declaration.Report
import Reconcile.Proofs.Declaration.Leaves

/-!
What checking a declaration establishes. A tenant without errors has no leaf that is not understood, all its pointers
can be followed, and no class without names is declared in it twice.
-/

namespace Reconcile

namespace Leaf

def single? (catalog : Catalog) : Leaf → Option String
  | .object schemaClass _ _ => if catalog.isNameless schemaClass then some schemaClass else none
  | _ => none

/-- A leaf that a check understands: its class is a text, and its pointers have been followed. -/
def Understood (root : Value) : Leaf → Prop
  | .loose _ _ => True
  | .object _ _ declared =>
    ∃ place findings, Result.Succeeds (Report.followPointers root place findings (.object declared))
  | .shapeless _ _ => False

end Leaf

namespace Report

structure Findings.Warned (before after : Findings) : Prop where
  errors : after.errors = before.errors
  seen : after.seen = before.seen

theorem Findings.Warned.refl (findings : Findings) : findings.Warned findings := ⟨rfl, rfl⟩

theorem Findings.Warned.trans {first second third : Findings} (left : first.Warned second)
    (right : second.Warned third) : first.Warned third :=
  ⟨right.errors.trans left.errors, right.seen.trans left.seen⟩

mutual

theorem followPointers_warned {root : Value} {place : String} {findings after : Findings} :
    ∀ {value : Value}, followPointers root place findings value = .ok after → findings.Warned after
  | .object fields, run => by
    rw [followPointers] at run
    exact followPointerFields_warned run
  | .list items, run => by
    rw [followPointers] at run
    exact followPointerItems_warned run
  | .text content, run => by
    rw [followPointers] at run
    split at run
    next =>
      obtain ⟨target, _, done⟩ := Result.bind_eq_ok.mp run
      cases done
      split
      next => exact ⟨rfl, rfl⟩
      next => exact .refl _
    next =>
      cases run
      exact .refl _
  | .null, run | .bool _, run | .int _, run | .real _, run => by
    rw [followPointers] at run
    · cases run
      exact .refl _
    all_goals simp

theorem followPointerItems_warned {root : Value} {place : String} {findings after : Findings} :
    ∀ {items : List Value}, followPointerItems root place findings items = .ok after → findings.Warned after
  | [], run => by
    cases run
    exact .refl _
  | _ :: _, run => by
    rw [followPointerItems] at run
    obtain ⟨middle, here, later⟩ := Result.bind_eq_ok.mp run
    exact (followPointers_warned here).trans (followPointerItems_warned later)

theorem followPointerFields_warned {root : Value} {place : String} {findings after : Findings} :
    ∀ {fields : Fields}, followPointerFields root place findings fields = .ok after → findings.Warned after
  | [], run => by
    cases run
    exact .refl _
  | (_, _) :: _, run => by
    rw [followPointerFields] at run
    obtain ⟨middle, here, later⟩ := Result.bind_eq_ok.mp run
    exact (followPointers_warned here).trans (followPointerFields_warned later)

end

/-- What a check that finds no error has established of the leaves it went through. -/
structure Checked (catalog : Catalog) (root : Value) (before after : Findings) (leaves : List Leaf) : Prop where
  errors : before.errors = []
  seen : Assoc.keys after.seen = Assoc.keys before.seen ++ leaves.filterMap (Leaf.single? catalog)
  unique : (Assoc.keys before.seen).Nodup → (Assoc.keys after.seen).Nodup
  understood : ∀ leaf ∈ leaves, leaf.Understood root

namespace Checked

variable {catalog : Catalog} {root : Value} {first second third : Findings} {leaves others : List Leaf}

theorem refl (errors : first.errors = []) : Checked catalog root first first [] :=
  ⟨errors, (List.append_nil _).symm, id, fun _ member => (List.not_mem_nil member).elim⟩

theorem trans (left : Checked catalog root first second leaves) (right : Checked catalog root second third others) :
    Checked catalog root first third (leaves ++ others) where
  errors := left.errors
  seen := by rw [right.seen, left.seen, List.filterMap_append, List.append_assoc]
  unique := right.unique ∘ left.unique
  understood := List.forall_mem_append.mpr ⟨left.understood, right.understood⟩

end Checked

theorem checkClass_checked {catalog : Catalog} {place schemaClass : String} {findings : Findings}
    (blameless : (checkClass catalog place schemaClass findings).errors = []) :
    findings.errors = [] ∧
      Assoc.keys (checkClass catalog place schemaClass findings).seen =
        Assoc.keys findings.seen ++ (if catalog.isNameless schemaClass then [schemaClass] else []) ∧
      ((Assoc.keys findings.seen).Nodup →
        (Assoc.keys (checkClass catalog place schemaClass findings).seen).Nodup) := by
  unfold checkClass at blameless ⊢
  dsimp only at blameless ⊢
  have warned : (if schemaClass ∈ catalog.classes then findings
      else findings.warn (place ++ ": unknown class " ++ schemaClass)).errors = findings.errors ∧
      (if schemaClass ∈ catalog.classes then findings
        else findings.warn (place ++ ": unknown class " ++ schemaClass)).seen = findings.seen := by
    split <;> exact ⟨rfl, rfl⟩
  generalize (if schemaClass ∈ catalog.classes then findings
    else findings.warn (place ++ ": unknown class " ++ schemaClass)) = noted at warned blameless ⊢
  cases nameless : catalog.isNameless schemaClass with
  | false =>
    rw [nameless, if_neg Bool.false_ne_true] at blameless
    simp only [Bool.false_eq_true, ↓reduceIte, List.append_nil, warned.2]
    exact ⟨warned.1 ▸ blameless, trivial, id⟩
  | true =>
    simp only [nameless, ↓reduceIte] at blameless ⊢
    cases found : Assoc.get? noted.seen schemaClass with
    | some known =>
      rw [found] at blameless
      exact (List.append_ne_nil_of_right_ne_nil _ (List.cons_ne_nil _ _) blameless).elim
    | none =>
      rw [found] at blameless
      have absent := Assoc.get?_eq_none_iff.mp found
      dsimp only at blameless ⊢
      refine ⟨warned.1 ▸ blameless, ?_, fun unique => Assoc.nodup_keys_put (warned.2 ▸ unique) _ _⟩
      rw [Assoc.keys_put, if_neg absent, warned.2]

mutual

theorem checkMember_checked {catalog : Catalog} {root : Value} {place : String} {key : Key} {findings after : Findings} :
    ∀ {value : Value}, checkMember catalog root place key findings value = .ok after → after.errors = [] →
      Checked catalog root findings after (Leaf.ofMember key value)
  | .object fields, run, blameless => by
    rw [checkMember] at run
    rw [Leaf.ofMember]
    split at run
    next same =>
      cases run
      rw [if_pos same]
      exact .refl blameless
    next other =>
      rw [if_neg other, Fields.lookup]
      cases found : Assoc.get? fields "class" with
      | none =>
        rw [found] at run
        exact checkMembers_checked run blameless
      | some given =>
        rw [found] at run
        cases given with
        | text schemaClass =>
          have warned := followPointers_warned run
          obtain ⟨errors, seen, unique⟩ := checkClass_checked (warned.errors ▸ blameless)
          refine ⟨errors, ?_, ?_, ?_⟩
          · rw [warned.seen, seen]
            cases nameless : catalog.isNameless schemaClass <;> simp [Leaf.single?, nameless]
          · exact warned.seen ▸ unique
          · rintro leaf member
            obtain rfl := List.mem_singleton.mp member
            exact ⟨_, _, _, run⟩
        | _ =>
          cases run
          exact (List.append_ne_nil_of_right_ne_nil _ (List.cons_ne_nil _ _) blameless).elim
  | .null, run, blameless | .bool _, run, blameless | .int _, run, blameless | .real _, run, blameless
  | .text _, run, blameless | .list _, run, blameless => by
    rw [checkMember] at run
    · cases run
      rw [Leaf.ofMember]
      · split
        next => exact .refl blameless
        next =>
          refine ⟨blameless, (List.append_nil _).symm, id, fun leaf member => ?_⟩
          obtain rfl := List.mem_singleton.mp member
          trivial
      all_goals simp
    all_goals simp

theorem checkMembers_checked {catalog : Catalog} {root : Value} {place : String} {findings after : Findings} :
    ∀ {members : Fields}, checkMembers catalog root place findings members = .ok after → after.errors = [] →
      Checked catalog root findings after (Leaf.ofMembers members)
  | [], run, blameless => by
    cases run
    exact .refl blameless
  | (_, _) :: _, run, blameless => by
    rw [checkMembers] at run
    obtain ⟨middle, here, later⟩ := Result.bind_eq_ok.mp run
    have rest := checkMembers_checked later blameless
    exact (checkMember_checked here rest.errors).trans rest

end

/-- What a check without errors has established of a tenant: all its leaves are understood, and no class without names
is declared twice. -/
structure Sound (catalog : Catalog) (root : Value) (leaves : List Leaf) : Prop where
  understood : ∀ leaf ∈ leaves, leaf.Understood root
  once : (leaves.filterMap (Leaf.single? catalog)).Nodup

theorem checkTenants_sound {catalog : Catalog} {declaration : Fields} {tenants : List Key} {findings after : Findings}
    (run : checkTenants catalog declaration findings tenants = .ok after) (blameless : after.errors = []) :
    findings.errors = [] ∧
      ∀ tenant ∈ tenants, Sound catalog (.object declaration) (Leaf.ofTenant (.object declaration) tenant) := by
  induction tenants generalizing findings with
  | nil =>
    cases run
    exact ⟨blameless, fun _ member => (List.not_mem_nil member).elim⟩
  | cons tenant rest ih =>
    rw [checkTenants] at run
    obtain ⟨middle, here, later⟩ := Result.bind_eq_ok.mp run
    obtain ⟨errors, others⟩ := ih later
    have checked := checkMembers_checked here errors
    refine ⟨checked.errors, List.forall_mem_cons.mpr ⟨?_, others⟩⟩
    rw [Leaf.ofTenant, Value.get?]
    split
    next members found =>
      rw [found] at checked
      have seen := checked.seen
      dsimp only at seen
      rw [Assoc.keys_nil, List.nil_append] at seen
      exact ⟨checked.understood, seen ▸ checked.unique List.nodup_nil⟩
    next => exact ⟨fun _ member => (List.not_mem_nil member).elim, List.nodup_nil⟩

/-- A valid declaration is an object, and all its tenants are sound. -/
theorem ofDeclaration_sound {catalog : Catalog} {declaration : Value} {report : Report}
    (run : ofDeclaration catalog declaration = .ok report) (valid : report.valid = true) :
    ∃ fields, declaration = .object fields ∧
      ∀ tenant ∈ Declaration.tenants fields, Sound catalog declaration (Leaf.ofTenant declaration tenant) := by
  cases declaration with
  | object fields =>
    obtain ⟨findings, checked, done⟩ := Result.bind_eq_ok.mp run
    cases done
    exact ⟨fields, rfl, (checkTenants_sound checked (List.isEmpty_iff.mp valid)).2⟩
  | _ =>
    cases run
    cases valid

end Report

end Reconcile
