import Reconcile.Catalog.Packaged
import Reconcile.Declaration.Report
import Reconcile.Proofs.Assoc
import Reconcile.Proofs.Numeral
import Reconcile.Proofs.Place
import Reconcile.Proofs.Result

/-!
Checking a declaration gives a report, whatever the declaration is, unless one of its pointers has a step into a list
that passes for a number and is none. Which pointers are followed, and where they lead, does not depend on the catalog.
-/

namespace Reconcile

variable {α β : Type}

/-- A computation that fails under a condition, always in the same way, and has a value otherwise. -/
structure Result.FailsWhen (fault : Fault) (condition : Prop) (action : Result α) : Prop where
  fails : condition → action = .error fault
  succeeds : ¬condition → Succeeds action

namespace Result.FailsWhen

variable {fault : Fault} {condition other : Prop} {action : Result α} {next : α → Result β}

theorem ok (never : ¬condition) (value : α) : FailsWhen fault condition (.ok value) :=
  ⟨fun holds => (never holds).elim, fun _ => .ok value⟩

theorem error (holds : condition) : FailsWhen fault condition (.error fault : Result α) :=
  ⟨fun _ => rfl, fun never => (never holds).elim⟩

theorem congr (first : FailsWhen fault condition action) (same : condition ↔ other) : FailsWhen fault other action :=
  propext same ▸ first

theorem bind (first : FailsWhen fault condition action)
    (second : ∀ value, action = .ok value → FailsWhen fault other (next value)) :
    FailsWhen fault (condition ∨ other) (action >>= next) where
  fails := by
    intro either
    by_cases early : condition
    · rw [first.fails early]
      rfl
    · obtain ⟨value, done⟩ := first.succeeds early
      rw [done, Result.ok_bind]
      exact (second value done).fails (either.resolve_left early)
  succeeds := by
    intro neither
    obtain ⟨value, done⟩ := first.succeeds fun early => neither (.inl early)
    rw [done, Result.ok_bind]
    exact (second value done).succeeds fun later => neither (.inr later)

end Result.FailsWhen

open Result

namespace Pointer

/-- Whether steps from a value come to a list with a step that passes for a number and is none. -/
def StraysFrom (value : Value) (steps : List String) : Prop :=
  ∃ front step back items, steps = front ++ step :: back ∧ follow front value = .ok (.list items) ∧
    Text.Misread step.toList

def Strays (root : Value) (pointer : String) : Prop :=
  StraysFrom root (steps pointer)

theorem straysFrom_nil (value : Value) : ¬StraysFrom value [] := by
  rintro ⟨front, step, back, items, cut, _⟩
  exact List.append_ne_nil_of_right_ne_nil front (List.cons_ne_nil step back) cut.symm

theorem straysFrom_cons {value : Value} {step : String} {rest : List String} :
    StraysFrom value (step :: rest) ↔ ((∃ items, value = .list items) ∧ Text.Misread step.toList) ∨
      ∃ front later back items, rest = front ++ later :: back ∧ follow (step :: front) value = .ok (.list items) ∧
        Text.Misread later.toList := by
  constructor
  · rintro ⟨front, later, back, items, cut, leads, misread⟩
    cases front with
    | nil =>
      obtain ⟨rfl, rfl⟩ := List.cons.inj cut
      cases leads
      exact .inl ⟨⟨items, rfl⟩, misread⟩
    | cons head front =>
      obtain ⟨rfl, rfl⟩ := List.cons.inj cut
      exact .inr ⟨front, later, back, items, rfl, leads, misread⟩
  · rintro (⟨⟨items, rfl⟩, misread⟩ | ⟨front, later, back, items, rfl, leads, misread⟩)
    · exact ⟨[], step, rest, items, rfl, rfl, misread⟩
    · exact ⟨step :: front, later, back, items, rfl, leads, misread⟩

theorem index?_failsWhen (step : String) (length : Nat) :
    FailsWhen .unreadableText (Text.Misread step.toList) (index? step length) := by
  unfold index?
  split
  next digits =>
    have misread := Text.integer?_eq_none_iff digits
    cases spelt : Text.integer? step.toList with
    | none => exact .error (misread.mp spelt)
    | some number =>
      have read : ¬Text.Misread step.toList := fun wrong => nomatch spelt.symm.trans (misread.mpr wrong)
      exact .ok read _
  next other => exact .ok (fun wrong => other wrong.1) _

theorem follow_failsWhen (steps : List String) (value : Value) :
    FailsWhen .unreadableText (StraysFrom value steps) (follow steps value) := by
  induction steps generalizing value with
  | nil => exact .ok (straysFrom_nil value) value
  | cons step rest ih =>
    cases value with
    | object fields =>
      apply (ih (Fields.lookup fields step)).congr
      rw [straysFrom_cons]
      exact (or_iff_right fun ⟨⟨_, same⟩, _⟩ => nomatch same).symm
    | list items =>
      refine ((index?_failsWhen step items.length).bind fun position? found => ?_).congr
        (straysFrom_cons.trans (or_congr_left (and_iff_right ⟨items, rfl⟩))).symm
      -- From here on the steps stray exactly if they do from the item at the position.
      have onward (front : List String) : follow (step :: front) (.list items) =
          position?.elim (.ok .null) fun index => follow front (items.getD index .null) := by
        rw [follow, found]
        cases position? <;> rfl
      simp only [onward]
      cases position? with
      | some index => exact ih (items.getD index .null)
      | none => exact .ok (fun ⟨_, _, _, _, _, leads, _⟩ => nomatch leads) _
    | _ =>
      refine .ok (fun strays => ?_) _
      rcases straysFrom_cons.mp strays with ⟨⟨_, same⟩, _⟩ | ⟨_, _, _, _, _, leads, _⟩
      · cases same
      · cases leads

theorem resolve_failsWhen (root : Value) (pointer : String) :
    FailsWhen .unreadableText (Strays root pointer) (resolve root pointer) :=
  follow_failsWhen (steps pointer) root

end Pointer

/-- Where a tenant or a group has an object with a class. How members are found, and which of them are groups, is left to
the readers of a declaration: some take a class that is null for a missing one. -/
inductive Declaration.StandsBy (has : Fields → Key → Value → Prop) (groups : Fields → Prop) (declared : Fields) :
    Place → Fields → Prop where
  | here {members : Fields} {key : Key} {schemaClass : String} (member : has members key (.object declared))
      (own : key ≠ .named "class") (classed : Fields.lookup declared "class" = .text schemaClass) :
      StandsBy has groups declared [.key key] members
  | grouped {members group : Fields} {key : Key} {front : Place} (member : has members key (.object group))
      (own : key ≠ .named "class") (unclassed : groups group) (inside : StandsBy has groups declared front group) :
      StandsBy has groups declared (.key key :: front) members

namespace Report

/-- Whether a value has, at any depth, a pointer that strays. -/
inductive Misleads (root : Value) : Value → Prop where
  | text {content : String} (slash : Text.startsWith "/" content = true) (long : content ≠ "/")
      (strays : Pointer.Strays root content) : Misleads root (.text content)
  | item {items : List Value} {item : Value} (member : item ∈ items) (inside : Misleads root item) :
      Misleads root (.list items)
  | field {fields : Fields} {field : Key × Value} (member : field ∈ fields) (inside : Misleads root field.2) :
      Misleads root (.object fields)

theorem misleads_text {root : Value} {content : String} :
    Misleads root (.text content) ↔
      (Text.startsWith "/" content && content ≠ "/") = true ∧ Pointer.Strays root content := by
  constructor
  · rintro ⟨slash, long, strays⟩
    exact ⟨by simp [slash, long], strays⟩
  · rintro ⟨pointer, strays⟩
    rw [Bool.and_eq_true, decide_eq_true_eq] at pointer
    exact .text pointer.1 pointer.2 strays

theorem misleads_list {root : Value} {items : List Value} :
    Misleads root (.list items) ↔ ∃ item ∈ items, Misleads root item :=
  ⟨fun | .item member inside => ⟨_, member, inside⟩, fun ⟨_, member, inside⟩ => .item member inside⟩

theorem misleads_object {root : Value} {fields : Fields} :
    Misleads root (.object fields) ↔ ∃ field ∈ fields, Misleads root field.2 :=
  ⟨fun | .field member inside => ⟨_, member, inside⟩, fun ⟨_, member, inside⟩ => .field member inside⟩

theorem not_misleads_scalar {root value : Value} (scalar : value.isContainer = false) (mute : value.isText = false) :
    ¬Misleads root value := by
  rintro (_ | _ | _)
  · cases mute
  · cases scalar
  · cases scalar

mutual

theorem followPointers_failsWhen (root : Value) (place : String) (findings : Findings) :
    ∀ value, FailsWhen .unreadableText (Misleads root value) (followPointers root place findings value)
  | .object fields => by
    rw [followPointers]
    exact (followPointerFields_failsWhen root place findings fields).congr misleads_object.symm
  | .list items => by
    rw [followPointers]
    exact (followPointerItems_failsWhen root place findings items).congr misleads_list.symm
  | .text content => by
    rw [followPointers, misleads_text]
    split
    next pointer =>
      refine ((Pointer.resolve_failsWhen root content).bind fun _ _ => .ok id _).congr ?_
      rw [or_false, and_iff_right pointer]
    next loose => exact .ok (fun both => loose both.1) findings
  | .null | .bool _ | .int _ | .real _ => by
    rw [followPointers]
    · exact .ok (not_misleads_scalar rfl rfl) findings
    all_goals simp

theorem followPointerItems_failsWhen (root : Value) (place : String) (findings : Findings) :
    ∀ items : List Value, FailsWhen .unreadableText (∃ item ∈ items, Misleads root item)
      (followPointerItems root place findings items)
  | [] => .ok (by simp) findings
  | item :: rest => by
    rw [followPointerItems, List.exists_mem_cons_iff]
    exact (followPointers_failsWhen root place findings item).bind fun findings _ =>
      followPointerItems_failsWhen root place findings rest

theorem followPointerFields_failsWhen (root : Value) (place : String) (findings : Findings) :
    ∀ fields : Fields, FailsWhen .unreadableText (∃ field ∈ fields, Misleads root field.2)
      (followPointerFields root place findings fields)
  | [] => .ok (by simp) findings
  | (key, value) :: rest => by
    rw [followPointerFields, List.exists_mem_cons_iff]
    exact (followPointers_failsWhen root (place ++ "/" ++ key.display) findings value).bind fun findings _ =>
      followPointerFields_failsWhen root place findings rest

end

/-- An object with a class that a tenant holds, directly or in groups: these have no class at all, not even null. -/
def Stands (object members : Fields) : Prop :=
  ∃ front, Declaration.StandsBy (fun members key value => (key, value) ∈ members)
    (fun group => Assoc.get? group "class" = none) object front members

theorem Stands.here {object members : Fields} {key : Key} {schemaClass : String} (member : (key, .object object) ∈ members)
    (own : key ≠ .named "class") (classed : Fields.lookup object "class" = .text schemaClass) : Stands object members :=
  ⟨_, .here member own classed⟩

theorem Stands.grouped {object members group : Fields} {key : Key} (member : (key, .object group) ∈ members)
    (own : key ≠ .named "class") (unclassed : Assoc.get? group "class" = none) (inside : Stands object group) :
    Stands object members :=
  have ⟨_, stands⟩ := inside
  ⟨_, .grouped member own unclassed stands⟩

theorem stands_iff {object members : Fields} : Stands object members ↔ ∃ entry ∈ members, Stands object [entry] := by
  constructor
  · rintro ⟨_, ⟨member, own, classed⟩ | ⟨member, own, unclassed, inside⟩⟩
    · exact ⟨_, member, .here (List.mem_singleton_self _) own classed⟩
    · exact ⟨_, member, .grouped (List.mem_singleton_self _) own unclassed ⟨_, inside⟩⟩
  · rintro ⟨entry, member, _, ⟨single, own, classed⟩ | ⟨single, own, unclassed, inside⟩⟩
    · exact .here (List.mem_singleton.mp single ▸ member) own classed
    · exact .grouped (List.mem_singleton.mp single ▸ member) own unclassed ⟨_, inside⟩

def MisleadsAmong (root : Value) (members : Fields) : Prop :=
  ∃ object, Stands object members ∧ Misleads root (.object object)

theorem misleadsAmong_cons {root : Value} {entry : Key × Value} {rest : Fields} :
    MisleadsAmong root (entry :: rest) ↔ MisleadsAmong root [entry] ∨ MisleadsAmong root rest := by
  have split (object : Fields) : Stands object (entry :: rest) ↔ Stands object [entry] ∨ Stands object rest := by
    rw [stands_iff, List.exists_mem_cons_iff, ← stands_iff]
  simp only [MisleadsAmong, split, or_and_right, exists_or]

theorem misleadsAmong_nil (root : Value) : ¬MisleadsAmong root [] := by
  rintro ⟨object, stands, _⟩
  obtain ⟨_, member, _⟩ := stands_iff.mp stands
  cases member

theorem misleadsAmong_flat {root : Value} {key : Key} {value : Value} (flat : value.isObject = false) :
    ¬MisleadsAmong root [(key, value)] := by
  rintro ⟨object, ⟨_, ⟨member, _, _⟩ | ⟨member, _, _, _⟩⟩, _⟩
  · cases List.mem_singleton.mp member
    cases flat
  · cases List.mem_singleton.mp member
    cases flat

theorem misleadsAmong_object {root : Value} {key : Key} {fields : Fields} :
    MisleadsAmong root [(key, .object fields)] ↔ key ≠ .named "class" ∧
      match Assoc.get? fields "class" with
      | none => MisleadsAmong root fields
      | some (.text _) => Misleads root (.object fields)
      | some _ => False := by
  constructor
  · rintro ⟨object, ⟨_, ⟨member, own, classed⟩ | ⟨member, own, unclassed, inside⟩⟩, misleads⟩
    · cases List.mem_singleton.mp member
      rw [Fields.lookup_eq_text.mp classed]
      exact ⟨own, misleads⟩
    · cases List.mem_singleton.mp member
      rw [unclassed]
      exact ⟨own, object, ⟨_, inside⟩, misleads⟩
  · rintro ⟨own, misleads⟩
    split at misleads
    next unclassed =>
      obtain ⟨object, inside, misleads⟩ := misleads
      exact ⟨object, .grouped (List.mem_singleton_self _) own unclassed inside, misleads⟩
    next classed => exact ⟨fields, .here (List.mem_singleton_self _) own (Fields.lookup_eq_text.mpr classed), misleads⟩
    next => exact misleads.elim

mutual

theorem checkMember_failsWhen (catalog : Catalog) (root : Value) (place : String) (key : Key) (findings : Findings) :
    ∀ value, FailsWhen .unreadableText (MisleadsAmong root [(key, value)])
      (checkMember catalog root place key findings value)
  | .object fields => by
    rw [checkMember]
    by_cases own : key = "class"
    · rw [if_pos own]
      exact .ok (fun misleads => (misleadsAmong_object.mp misleads).1 own) findings
    · rw [if_neg own]
      apply FailsWhen.congr _ (misleadsAmong_object.trans (and_iff_right own)).symm
      cases Assoc.get? fields "class" with
      | none => exact checkMembers_failsWhen catalog root (place ++ "/" ++ key.display) findings fields
      | some given =>
        cases given with
        | text schemaClass => exact followPointers_failsWhen root _ _ (.object fields)
        | _ => exact .ok id _
  | .null | .bool _ | .int _ | .real _ | .text _ | .list _ => by
    rw [checkMember]
    · exact .ok (misleadsAmong_flat rfl) findings
    all_goals simp

theorem checkMembers_failsWhen (catalog : Catalog) (root : Value) (place : String) (findings : Findings) :
    ∀ members : Fields, FailsWhen .unreadableText (MisleadsAmong root members)
      (checkMembers catalog root place findings members)
  | [] => .ok (misleadsAmong_nil root) findings
  | (key, value) :: rest => by
    rw [checkMembers, misleadsAmong_cons]
    exact (checkMember_failsWhen catalog root place key findings value).bind fun findings _ =>
      checkMembers_failsWhen catalog root place findings rest

end

theorem checkTenants_failsWhen (catalog : Catalog) (declaration : Fields) (findings : Findings) (tenants : List Key) :
    FailsWhen .unreadableText
      (∃ tenant ∈ tenants, MisleadsAmong (.object declaration) (Path.inner declaration tenant))
      (checkTenants catalog declaration findings tenants) := by
  induction tenants generalizing findings with
  | nil => exact .ok (by simp) findings
  | cons tenant rest ih =>
    rw [checkTenants, List.exists_mem_cons_iff]
    exact (checkMembers_failsWhen catalog (.object declaration) tenant.display { findings with seen := [] }
      (Path.inner declaration tenant)).bind fun findings _ => ih findings

/-- Whether a declaration has a tenant with an object in which a pointer strays. -/
def Misleading : Value → Prop
  | .object fields => ∃ tenant ∈ Declaration.tenants fields, MisleadsAmong (.object fields) (Path.inner fields tenant)
  | _ => False

theorem ofDeclaration_failsWhen (catalog : Catalog) (declaration : Value) :
    FailsWhen .unreadableText (Misleading declaration) (ofDeclaration catalog declaration) := by
  cases declaration with
  | object fields =>
    exact ((checkTenants_failsWhen catalog fields _ (Declaration.tenants fields)).bind fun _ _ => .ok id _).congr
      (or_iff_left id)
  | _ => exact .ok id _

theorem valid_iff {catalog : Catalog} {declaration : Value} {report : Report}
    (checked : ofDeclaration catalog declaration = .ok report) : report.valid = true ↔ report.errors = [] := by
  cases declaration with
  | object fields =>
    obtain ⟨findings, _, done⟩ := bind_eq_ok.mp checked
    cases done
    exact List.isEmpty_iff
  | _ =>
    cases checked
    exact iff_of_false Bool.false_ne_true (List.cons_ne_nil _ _)

/-- Whatever is given as a declaration, checking it under any catalog gives a report, which is valid exactly if it has no
errors, unless a pointer in an object of a tenant strays. Then, and only then, the check fails. -/
theorem ofDeclaration_verdict (catalog : Catalog) (declaration : Value) :
    (¬Misleading declaration ∧ ∃ report, ofDeclaration catalog declaration = .ok report ∧
        (report.valid = true ↔ report.errors = [])) ∨
      (Misleading declaration ∧ ofDeclaration catalog declaration = .error .unreadableText) := by
  have outcome := ofDeclaration_failsWhen catalog declaration
  by_cases misleading : Misleading declaration
  · exact .inr ⟨misleading, outcome.fails misleading⟩
  · obtain ⟨report, checked⟩ := outcome.succeeds misleading
    exact .inl ⟨misleading, report, checked, valid_iff checked⟩

/-- A raised two passes for a digit but cannot be read as a number, so a pointer with it into a list makes the check of
an otherwise valid declaration fail. -/
theorem raised_digit_unreadable :
    let members : Fields := [
      ("class", .text "Tenant"),
      ("wire", .object [("class", .text "VLAN"), ("interfaces", .list [.object [("name", .text "1.1")]])]),
      ("inner", .object [("class", .text "SelfIp"), ("vlan", .text "/Common/wire/interfaces/²")])]
    ofDeclaration .packaged (.object [("class", .text "Device"), ("Common", .object members)]) =
      .error .unreadableText := by
  rfl

end Report

end Reconcile
