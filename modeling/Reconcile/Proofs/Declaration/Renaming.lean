import Reconcile.Catalog.Packaged
import Reconcile.Declaration.Native
import Reconcile.Proofs.Path
import Reconcile.Proofs.Result

/-!
Renaming a declared object always comes to an end with a value, unless a nested rule lifts a value out of the object
altogether.
-/

namespace Reconcile

open Result

theorem Path.ofDotted_ne_nil (dotted : String) : ofDotted dotted ≠ [] :=
  fun none => Text.pieces_ne_nil _ _ _ _ (List.map_eq_nil_iff.mp (List.map_eq_nil_iff.mp none))

namespace PropertyRule

/-- A rule whose nested rules stay within the object, however far up they lift a value. -/
def Grounded (outer : PropertyRule) : Prop :=
  ∀ rule ∈ outer.transform,
    Path.dropFirst (.named outer.id :: Path.ofDotted rule.id) outer.upLevel ≠ [] ∧
      Path.dropFirst (.named outer.id :: rule.declaredPath) outer.upLevel ≠ []

variable (rule : PropertyRule)

theorem move_succeeds {target : Path} {source? : Option Path} (placed : target ≠ []) (sourced : source? ≠ some [])
    (item : Fields) : Succeeds (rule.move target source? item) := by
  unfold move
  dsimp only
  split
  next => exact .ok _
  next =>
    rw [if_neg placed]
    split
    next => exact .ok _
    next source =>
      split
      next => exact .ok _
      next =>
        rw [if_neg fun none => sourced (congrArg some none)]
        exact .ok _

theorem moveBelow_succeeds (base : List String) (item : Fields) : Succeeds (rule.moveBelow base item) := by
  refine rule.move_succeeds ?_ ?_ item
  · exact List.append_ne_nil_of_right_ne_nil _ (Path.ofDotted_ne_nil _)
  · exact fun none => List.append_ne_nil_of_right_ne_nil _ (Path.ofDotted_ne_nil _) (Option.some.inj none)

theorem renameElements_succeeds (items : List Value) : Succeeds (rule.renameElements items) := by
  induction items with
  | nil => exact .ok _
  | cons value rest ih =>
    cases value with
    | object fields =>
      rw [renameElements]
      refine (rule.move_succeeds (Path.ofDotted_ne_nil _) ?_ fields).bind fun fields => ih.bind fun _ => .ok _
      cases rule.newId? with
      | none => exact fun none => nomatch none
      | some newId => exact fun none => Path.ofDotted_ne_nil newId (Option.some.inj none)
    | _ =>
      rw [renameElements]
      · exact ih.bind fun _ => .ok _
      all_goals simp

theorem renameNested_succeeds {outer rule : PropertyRule} (grounded : outer.Grounded) (among : rule ∈ outer.transform)
    (item : Fields) : Succeeds (outer.renameNested item rule) := by
  obtain ⟨placed, sourced⟩ := grounded rule among
  unfold renameNested
  split
  next items _ => exact (rule.renameElements_succeeds items).bind fun _ => .ok _
  next => exact rule.move_succeeds placed (fun none => sourced (Option.some.inj none)) item

theorem renameInside_succeeds {rule : PropertyRule} (grounded : rule.Grounded) (shares : Bool) (item : Fields) :
    Succeeds (rule.renameInside shares item) := by
  have nested : Succeeds (rule.transform.foldlM rule.renameNested item) :=
    .foldlM (fun inner among item => renameNested_succeeds grounded among item) item
  exact nested.bind fun _ => .ok _

end PropertyRule

/-- An entry all of whose rules stay within the object, those for what its properties refer to included. -/
structure Entry.Grounded (entry : Entry) : Prop where
  properties : ∀ rule ∈ entry.properties, rule.Grounded
  references : ∀ reference ∈ entry.references, ∀ rule ∈ reference.2, rule.Grounded

def Catalog.Grounded (catalog : Catalog) : Prop :=
  ∀ entry ∈ catalog.entries, entry.Grounded

namespace Entry

variable {entry : Entry}

theorem Grounded.referenced (grounded : entry.Grounded) (id : String) :
    ∀ rule ∈ entry.referencedRules id, rule.Grounded := by
  intro rule among
  unfold referencedRules at among
  cases found : Assoc.get? entry.references (.named id) with
  | none =>
    rw [found] at among
    cases among
  | some rules =>
    rw [found] at among
    exact grounded.references _ (Assoc.mem_of_get? found) rule among

variable (naming : Naming) (depth : Nat)

/-- Whether every rule can be applied to any object, as far as references are followed to a depth. -/
def Applies (entry : Entry) (naming : Naming) (depth : Nat) : Prop :=
  ∀ rule : PropertyRule, rule.Grounded → ∀ item pass, Succeeds (entry.renameProperty naming depth rule item pass)

variable {naming} {depth}

theorem Applies.properties (applies : entry.Applies naming depth) {rules : List PropertyRule}
    (grounded : ∀ rule ∈ rules, rule.Grounded) (item : Fields) (pass : RenamingPass) :
    Succeeds (entry.renameProperties naming depth rules item pass) := by
  induction rules generalizing item pass with
  | nil =>
    rw [renameProperties]
    exact .ok _
  | cons rule rest ih =>
    obtain ⟨first, others⟩ := List.forall_mem_cons.mp grounded
    rw [renameProperties]
    exact (applies rule first item pass).bind fun _ => ih others _ _

theorem Applies.elements (applies : entry.Applies naming depth) {rule : PropertyRule} (grounded : rule.Grounded)
    (items : List Value) : Succeeds (entry.renameElements naming depth rule items) := by
  induction items with
  | nil =>
    rw [renameElements]
    exact .ok _
  | cons value rest ih =>
    cases value with
    | object fields =>
      rw [renameElements]
      exact (applies rule grounded fields {}).bind fun _ => ih.bind fun _ => .ok _
    | _ =>
      rw [renameElements]
      · exact ih.bind fun _ => .ok _
      all_goals simp

theorem Applies.spliced (applies : entry.Applies naming depth) {rules : List PropertyRule}
    (grounded : ∀ rule ∈ rules, rule.Grounded) (items : List Value) :
    Succeeds (entry.renameSpliced naming depth rules items) := by
  induction rules generalizing items with
  | nil =>
    rw [renameSpliced]
    exact .ok _
  | cons rule rest ih =>
    obtain ⟨first, others⟩ := List.forall_mem_cons.mp grounded
    rw [renameSpliced]
    exact (applies.elements first items).bind fun _ => ih others _

theorem Grounded.applies (grounded : entry.Grounded) (naming : Naming) (depth : Nat) :
    entry.Applies naming depth := by
  induction depth with
  | zero =>
    intro rule nested item pass
    rw [renameProperty]
    refine .ite ((rule.moveBelow_succeeds entry.mergePath item).bind fun moved => ?_) ?_
    all_goals
      rw [pure_bind]
      exact (PropertyRule.renameInside_succeeds nested _ _).bind fun item => .ok _
  | succ depth ih =>
    intro rule nested item pass
    rw [renameProperty]
    refine .ite ((rule.moveBelow_succeeds entry.mergePath item).bind fun moved => ?_) ?_
    all_goals
      rw [pure_bind]
      refine (PropertyRule.renameInside_succeeds nested _ _).bind fun item => ?_
      have referenced := grounded.referenced rule.id
      split
      next depth' target same _ =>
        obtain rfl : depth = depth' := Nat.succ.inj same
        refine .ite (.ok _) ?_
        dsimp only
        split
        next items _ =>
          refine (ih.spliced referenced items).bind fun value => ?_
          exact .ite (.ok _) (.ite (.ok _) (.ite (.ok _) (.ok _)))
        next fields _ =>
          refine (ih.properties referenced fields _).bind fun value => ?_
          exact .ite (.ok _) (.ite (.ok _) (.ite (.ok _) (.ok _)))
        next => exact .ite (.ok _) (.ite (.ok _) (.ite (.ok _) (.ok _)))
      next => exact .ok _

end Entry

/-- With such a catalog every object can be renamed. -/
theorem Catalog.Grounded.renameObject {catalog : Catalog} (grounded : catalog.Grounded) (schemaClass : String)
    (item : Fields) (filed : Option String) : Succeeds (catalog.renameObject schemaClass item filed) := by
  unfold Catalog.renameObject
  refine Succeeds.bind (.foldlM (fun entry among state => ?_) _) fun done => .ok _
  have own := grounded entry (List.mem_of_mem_filter among)
  exact (own.applies _ _).properties own.properties state.1 state.2

instance (rule : PropertyRule) : Decidable rule.Grounded :=
  inferInstanceAs (Decidable (∀ nested ∈ rule.transform, _ ∧ _))

theorem Catalog.packaged_grounded : Catalog.packaged.Grounded := by
  have properties : ∀ entry ∈ Catalog.packaged.entries, ∀ rule ∈ entry.properties, rule.Grounded := by
    decide +kernel
  have references : ∀ entry ∈ Catalog.packaged.entries, ∀ reference ∈ entry.references,
      ∀ rule ∈ reference.2, rule.Grounded := by
    decide +kernel
  exact fun entry member => ⟨properties entry member, references entry member⟩

end Reconcile
