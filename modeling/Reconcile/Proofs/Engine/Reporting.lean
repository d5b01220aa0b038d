import Reconcile.Proofs.Difference.Summary
import Reconcile.Proofs.Engine.Committing

/-!
Plans report what goes wrong. Whatever the device answers, a plan is made that either succeeds or names the setback;
only a change that cannot be reached by names makes it raise.
-/

namespace Reconcile

/-- Why a plan is not made. -/
inductive Setback where
  | invalid (errors : List String)
  | unparsed (fault : Fault)
  | unread (fault : Fault)
  | uncompared (fault : Fault)

def Setback.text : Setback → String
  | .invalid errors => Stage.validation.opening ++ "; ".intercalate errors
  | .unparsed fault => Stage.parsing.opening ++ fault.message
  | .unread fault => Stage.reading.opening ++ fault.message
  | .uncompared fault => "Diff error: " ++ fault.message

namespace Engine

variable (engine : Engine)

def course (declaration : Value) (device : Device) (state : DeviceState) (baselines : List (String × Value))
    (report : Report) : Except Setback Delta :=
  if !report.valid then .error (.invalid report.errors)
  else match Flattener.flattened { catalog := engine.catalog } declaration with
    | .error fault => .error (.unparsed fault)
    | .ok desired => match (engine.readerOf device false).stateGiven declaration state baselines with
      | .error fault => .error (.unread fault)
      | .ok (_, after) => match engine.comparison.delta (.object desired.body) after.current after.baseline with
        | .error fault => .error (.uncompared fault)
        | .ok delta => .ok delta

/-- A plan that a setback has ended. -/
def Reports (setback : Setback) (plan : Plan) : Prop :=
  plan.success = false ∧ plan.error = some setback.text

/-- A plan that was made from a comparison. -/
def Presents (delta : Delta) (plan : Plan) : Prop :=
  plan.success = true ∧ plan.error = none ∧ plan.delta = some delta ∧ delta.summary = .ok plan.summary

theorem planAfter_reports {start : Plan} (unended : start.success = false ∧ start.error = none)
    (desired : FlatDeclaration) (desk : Desk) :
    match engine.comparison.delta (.object desired.body) desk.state.current desk.state.baseline with
    | .error fault => ∃ plan, (engine.planAfter start desired desk).2 = .ok plan ∧ Reports (.uncompared fault) plan
    | .ok delta =>
      (∃ plan, (engine.planAfter start desired desk).2 = .ok plan ∧ Presents delta plan) ∨
        (∃ change ∈ delta.changes, change.isNamed = false) ∧
          (engine.planAfter start desired desk).2 = .error .wrongKind := by
  have state := (engine.configsTraced_state (.object desired.body) desk).1
  unfold planAfter
  dsimp only
  rw [state]
  cases compared : engine.comparison.delta (.object desired.body) desk.state.current desk.state.baseline with
  | error fault => exact ⟨_, rfl, unended.1, rfl⟩
  | ok delta =>
    dsimp only
    cases named : delta.changes.all Change.isNamed with
    | true =>
      have ⟨summary, written⟩ := delta.succeeds_summary (Comparison.tiered_delta compared) (List.all_eq_true.mp named)
      rw [written]
      exact .inl ⟨_, rfl, rfl, unended.2, rfl, written⟩
    | false =>
      obtain ⟨change, member, unnamed⟩ := List.all_eq_false.mp named
      have nameless : change.isNamed = false := Bool.eq_false_iff.mpr unnamed
      rw [delta.summary_eq_error member nameless]
      exact .inr ⟨⟨change, member, nameless⟩, rfl⟩

/-- With baselines in memory, planning a declaration that can be validated always gets to an end. A setback at
validation, parsing, reading or comparing is reported in the plan, which then does not succeed. Once everything has
been compared the plan succeeds with its summary, unless some change lies behind a key that is no name: the summary
cannot be written then, and that failure alone is raised. -/
theorem plan_reports {desk : Desk} {baselines : List (String × Value)} (inMemory : desk.store = .memory baselines)
    {declaration : Value} {report : Report} (validated : engine.validate declaration = .ok report) (device : Device)
    (transcript : Transcript) :
    ∃ planned outcome, (engine.plan declaration device desk transcript).1 = .ok (planned, outcome) ∧
      match engine.course declaration device desk.state baselines report with
      | .error setback => ∃ plan, outcome = .ok plan ∧ Reports setback plan
      | .ok delta =>
        (∃ plan, outcome = .ok plan ∧ Presents delta plan) ∨
          (∃ change ∈ delta.changes, change.isNamed = false) ∧ outcome = .error .wrongKind := by
  have run : (engine.plan declaration device desk transcript).1 = engine.planGiven declaration device desk baselines :=
    engine.yields_plan inMemory declaration transcript
  rw [run, planGiven, validated, Result.ok_bind, course]
  cases valid : report.valid with
  | false => exact ⟨desk, _, rfl, _, rfl, rfl, rfl⟩
  | true =>
    simp only [Bool.not_true, Bool.false_eq_true, ↓reduceIte]
    cases Flattener.flattened { catalog := engine.catalog } declaration with
    | error fault => exact ⟨desk, _, rfl, _, rfl, rfl, rfl⟩
    | ok desired =>
      dsimp only
      cases (engine.readerOf device false).stateGiven declaration desk.state baselines with
      | error fault => exact ⟨desk, _, rfl, _, rfl, rfl, rfl⟩
      | ok read =>
        obtain ⟨key, after⟩ := read
        have unended : (begun device report desired).success = false ∧ (begun device report desired).error = none :=
          ⟨rfl, rfl⟩
        have ended := engine.planAfter_reports unended desired (deskAfter desk baselines (key, after))
        refine ⟨_, _, rfl, ?_⟩
        dsimp only [deskAfter] at ended ⊢
        cases compared : engine.comparison.delta (.object desired.body) after.current after.baseline with
        | error fault =>
          rw [compared] at ended
          exact ended
        | ok delta =>
          rw [compared] at ended
          exact ended

def endsWith (text : String) : Except Setback Delta → Bool
  | .error setback => setback.text == text
  | .ok _ => false

theorem silent_course :
    let engine : Engine := ⟨.packaged, defaultTruth, none⟩
    (engine.validate bareTenant).passes (fun report =>
      endsWith "Failed to get current state: no answer" (engine.course bareTenant silent {} emptyBaselines report)) =
        true := by
  decide +kernel

/-- The plan for a device that does not answer says so. -/
theorem plan_reports_silent :
    let engine : Engine := ⟨.packaged, defaultTruth, none⟩
    let desk : Desk := { store := .memory emptyBaselines }
    desk.store = .memory emptyBaselines ∧ ∃ report planned plan, engine.validate bareTenant = .ok report ∧
      (engine.plan bareTenant silent desk {}).1 = .ok (planned, .ok plan) ∧ plan.success = false ∧
      plan.error = some "Failed to get current state: no answer" := by
  intro engine desk
  have inMemory : desk.store = .memory emptyBaselines := rfl
  obtain ⟨report, validated, ends⟩ := Result.of_passes silent_course
  obtain ⟨planned, outcome, run, reports⟩ := engine.plan_reports inMemory validated silent {}
  have start : desk.state = {} := rfl
  rw [start] at reports
  cases ended : engine.course bareTenant silent {} emptyBaselines report with
  | error setback =>
    rw [ended] at reports ends
    obtain ⟨plan, rfl, failed, error⟩ := reports
    have text : setback.text = "Failed to get current state: no answer" := beq_iff_eq.mp ends
    exact ⟨inMemory, report, planned, plan, validated, run, failed, text ▸ error⟩
  | ok delta =>
    rw [ended] at ends
    cases ends

def raises : Result (Desk × Result Plan) → Bool
  | .ok (_, .error _) => true
  | _ => false

theorem of_raises {outcome : Result (Desk × Result Plan)} (raised : raises outcome = true) :
    ∃ planned fault, outcome = .ok (planned, .error fault) := by
  unfold raises at raised
  split at raised
  next planned fault => exact ⟨planned, fault, rfl⟩
  next => cases raised

theorem namelessVlan_raises :
    let engine : Engine := ⟨.packaged, defaultTruth, none⟩
    (engine.validate bareTenant).passes (fun _ => raises
      (engine.planGiven bareTenant namelessVlan { store := .memory emptyBaselines } emptyBaselines)) = true := by
  decide +kernel

/-- The plan to delete a VLAN that has no name is not made, and nothing says why. -/
theorem nameless_deletion_raised :
    let engine : Engine := ⟨.packaged, defaultTruth, none⟩
    (∃ report, engine.validate bareTenant = .ok report) ∧ ∃ planned fault,
      (engine.plan bareTenant namelessVlan { store := .memory emptyBaselines } {}).1 =
        .ok (planned, .error fault) := by
  intro engine
  obtain ⟨report, validated, raised⟩ := Result.of_passes namelessVlan_raises
  obtain ⟨planned, fault, ended⟩ := of_raises raised
  have inMemory : ({ store := .memory emptyBaselines } : Desk).store = .memory emptyBaselines := rfl
  exact ⟨⟨report, validated⟩, planned, fault, (engine.yields_plan inMemory bareTenant {}).trans ended⟩

end Engine

end Reconcile
