import Reconcile.Engine.Inspect
import Reconcile.Proofs.Engine.Planning

/-!
Sessions: reads, plans and inspections one after another, of a device that may answer differently each time. What
fails before anything is compared, and what only looks, leaves the desk as it was; what is refused is not even asked.
-/

namespace Reconcile

open Observed

theorem Observed.run_lift {α : Type} (outcome : Result α) (transcript : Transcript) :
    (liftM outcome : Observed α) transcript = (outcome, transcript) := by
  cases outcome <;> rfl

theorem Observed.run_attempt {α : Type} (action : Observed α) (transcript : Transcript) :
    attempt action transcript = (.ok (action transcript).1, (action transcript).2) := rfl

theorem Observed.run_logged {α : Type} (action : Logged α) (transcript : Transcript) :
    logged action transcript =
      ((action transcript.log).1, { transcript with log := (action transcript.log).2 }) := rfl

/-- The stages at which a plan can end before anything is compared. -/
inductive Stage where
  | validation
  | parsing
  | reading
deriving DecidableEq

namespace Stage

def opening : Stage → String
  | .validation => "Validation failed: "
  | .parsing => "Parse error: "
  | .reading => "Failed to get current state: "

def initial : Stage → Char
  | .validation => 'V'
  | .parsing => 'P'
  | .reading => 'F'

theorem head_opening (stage : Stage) (cause : String) :
    (stage.opening ++ cause).toList.head? = some stage.initial := by
  rw [String.toList_append]
  cases stage <;> rfl

theorem initial_inj {stage other : Stage} (same : stage.initial = other.initial) : stage = other := by
  cases stage <;> cases other <;> first | rfl | cases same

theorem opening_ne_diff (stage : Stage) (cause other : String) : stage.opening ++ cause ≠ "Diff error: " ++ other := by
  intro same
  have first := stage.head_opening cause
  rw [same, String.toList_append] at first
  cases stage <;> cases first

end Stage

/-- Whether a plan has ended at a stage, as its error says. -/
def Plan.EndsAt (plan : Plan) (stage : Stage) : Prop :=
  ∃ cause, plan.error = some (stage.opening ++ cause)

theorem Plan.EndsAt.unique {plan : Plan} {stage other : Stage} (ends : plan.EndsAt stage) (again : plan.EndsAt other) :
    stage = other := by
  obtain ⟨cause, error⟩ := ends
  obtain ⟨_, other⟩ := again
  rw [error] at other
  have first := stage.head_opening cause
  rw [Option.some.inj other, Stage.head_opening] at first
  exact (Stage.initial_inj (Option.some.inj first)).symm

/-- What is asked of an engine. Every step has a device of its own, since the same one may answer differently, or not
at all, the next time. -/
inductive Step where
  | read (declaration : Value) (device : Device) (translate : Bool)
  | plan (declaration : Value) (device : Device)
  | inspect (task : String) (device : Device)

inductive Answer where
  | read (outcome : Result Unit)
  | plan (outcome : Result Plan)
  | inspect (outcome : Result Inspection)

namespace Answer

/-- Answers after which nothing may be left: a read that failed, a plan that ended before anything was compared, and
whatever an inspection has found. -/
def Fleeting : Answer → Prop
  | .read outcome => ∃ fault, outcome = .error fault
  | .plan outcome => ∃ plan stage, outcome = .ok plan ∧ plan.EndsAt stage
  | .inspect _ => True

/-- Plans that the declaration alone has ended. -/
def Refusal : Answer → Prop
  | .plan outcome => ∃ plan, outcome = .ok plan ∧ (plan.EndsAt .validation ∨ plan.EndsAt .parsing)
  | _ => False

def error? : Answer → Option String
  | .read (.error fault) => some (Stage.reading.opening ++ fault.message)
  | .plan (.ok made) => made.error
  | _ => none

theorem fleeting_of_error {answer : Answer} (stage : Stage) {cause : String}
    (error : answer.error? = some (stage.opening ++ cause)) : answer.Fleeting := by
  match answer with
  | .read (.error fault) => exact ⟨fault, rfl⟩
  | .plan (.ok made) => exact ⟨made, stage, rfl, cause, error⟩
  | .inspect _ => trivial

end Answer

structure Moment where
  desk : Desk
  transcript : Transcript := {}

structure Performed where
  before : Moment
  answer : Answer
  after : Moment

namespace Engine

variable (engine : Engine)

/-- How a run on a desk ends. One that raises has not got as far as leaving another desk. -/
def settled {α : Type} (before : Moment) : Result (Desk × Result α) × Transcript → Result α × Moment
  | (.ok (desk, outcome), transcript) => (outcome, ⟨desk, transcript⟩)
  | (.error fault, transcript) => (.error fault, { before with transcript })

def perform (before : Moment) : Step → Performed
  | .read declaration device translate =>
    let ended := settled before (engine.read declaration device translate before.desk before.transcript)
    ⟨before, .read ended.1, ended.2⟩
  | .plan declaration device =>
    let ended := settled before (engine.plan declaration device before.desk before.transcript)
    ⟨before, .plan ended.1, ended.2⟩
  | .inspect task device =>
    let ended := engine.inspect task device before.transcript
    ⟨before, .inspect ended.1, { before with transcript := ended.2 }⟩

theorem perform_before (before : Moment) (step : Step) : (engine.perform before step).before = before := by
  cases step <;> rfl

def history : List Step → Moment → List Performed
  | [], _ => []
  | step :: rest, before =>
    let done := engine.perform before step
    done :: history rest done.after

theorem perform_readInto (before : Moment) (declaration : Value) (device : Device) (translate : Bool) :
    let done := engine.perform before (.read declaration device translate)
    match (engine.readerOf device translate).stateFrom declaration before.desk.state before.desk.store with
    | .error fault => done.answer = .read (.error fault) ∧ done.after.desk = before.desk
    | .ok read =>
      done.answer = .read (deskRead before.desk read).2 ∧ done.after.desk = (deskRead before.desk read).1 := by
  have run := engine.yields_readInto declaration device translate before.desk before.transcript
  simp only [perform]
  generalize engine.read declaration device translate before.desk before.transcript = ended at run
  obtain ⟨outcome, transcript⟩ := ended
  dsimp only at run
  subst run
  cases (engine.readerOf device translate).stateFrom declaration before.desk.state before.desk.store with
  | error fault => exact ⟨rfl, rfl⟩
  | ok read => exact ⟨rfl, rfl⟩

theorem perform_read {before : Moment} {baselines : List (String × Value)}
    (inMemory : before.desk.store = .memory baselines) (declaration : Value) (device : Device) (translate : Bool) :
    let done := engine.perform before (.read declaration device translate)
    (∃ fault, done.answer = .read (.error fault) ∧ done.after.desk = before.desk) ∨
      ∃ read, done.answer = .read (.ok ()) ∧ done.after.desk = deskAfter before.desk baselines read := by
  have ended := engine.perform_readInto before declaration device translate
  dsimp only at ended ⊢
  cases given : (engine.readerOf device translate).stateFrom declaration before.desk.state before.desk.store with
  | error fault =>
    rw [given] at ended
    exact .inl ⟨fault, ended⟩
  | ok read =>
    rw [given] at ended
    simp only [deskRead, inMemory] at ended
    exact .inr ⟨read, ended⟩

/-- Whether a declaration is valid and can be made flat, which is when a plan asks the device. -/
def Accepts (declaration : Value) (report : Report) (desired : FlatDeclaration) : Prop :=
  engine.validate declaration = .ok report ∧ report.valid = true ∧
    Flattener.flattened { catalog := engine.catalog } declaration = .ok desired

theorem plan_refused {declaration : Value} (refused : ∀ report desired, ¬engine.Accepts declaration report desired)
    (device : Device) (desk : Desk) (transcript : Transcript) :
    let run := engine.plan declaration device desk transcript
    run.2.queries = transcript.queries ∧ ∀ planned outcome, run.1 = .ok (planned, outcome) → planned = desk := by
  unfold plan
  rw [run_bind, run_lift]
  cases validated : engine.validate declaration with
  | error fault => exact ⟨rfl, fun _ _ run => by cases run⟩
  | ok report =>
    dsimp only
    split
    next => exact ⟨rfl, fun _ _ run => by cases run; rfl⟩
    next valid =>
      have flat := Flattener.yields_flatten { catalog := engine.catalog } desk.state.task declaration transcript.log
      cases flattened : Flattener.flattened { catalog := engine.catalog } declaration with
      | ok desired => exact absurd ⟨validated, by simpa using valid, flattened⟩ (refused report desired)
      | error fault =>
        rw [run_bind, run_attempt, run_logged, flatten, flat, flattened]
        exact ⟨rfl, fun _ _ run => by cases run; rfl⟩

def begun (device : Device) (report : Report) (desired : FlatDeclaration) : Plan where
  device := device.id
  warnings := report.warnings
  tenants := desired.tenants

theorem planGiven_accepted {declaration : Value} {report : Report} {desired : FlatDeclaration}
    (accepts : engine.Accepts declaration report desired) (device : Device) (desk : Desk)
    (baselines : List (String × Value)) :
    engine.planGiven declaration device desk baselines =
      match (engine.readerOf device false).stateGiven declaration desk.state baselines with
      | .error fault =>
        .ok (desk, .ok { begun device report desired with error := some (Stage.reading.opening ++ fault.message) })
      | .ok read => .ok (engine.planAfter (begun device report desired) desired (deskAfter desk baselines read)) := by
  obtain ⟨validated, valid, flattened⟩ := accepts
  rw [planGiven, validated, Result.ok_bind]
  simp only [valid, Bool.not_true, Bool.false_eq_true, ↓reduceIte, flattened]
  cases (engine.readerOf device false).stateGiven declaration desk.state baselines <;> rfl

theorem planAfter_ends {start plan : Plan} (unended : start.error = none) {desired : FlatDeclaration} {desk : Desk}
    (made : (engine.planAfter start desired desk).2 = .ok plan) (stage : Stage) : ¬plan.EndsAt stage := by
  rintro ⟨cause, error⟩
  unfold planAfter at made
  dsimp only at made
  split at made
  next fault _ =>
    cases made
    exact stage.opening_ne_diff cause fault.message (Option.some.inj error).symm
  next delta _ =>
    obtain ⟨summary, _, done⟩ := Result.bind_eq_ok.mp made
    cases done
    rw [unended] at error
    cases error

theorem perform_plan {before : Moment} {baselines : List (String × Value)}
    (inMemory : before.desk.store = .memory baselines) (declaration : Value) (device : Device) :
    let done := engine.perform before (.plan declaration device)
    ∃ outcome, done.answer = .plan outcome ∧
      ((done.after.desk = before.desk ∧ done.after.transcript.queries = before.transcript.queries) ∨
        (done.after.desk = before.desk ∧ ∃ plan, outcome = .ok plan ∧ plan.EndsAt .reading) ∨
        ((∃ later, done.after.desk.store = .memory later) ∧
          ∀ plan, outcome = .ok plan → ∀ stage, ¬plan.EndsAt stage)) := by
  simp only [perform, Answer.plan.injEq, exists_eq_left']
  by_cases accepted : ∃ report desired, engine.Accepts declaration report desired
  · obtain ⟨report, desired, accepts⟩ := accepted
    have yields : (engine.plan declaration device before.desk).Yields _ := engine.yields_plan inMemory declaration
    have run := yields before.transcript
    rw [engine.planGiven_accepted accepts] at run
    generalize engine.plan declaration device before.desk before.transcript = ended at run
    obtain ⟨outcome, transcript⟩ := ended
    dsimp only at run
    cases given : (engine.readerOf device false).stateGiven declaration before.desk.state baselines with
    | error fault =>
      rw [given] at run
      subst run
      exact .inr (.inl ⟨rfl, _, rfl, fault.message, rfl⟩)
    | ok read =>
      rw [given] at run
      subst run
      have kept :=
        (engine.planAfter_desk (begun device report desired) desired (deskAfter before.desk baselines read)).2
      exact .inr (.inr ⟨⟨_, kept⟩, fun plan made => engine.planAfter_ends rfl made⟩)
  · have ⟨quiet, left⟩ := engine.plan_refused (fun report desired accepts => accepted ⟨report, desired, accepts⟩)
      device before.desk before.transcript
    generalize engine.plan declaration device before.desk before.transcript = ended at quiet left
    obtain ⟨outcome, transcript⟩ := ended
    cases outcome with
    | error fault => exact .inl ⟨rfl, quiet⟩
    | ok made => exact .inl ⟨left made.1 made.2 rfl, quiet⟩

theorem perform_inspect (before : Moment) (task : String) (device : Device) :
    (engine.perform before (.inspect task device)).answer.Fleeting ∧
      (engine.perform before (.inspect task device)).after.desk = before.desk := ⟨trivial, rfl⟩

theorem perform_refusal {before : Moment} {declaration : Value} {device : Device} {cause : String}
    (error : (engine.perform before (.plan declaration device)).answer.error? =
      some (Stage.validation.opening ++ cause)) :
    (engine.perform before (.plan declaration device)).answer.Refusal := by
  simp only [perform] at error ⊢
  generalize (settled before (engine.plan declaration device before.desk before.transcript)).1 = outcome at error ⊢
  cases outcome with
  | error fault => cases error
  | ok made => exact ⟨made, rfl, .inl ⟨cause, error⟩⟩

/-- What a step keeps: baselines stay in memory, answers that are fleeting leave the desk, and refusals ask nothing. -/
theorem perform_keeps {before : Moment} {baselines : List (String × Value)}
    (inMemory : before.desk.store = .memory baselines) (step : Step) :
    let done := engine.perform before step
    (∃ later, done.after.desk.store = .memory later) ∧
      (done.answer.Fleeting → done.after.desk = done.before.desk) ∧
      (done.answer.Refusal → done.after.transcript.queries = done.before.transcript.queries) := by
  cases step with
  | read declaration device translate =>
    rcases engine.perform_read inMemory declaration device translate with
      ⟨fault, answer, desk⟩ | ⟨read, answer, desk⟩
    · refine ⟨⟨baselines, by rw [desk, inMemory]⟩, fun _ => desk, ?_⟩
      rw [answer]
      exact False.elim
    · refine ⟨⟨_, by rw [desk]; rfl⟩, ?_, ?_⟩
      · rw [answer]
        rintro ⟨fault, failed⟩
        cases failed
      · rw [answer]
        exact False.elim
  | plan declaration device =>
    obtain ⟨outcome, answer, ⟨desk, quiet⟩ | ⟨desk, plan, made, reading⟩ | ⟨later, unended⟩⟩ :=
      engine.perform_plan inMemory declaration device
    · exact ⟨⟨baselines, by rw [desk, inMemory]⟩, fun _ => desk, fun _ => quiet⟩
    · refine ⟨⟨baselines, by rw [desk, inMemory]⟩, fun _ => desk, ?_⟩
      rw [answer]
      rintro ⟨other, same, ends⟩
      cases made.symm.trans same
      rcases ends with ends | ends <;> cases reading.unique ends
    · refine ⟨later, ?_, ?_⟩
      · rw [answer]
        rintro ⟨plan, stage, made, ends⟩
        exact absurd ends (unended plan made stage)
      · rw [answer]
        rintro ⟨plan, made, ends | ends⟩
        · exact absurd ends (unended plan made _)
        · exact absurd ends (unended plan made _)
  | inspect task device =>
    have desk := (engine.perform_inspect before task device).2
    exact ⟨⟨baselines, by rw [desk, inMemory]⟩, fun _ => desk, False.elim⟩

/-- In every session with baselines in memory, whatever the devices answer, a read that fails, a plan that ends at
validation, at parsing or at reading, and every inspection leave the desk as they found it: what is known of the
device, its baseline and all stored baselines. A plan that ends at validation or at parsing asks nothing. -/
theorem history_untouched {start : Moment} {baselines : List (String × Value)}
    (inMemory : start.desk.store = .memory baselines) (steps : List Step) :
    ∀ done ∈ engine.history steps start,
      (done.answer.Fleeting → done.after.desk = done.before.desk) ∧
        (done.answer.Refusal → done.after.transcript.queries = done.before.transcript.queries) := by
  induction steps generalizing start baselines with
  | nil => exact fun _ member => absurd member List.not_mem_nil
  | cons step rest ih =>
    have ⟨⟨later, stored⟩, fleeting, refusal⟩ := engine.perform_keeps inMemory step
    exact List.forall_mem_cons.mpr ⟨⟨fleeting, refusal⟩, ih stored⟩

def silent : Device :=
  { oneVlan with identity := .error (.unreadable "no answer") }

def interrupted : List Step :=
  [.read bareTenant oneVlan false, .plan .empty oneVlan, .plan bareTenant silent, .read bareTenant silent true,
   .inspect "north" oneVlan]

theorem interrupted_ends :
    (history ⟨.packaged, defaultTruth, none⟩ interrupted ⟨{ store := .memory emptyBaselines }, {}⟩).map
      (fun done => done.answer.error?) =
        [none,
         some (Stage.validation.opening ++
           "Declaration class must be 'Device', got None; Declaration contains no tenants"),
         some (Stage.reading.opening ++ "no answer"), some (Stage.reading.opening ++ "no answer"), none] := by
  decide +kernel

/-- After its first step the session comes to nothing, so the desk stays as the first read has left it. -/
theorem history_untouched_interrupted :
    let engine : Engine := ⟨.packaged, defaultTruth, none⟩
    let start : Moment := ⟨{ store := .memory emptyBaselines }, {}⟩
    start.desk.store = .memory emptyBaselines ∧
      ∃ read refused unread failed inspected,
        engine.history interrupted start = [read, refused, unread, failed, inspected] ∧
        refused.answer.Refusal ∧ unread.answer.Fleeting ∧ failed.answer.Fleeting ∧ inspected.answer.Fleeting ∧
        refused.after.transcript.queries = read.after.transcript.queries ∧
        inspected.after.desk = read.after.desk := by
  intro engine start
  have inMemory : start.desk.store = .memory emptyBaselines := rfl
  have untouched := engine.history_untouched inMemory interrupted
  have ends : (engine.history interrupted start).map (fun done => done.answer.error?) = _ := interrupted_ends
  -- The session has been evaluated; from here on it is only a list of steps.
  clear_value engine start
  simp only [interrupted, history, List.forall_mem_cons, List.map_cons, List.cons.injEq, perform_before]
    at untouched ends ⊢
  obtain ⟨-, refused, unread, failed, inspected, -⟩ := untouched
  obtain ⟨-, invalid, silence, raised, -⟩ := ends
  have refusal := engine.perform_refusal invalid
  have early := Answer.fleeting_of_error .validation invalid
  have unreadable := Answer.fleeting_of_error .reading silence
  have failure := Answer.fleeting_of_error .reading raised
  have look := fun moment => (engine.perform_inspect moment "north" oneVlan).1
  refine ⟨inMemory, _, _, _, _, _, ⟨rfl, rfl, rfl, rfl, rfl, trivial⟩, refusal, unreadable, failure, look _,
    refused.2 refusal, ?_⟩
  exact (inspected.1 (look _)).trans ((failed.1 failure).trans ((unread.1 unreadable).trans (refused.1 early)))

end Engine

end Reconcile
