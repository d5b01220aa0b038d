import Reconcile.Engine.Plan
import Reconcile.Proofs.Observation.Reading

/-!
Planning is idempotent: when a plan succeeds, planning the same declaration for the same device again makes the same
plan and leaves the state and the baselines as they are.
-/

namespace Reconcile

open Observed

def Flattener.flattened (flattener : Flattener) : Value → Result FlatDeclaration
  | .object fields =>
    flattener.flattenTenants fields (Declaration.tenants fields) >>= fun body => .ok ⟨Declaration.tenants fields, body⟩
  | _ => .error .declarationShape

theorem Flattener.yields_flatten (flattener : Flattener) (task : Option String) (declaration : Value) :
    (flattener.flatten task declaration).Yields (flattener.flattened declaration) := by
  intro log
  cases declaration with
  | object fields =>
    unfold flatten flattened
    dsimp only
    cases flattener.flattenTenants fields (Declaration.tenants fields) <;> rfl
  | _ => rfl

namespace Engine

variable (engine : Engine)

def configsTraced (desired : Value) (desk : Desk) : Desk :=
  match engine.tracer with
  | none => desk
  | some tracer =>
    let desk := { desk with book := (Trace.config tracer "current" desk.state.current desk.book).1 }
    { desk with book := (Trace.config tracer "desired" desired desk.book).1 }

def changesTraced (changes : List Change) (desk : Desk) : Desk :=
  match engine.tracer with
  | none => desk
  | some tracer => { desk with book := (Trace.changes tracer changes desk.book).1 }

theorem configsTraced_state (desired : Value) (desk : Desk) :
    (engine.configsTraced desired desk).state = desk.state ∧
      (engine.configsTraced desired desk).store = desk.store := by
  unfold configsTraced
  cases engine.tracer <;> exact ⟨rfl, rfl⟩

theorem changesTraced_state (changes : List Change) (desk : Desk) :
    (engine.changesTraced changes desk).state = desk.state ∧
      (engine.changesTraced changes desk).store = desk.store := by
  unfold changesTraced
  cases engine.tracer <;> exact ⟨rfl, rfl⟩

theorem yields_kept (desk : Desk) (traced : Trace.Book × Log) :
    (kept desk traced).Yields (.ok { desk with book := traced.1 }) := fun _ => rfl

theorem yields_traceConfigs (desired : Value) (desk : Desk) :
    (engine.traceConfigs desired desk).Yields (.ok (engine.configsTraced desired desk)) := by
  unfold traceConfigs configsTraced
  cases engine.tracer with
  | none => exact yields_pure desk
  | some tracer => exact fun _ => rfl

theorem yields_traceChanges (changes : List Change) (desk : Desk) :
    (engine.traceChanges changes desk).Yields (.ok (engine.changesTraced changes desk)) := by
  unfold traceChanges changesTraced
  cases engine.tracer with
  | none => exact yields_pure desk
  | some tracer => exact yields_kept _ _

def planAfter (plan : Plan) (desired : FlatDeclaration) (desk : Desk) : Desk × Result Plan :=
  let desk := engine.configsTraced (.object desired.body) desk
  match engine.comparison.delta (.object desired.body) desk.state.current desk.state.baseline with
  | .error fault => (desk, .ok { plan with error := some ("Diff error: " ++ fault.message) })
  | .ok delta => (engine.changesTraced delta.changes desk,
      do return { plan with delta := some delta, summary := ← delta.summary, success := true })

theorem yields_planFrom (plan : Plan) (desired : FlatDeclaration) (desk : Desk) :
    (engine.planFrom plan desired desk).Yields (.ok (engine.planAfter plan desired desk)) := by
  unfold planFrom planAfter
  refine (engine.yields_traceConfigs (.object desired.body) desk).bind_ok ?_
  generalize engine.configsTraced (.object desired.body) desk = desk
  dsimp only
  cases engine.comparison.delta (.object desired.body) desk.state.current desk.state.baseline with
  | error fault => exact yields_pure _
  | ok delta => exact (engine.yields_traceChanges delta.changes desk).bind_ok (yields_pure _)

def readerOf (device : Device) (translate : Bool) : DeviceReader where
  catalog := engine.catalog
  device := device
  translate := translate

def deskRead (desk : Desk) (read : String × DeviceState) : Desk × Result Unit :=
  match desk.store.set read.1 read.2.baseline with
  | .ok store => ({ desk with state := read.2, store }, .ok ())
  | .error fault => ({ desk with state := read.2 }, .error fault)

theorem yields_readInto (declaration : Value) (device : Device) (translate : Bool) (desk : Desk) :
    (engine.read declaration device translate desk).Yields
      ((engine.readerOf device translate).stateFrom declaration desk.state desk.store >>= fun read =>
        .ok (deskRead desk read)) := by
  have run := (engine.readerOf device translate).yields_readFrom declaration desk.state desk.store
  unfold read
  cases given : (engine.readerOf device translate).stateFrom declaration desk.state desk.store with
  | error fault =>
    rw [given] at run
    exact run.bind_error _
  | ok read =>
    rw [given] at run
    refine run.bind_ok ?_
    rw [Result.ok_bind, deskRead]
    cases desk.store.set read.1 read.2.baseline <;> exact yields_pure _

def deskAfter (desk : Desk) (baselines : List (String × Value)) (read : String × DeviceState) : Desk :=
  { desk with state := read.2, store := .memory (Assoc.put baselines read.1 read.2.baseline) }

theorem yields_readOf (device : Device) (translate : Bool) {desk : Desk} {baselines : List (String × Value)}
    (inMemory : desk.store = .memory baselines) (declaration : Value) :
    (engine.read declaration device translate desk).Yields
      ((engine.readerOf device translate).stateGiven declaration desk.state baselines >>= fun read =>
        .ok (deskAfter desk baselines read, .ok ())) := by
  have run := engine.yields_readInto declaration device translate desk
  have recorded : deskRead desk = fun read => (deskAfter desk baselines read, .ok ()) := by
    funext read
    rw [deskRead, inMemory]
    rfl
  rw [recorded, inMemory] at run
  exact run

def planGiven (declaration : Value) (device : Device) (desk : Desk) (baselines : List (String × Value)) :
    Result (Desk × Result Plan) := do
  let start : Plan := { device := device.id }
  let report ← engine.validate declaration
  if !report.valid then
    return (desk, .ok { start with error := some ("Validation failed: " ++ "; ".intercalate report.errors) })
  let plan := { start with warnings := report.warnings }
  match Flattener.flattened { catalog := engine.catalog } declaration with
  | .error fault => return (desk, .ok { plan with error := some ("Parse error: " ++ fault.message) })
  | .ok desired =>
    let plan := { plan with tenants := desired.tenants }
    match (engine.readerOf device false).stateGiven declaration desk.state baselines with
    | .error fault =>
      return (desk, .ok { plan with error := some ("Failed to get current state: " ++ fault.message) })
    | .ok read => return engine.planAfter plan desired (deskAfter desk baselines read)

theorem yields_plan {device : Device} {desk : Desk} {baselines : List (String × Value)}
    (inMemory : desk.store = .memory baselines) (declaration : Value) :
    (engine.plan declaration device desk).Yields (engine.planGiven declaration device desk baselines) := by
  unfold plan planGiven
  refine (yields_lift (engine.validate declaration)).bind fun report => ?_
  split
  next => exact yields_pure _
  next =>
    have flat := yields_logged (Flattener.yields_flatten { catalog := engine.catalog } desk.state.task declaration)
    refine flat.bind_attempt ?_
    cases Flattener.flattened { catalog := engine.catalog } declaration with
    | error fault => exact yields_pure _
    | ok desired =>
      refine (engine.yields_readOf device false inMemory declaration).bind_attempt ?_
      cases (engine.readerOf device false).stateGiven declaration desk.state baselines with
      | error fault => exact yields_pure _
      | ok read => exact engine.yields_planFrom _ desired _

/-- A plan succeeds only if the declaration can be flattened and the device be read. Any other read, of whatever state,
leads on in the same way. -/
theorem planGiven_success {declaration : Value} {device : Device} {desk planned : Desk}
    {baselines : List (String × Value)} {plan : Plan}
    (run : engine.planGiven declaration device desk baselines = .ok (planned, .ok plan))
    (success : plan.success = true) :
    ∃ start desired read,
      Flattener.flattened { catalog := engine.catalog } declaration = .ok desired ∧ start.tenants = desired.tenants ∧
      (engine.readerOf device false).stateGiven declaration desk.state baselines = .ok read ∧
      engine.planAfter start desired (deskAfter desk baselines read) = (planned, .ok plan) ∧
      ∀ (desk : Desk) (baselines : List (String × Value)) (read : String × DeviceState),
        (engine.readerOf device false).stateGiven declaration desk.state baselines = .ok read →
        engine.planGiven declaration device desk baselines =
          .ok (engine.planAfter start desired (deskAfter desk baselines read)) := by
  obtain ⟨report, validated, rest⟩ := Result.bind_eq_ok.mp run
  cases valid : report.valid with
  | false =>
    rw [valid] at rest
    cases rest
    cases success
  | true =>
    simp only [valid, Bool.not_true, Bool.false_eq_true, ↓reduceIte] at rest
    cases flattened : Flattener.flattened { catalog := engine.catalog } declaration with
    | error fault =>
      rw [flattened] at rest
      cases rest
      cases success
    | ok desired =>
      rw [flattened] at rest
      dsimp only at rest
      cases given : (engine.readerOf device false).stateGiven declaration desk.state baselines with
      | error fault =>
        rw [given] at rest
        cases rest
        cases success
      | ok read =>
        rw [given] at rest
        refine ⟨_, desired, read, rfl, rfl, rfl, Except.ok.inj rest, ?_⟩
        intro desk baselines read given
        rw [planGiven, validated, Result.ok_bind]
        simp only [valid, Bool.not_true, Bool.false_eq_true, ↓reduceIte, flattened, given]
        rfl

theorem planAfter_desk (plan : Plan) (desired : FlatDeclaration) (desk : Desk) :
    (engine.planAfter plan desired desk).1.state = desk.state ∧
      (engine.planAfter plan desired desk).1.store = desk.store := by
  have ⟨state, store⟩ := engine.configsTraced_state (.object desired.body) desk
  unfold planAfter
  dsimp only
  split
  next => exact ⟨state, store⟩
  next delta _ =>
    have ⟨stateAfter, storeAfter⟩ :=
      engine.changesTraced_state delta.changes (engine.configsTraced (.object desired.body) desk)
    exact ⟨stateAfter.trans state, storeAfter.trans store⟩

theorem planAfter_plan (plan : Plan) (desired : FlatDeclaration) {desk other : Desk} (same : desk.state = other.state) :
    (engine.planAfter plan desired desk).2 = (engine.planAfter plan desired other).2 := by
  have left := (engine.configsTraced_state (.object desired.body) desk).1
  have right := (engine.configsTraced_state (.object desired.body) other).1
  unfold planAfter
  dsimp only
  rw [left, right, same]
  cases engine.comparison.delta (.object desired.body) other.state.current other.state.baseline <;> rfl

/-- When a plan with the packaged catalog and baselines in memory succeeds for an orderly device, planning the same
declaration again makes an equal plan. It leaves the state of the device, what it is known to have and its baseline,
and all stored baselines exactly as the first plan left them. -/
theorem plan_again (truth : List String) (tracer : Option Trace.Tracer) {device : Device} (orderly : device.Orderly)
    {declaration : Value} {desk planned : Desk} {baselines : List (String × Value)}
    (inMemory : desk.store = .memory baselines) {plan : Plan} {transcript : Transcript}
    (run : (Engine.plan ⟨.packaged, truth, tracer⟩ declaration device desk transcript).1 = .ok (planned, .ok plan))
    (success : plan.success = true) (later : Transcript) :
    ∃ again, (Engine.plan ⟨.packaged, truth, tracer⟩ declaration device planned later).1 = .ok (again, .ok plan) ∧
      again.state = planned.state ∧ again.store = planned.store := by
  generalize made : (⟨.packaged, truth, tracer⟩ : Engine) = engine at *
  have packaged : (engine.readerOf device false).catalog = .packaged := made ▸ rfl
  rw [engine.yields_plan inMemory declaration transcript] at run
  obtain ⟨start, desired, ⟨key, after⟩, _, _, read, ended, leadsOn⟩ := engine.planGiven_success run success
  -- The state and the baseline that the first read leaves are a fixed point of reading.
  have readAgain := DeviceReader.stateGiven_again packaged rfl orderly read
  have ⟨sameState, sameStore⟩ := engine.planAfter_desk start desired (deskAfter desk baselines (key, after))
  rw [ended] at sameState sameStore
  have stored : Assoc.put (Assoc.put baselines key after.baseline) key after.baseline =
      Assoc.put baselines key after.baseline := Assoc.put_eq_self (Assoc.get?_put_self ..)
  have readNext : (engine.readerOf device false).stateGiven declaration planned.state
      (Assoc.put baselines key after.baseline) = .ok (key, after) := by
    rw [sameState]
    exact readAgain
  have ⟨stateAgain, storeAgain⟩ := engine.planAfter_desk start desired
    (deskAfter planned (Assoc.put baselines key after.baseline) (key, after))
  have planAgain := engine.planAfter_plan start desired
    (show (deskAfter desk baselines (key, after)).state =
      (deskAfter planned (Assoc.put baselines key after.baseline) (key, after)).state from rfl)
  rw [ended] at planAgain
  refine ⟨_, ?_, stateAgain.trans sameState.symm, ?_⟩
  · rw [engine.yields_plan sameStore declaration later, leadsOn planned _ _ readNext]
    exact congrArg Except.ok (Prod.ext rfl planAgain.symm)
  · rw [storeAgain, sameStore]
    simp only [deskAfter, stored]

def oneVlan : Device where
  id := "north"
  identity := .ok { hostname := .text "north.example" }
  answer query := .ok (.list (
    if query.select = Device.nameQuery.select then
      [.object [("name", .text "north"), ("hostname", .text "north.example")]]
    else if query.select.contains "tag" then [.object [("name", .text "wire"), ("tag", .int 7)]]
    else []))

theorem oneVlan_orderly : oneVlan.Orderly where
  proper := by
    intro query value answered
    cases answered
    split
    next => decide
    next => split <;> decide
  settings := by
    intro query fields _ answered
    cases answered

def bareTenant : Value :=
  .object [("class", .text "Device"), ("Common", .object [("class", .text "Tenant")])]

def emptyBaselines : List (String × Value) :=
  [("north", .object [("Common", .object [("VLAN", .empty)])])]

def plansDeletion (path : Path) : Result (Desk × Result Plan) → Bool
  | .ok (_, .ok plan) => plan.success && plan.delta.any fun delta => (Path.get? path (.object delta.toDelete)).isSome
  | _ => false

theorem of_plansDeletion {path : Path} {outcome : Result (Desk × Result Plan)}
    (deletes : plansDeletion path outcome = true) :
    ∃ planned plan, outcome = .ok (planned, .ok plan) ∧ plan.success = true ∧
      (plan.delta.any fun delta => (Path.get? path (.object delta.toDelete)).isSome) = true := by
  unfold plansDeletion at deletes
  split at deletes
  next planned plan => exact ⟨planned, plan, rfl, Bool.and_eq_true_iff.mp deletes⟩
  next => cases deletes

theorem oneVlan_deleted : plansDeletion ["Common", "VLAN", "wire"]
    (planGiven ⟨.packaged, defaultTruth, none⟩ bareTenant oneVlan { store := .memory emptyBaselines } emptyBaselines) =
      true := by
  decide +kernel

/-- The VLAN is newer than the baseline and not declared, so the plan is to delete it, and it still is when the plan is
made again. -/
theorem plan_again_vlan :
    let engine : Engine := ⟨.packaged, defaultTruth, none⟩
    ∃ planned plan again,
      (engine.plan bareTenant oneVlan { store := .memory emptyBaselines } {}).1 = .ok (planned, .ok plan) ∧
      plan.success = true ∧
      (plan.delta.any fun delta => (Path.get? ["Common", "VLAN", "wire"] (.object delta.toDelete)).isSome) = true ∧
      (engine.plan bareTenant oneVlan planned {}).1 = .ok (again, .ok plan) ∧
      again.state = planned.state ∧ again.store = planned.store := by
  intro engine
  have inMemory : ({ store := .memory emptyBaselines } : Desk).store = .memory emptyBaselines := rfl
  obtain ⟨planned, plan, made, success, deletes⟩ := of_plansDeletion oneVlan_deleted
  have run : (engine.plan bareTenant oneVlan { store := .memory emptyBaselines } {}).1 = .ok (planned, .ok plan) :=
    (engine.yields_plan inMemory bareTenant {}).trans made
  obtain ⟨again, runAgain, sameState, sameStore⟩ :=
    plan_again defaultTruth none oneVlan_orderly inMemory run success {}
  exact ⟨planned, plan, again, run, success, deletes, runAgain, sameState, sameStore⟩

end Engine

end Reconcile
