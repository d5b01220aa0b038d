import Reconcile.Difference.Summary
import Reconcile.Engine.Basic

/-!
Plans: what applying a declaration to a device would change. A plan that cannot be made says why; nothing is ever
written to the device.
-/

namespace Reconcile

structure Plan where
  device : String
  success : Bool := false
  tenants : List Key := []
  delta : Option Delta := none
  summary : String := ""
  warnings : List String := []
  error : Option String := none

def Plan.outline (plan : Plan) : Value :=
  .object [
    ("success", .bool plan.success),
    ("device_id", .text plan.device),
    ("tenants", .list (plan.tenants.map Key.toValue)),
    ("diff", (plan.delta.map Delta.outline).getD .null),
    ("summary", .text plan.summary),
    ("warnings", .ofTexts plan.warnings),
    ("error", .ofText? plan.error)]

namespace Engine

def kept (desk : Desk) (traced : Trace.Book × Log) : Observed Desk := do
  Observed.logged (Logged.absorb (.ok (), traced.2))
  return { desk with book := traced.1 }

def traceConfigs (engine : Engine) (desired : Value) (desk : Desk) : Observed Desk :=
  match engine.tracer with
  | none => return desk
  | some tracer => do
    let desk ← kept desk (Trace.config tracer "current" desk.state.current desk.book)
    kept desk (Trace.config tracer "desired" desired desk.book)

def traceChanges (engine : Engine) (changes : List Change) (desk : Desk) : Observed Desk :=
  match engine.tracer with
  | none => return desk
  | some tracer => kept desk (Trace.changes tracer changes desk.book)

def comparison (engine : Engine) : Comparison where
  truth := engine.truth
  nameless := engine.catalog.unnamedClasses

def planFrom (engine : Engine) (plan : Plan) (desired : FlatDeclaration) (desk : Desk) :
    Observed (Desk × Result Plan) := do
  let desk ← engine.traceConfigs (.object desired.body) desk
  match engine.comparison.delta (.object desired.body) desk.state.current desk.state.baseline with
  | .error fault => return (desk, .ok { plan with error := some ("Diff error: " ++ fault.message) })
  | .ok delta => do
    let desk ← engine.traceChanges delta.changes desk
    return (desk, do return { plan with delta := some delta, summary := ← delta.summary, success := true })

def plan (engine : Engine) (declaration : Value) (device : Device) (desk : Desk) : Observed (Desk × Result Plan) := do
  let start : Plan := { device := device.id }
  let report ← engine.validate declaration
  if !report.valid then
    return (desk, .ok { start with error := some ("Validation failed: " ++ "; ".intercalate report.errors) })
  let plan := { start with warnings := report.warnings }
  match ← Observed.attempt (Observed.logged (engine.flatten desk.state.task declaration)) with
  | .error fault => return (desk, .ok { plan with error := some ("Parse error: " ++ fault.message) })
  | .ok desired => do
    let plan := { plan with tenants := desired.tenants }
    let failed (fault : Fault) : Plan :=
      { plan with error := some ("Failed to get current state: " ++ fault.message) }
    match ← Observed.attempt (engine.read declaration device false desk) with
    | .error fault => return (desk, .ok (failed fault))
    | .ok (desk, .error fault) => return (desk, .ok (failed fault))
    | .ok (desk, .ok ()) => engine.planFrom plan desired desk

end Engine

end Reconcile
