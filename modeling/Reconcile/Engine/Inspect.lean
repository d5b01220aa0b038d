import Reconcile.Engine.Basic
import Reconcile.Inspection.Rebuild

/-!
Inspecting a device: its configuration as a declaration that would bring it about. Inspecting never touches the
baselines that plans rely on.
-/

namespace Reconcile.Engine

def unverified : String :=
  "Unable to verify declaration from existing state."

def verified (engine : Engine) (inspection : Inspection) : Result Inspection := do
  let report ← engine.validate (.object inspection.declaration)
  let inspection :=
    if report.valid then inspection
    else { inspection with valid := false, errors := inspection.errors ++ report.errors }
  return if inspection.valid then inspection else { inspection with errors := inspection.errors ++ [unverified] }

def inspect (engine : Engine) (task : String) (device : Device) : Observed Inspection := do
  let failed (fault : Fault) : Inspection :=
    { valid := false, errors := ["Failed to get current state: " ++ fault.message] }
  let desk : Desk := { state := { task := some task } }
  match ← Observed.attempt (engine.read .empty device true desk) with
  | .error fault => return failed fault
  | .ok (_, .error fault) => return failed fault
  | .ok (desk, .ok ()) => do
    let inspection ← Observed.logged (Rebuild.declaration engine.catalog currentVersion desk.state.current)
    engine.verified inspection

end Reconcile.Engine
