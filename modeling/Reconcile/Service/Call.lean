import Reconcile.Service.Basic
import Reconcile.Service.Tool
import Reconcile.Timing

/-!
Calls of the service's tools. Whatever goes wrong in a tool becomes its answer.
-/

namespace Reconcile.Service

inductive Reply where
  | document (content : Value)
  | text (content : String)

def argument (arguments : Fields) (parameter : Parameter) : Result Value :=
  match Assoc.get? arguments (.named parameter.name) with
  | some value => .ok value
  | none => .error (.missing parameter.name)

def carryOut (registry : Registry) (tool : Tool) (arguments : Fields) : Served Value := fun service =>
  match tool with
  | .listDevices => return (service, service.devices)
  | .deviceStatus => return (service, do status registry (← argument arguments .device))
  | .validateDeclaration => return (service, do service.validate (← argument arguments .declaration))
  | .parseDeclaration => do
    return (service, .ok (← Observed.logged (service.flatten (← argument arguments .declaration))))
  | .currentConfig => do
    let id ← argument arguments .device
    let interest := (Fields.lookup arguments (.named Parameter.interest.name)).orElse .empty
    currentConfig registry id interest service
  | .planDeclaration => do
    let id ← argument arguments .device
    plan registry id (← argument arguments .declaration) service
  | .inspectDevice => do
    return (service, .ok (← service.inspect registry (← argument arguments .device)))

def answerOf (registry : Registry) (tool : Tool) (arguments : Fields) (service : Service) :
    Service × Reply × Log :=
  let (done, transcript) := (carryOut registry tool arguments service).run {}
  let (service, outcome) := match done with
    | .ok served => served
    | .error fault => (service, .error fault)
  match outcome with
  | .ok content => (service, .document content, transcript.log)
  | .error fault =>
    (service, .text ("Error: " ++ fault.display),
      transcript.log ++ [⟨.error, "Tool " ++ tool.name ++ " failed"⟩])

/-- Calls a tool by its name. The call is timed under the device it names, and fails if that is no name. -/
def call (registry : Registry) (name : String) (arguments : Fields) (service : Service) :
    Service × Result Reply × Log :=
  let (service, reply, log) := match Tool.ofName? name with
    | some tool => answerOf registry tool arguments service
    | none => (service, .text ("Unknown tool: " ++ name), [])
  (service, (Timing.subject (Fields.lookup arguments "device_id")).map fun _ => reply, log)

end Reconcile.Service
