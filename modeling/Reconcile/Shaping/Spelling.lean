import Reconcile.Fault
import Reconcile.Text.Lower

/-!
Device spellings of single properties that follow no general rule: load balancing objects that say in several ways
whether they are enabled, monitors in one text, allowed services, and the free text of secure shell options.
-/

namespace Reconcile.Shaping

/-- Whether a load balancing object is enabled. Truth values decide before texts, and `enabled` before
`disabled`; an object that says nothing is enabled. -/
def isEnabled (fields : Fields) : Bool :=
  match fields.lookup "enabled", fields.lookup "disabled" with
  | .bool enabled, _ => enabled
  | _, .bool disabled => !disabled
  | .text enabled, _ => Text.lower enabled = "true"
  | _, .text disabled => Text.lower disabled = "false"
  | _, _ => true

def settleEnabled (fields : Fields) : Fields :=
  Assoc.erase (Assoc.put fields "enabled" (.bool (isEnabled fields))) "disabled"

def monitorList : Value → Result Value
  | .list monitors => .ok (.list monitors)
  | .text monitors => .ok (if monitors = "" then .list [] else .ofTexts (Text.cut " and " monitors))
  | monitors => if monitors.truthy then .error .noFields else .ok (.list [])

/-- The device leaves out that no service is allowed, and puts the default alone into a list. -/
def allowedService : Value → Value
  | .null | .text "" => .text "none"
  | .list [service] => if service.spells "default" then .text "default" else .list [service]
  | services => services

def spelledInteger (content : String) : Result Value := do
  return .int (← Text.integerOrFail content.toList)

def shellOption (options : Fields) (line : String) : Result Fields :=
  match Text.cut " " line with
  | name :: value :: _ =>
    match name with
    | "Ciphers" => .ok (Assoc.put options "ciphers" (.ofTexts (Text.cut "," value)))
    | "MACs" => .ok (Assoc.put options "MACS" (.ofTexts (Text.cut "," value)))
    | "LoginGraceTime" => return Assoc.put options "loginGraceTime" (← spelledInteger value)
    | "MaxAuthTries" => return Assoc.put options "maxAuthTries" (← spelledInteger value)
    | "MaxStartups" => .ok (Assoc.put options "maxStartups" (.text value))
    | "Protocol" => return Assoc.put options "protocol" (← spelledInteger value)
    | _ => .ok options
  | _ => .ok options

def shellOptions : Value → Result Fields
  | .text content => (Text.cut "\n" content).foldlM shellOption []
  | _ => .error .noFields

end Reconcile.Shaping
