import Reconcile.Catalog.Basic
import Reconcile.Declaration.Basic

/-!
What is wrong with a declaration, found without asking any device. Errors keep a declaration from being used;
warnings do not.
-/

namespace Reconcile

structure Report where
  valid : Bool
  errors : List String := []
  warnings : List String := []

namespace Report

def outline (report : Report) : Fields :=
  [("valid", .bool report.valid), ("errors", .ofTexts report.errors), ("warnings", .ofTexts report.warnings)]

structure Findings where
  errors : List String := []
  warnings : List String := []
  /-- Where each class of a single object was first declared in this tenant. -/
  seen : List (String × String) := []

namespace Findings

def blame (findings : Findings) (text : String) : Findings :=
  { findings with errors := findings.errors ++ [text] }

def warn (findings : Findings) (text : String) : Findings :=
  { findings with warnings := findings.warnings ++ [text] }

end Findings

mutual

def followPointers (root : Value) (place : String) (findings : Findings) : Value → Result Findings
  | .object fields => followPointerFields root place findings fields
  | .list items => followPointerItems root place findings items
  | .text content =>
    if Text.startsWith "/" content && content ≠ "/" then do
      let target ← Pointer.resolve root content
      return if target.isNull then findings.warn (place ++ ": pointer " ++ content ++ " does not resolve")
        else findings
    else .ok findings
  | _ => .ok findings

def followPointerItems (root : Value) (place : String) (findings : Findings) : List Value → Result Findings
  | [] => .ok findings
  | value :: rest => do followPointerItems root place (← followPointers root place findings value) rest

def followPointerFields (root : Value) (place : String) (findings : Findings) : Fields → Result Findings
  | [] => .ok findings
  | (key, value) :: rest => do
    followPointerFields root place (← followPointers root (place ++ "/" ++ key.display) findings value) rest

end

def checkClass (catalog : Catalog) (place schemaClass : String) (findings : Findings) : Findings :=
  let findings :=
    if schemaClass ∈ catalog.classes then findings
    else findings.warn (place ++ ": unknown class " ++ schemaClass)
  if catalog.isNameless schemaClass then
    match Assoc.get? findings.seen schemaClass with
    | some first => findings.blame (place ++ ": " ++ schemaClass ++ " is already declared at " ++ first)
    | none => { findings with seen := Assoc.put findings.seen schemaClass place }
  else findings

mutual

/-- Checks one member of a tenant; an object that does not say what class it has only groups what it holds. -/
def checkMember (catalog : Catalog) (root : Value) (place : String) (key : Key) (findings : Findings) :
    Value → Result Findings
  | .object fields =>
    let here := place ++ "/" ++ key.display
    if key = "class" then .ok findings
    else match Assoc.get? fields "class" with
      | none => checkMembers catalog root here findings fields
      | some (.text schemaClass) =>
        followPointers root here (checkClass catalog here schemaClass findings) (.object fields)
      | some _ => .ok (findings.blame (here ++ ": class must be a string"))
  | _ => .ok findings

def checkMembers (catalog : Catalog) (root : Value) (place : String) (findings : Findings) :
    Fields → Result Findings
  | [] => .ok findings
  | (key, value) :: rest => do
    checkMembers catalog root place (← checkMember catalog root place key findings value) rest

end

def checkTenants (catalog : Catalog) (declaration : Fields) (findings : Findings) :
    List Key → Result Findings
  | [] => .ok findings
  | tenant :: rest => do
    let members := match Assoc.get? declaration tenant with
      | some (.object members) => members
      | _ => []
    let findings ← checkMembers catalog (.object declaration) tenant.display { findings with seen := [] } members
    checkTenants catalog declaration findings rest

def ofDeclaration (catalog : Catalog) : Value → Result Report
  | .object fields => do
    let given := Fields.lookup fields "class"
    let findings : Findings :=
      if given.spells "Device" then {}
      else Findings.blame {} ("Declaration class must be 'Device', got " ++ given.literal)
    let tenants := Declaration.tenants fields
    let findings := if tenants.isEmpty then findings.blame "Declaration contains no tenants" else findings
    let findings ← checkTenants catalog fields findings tenants
    return ⟨findings.errors.isEmpty, findings.errors, findings.warnings⟩
  | _ => .ok ⟨false, ["Declaration must be an object"], []⟩

def ofChecks (declaration : Value) (warnings : List String) : List (Value → Result Report) → Result Report
  | [] => .ok ⟨true, [], warnings⟩
  | check :: rest => do
    let report ← check declaration
    if report.valid then ofChecks declaration (warnings ++ report.warnings) rest else return report

end Report

end Reconcile
