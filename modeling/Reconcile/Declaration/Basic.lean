import Reconcile.Path

/-!
Declarations as they are submitted: an object whose members of class Tenant hold the configuration. Texts that
begin with a slash may point at other texts of the same declaration.
-/

namespace Reconcile.Declaration

def ownKeys : List Key :=
  ["class", "schemaVersion"]

def tenants (declaration : Fields) : List Key :=
  (declaration.filter fun (key, value) =>
    !ownKeys.contains key &&
      match value with
      | .object fields => (Fields.lookup fields "class").spells "Tenant"
      | _ => false).map Prod.fst

/-- What a text stands for: the text it points at, or itself. -/
def resolveText (root : Value) (content : String) : Result Value := do
  if Text.startsWith "/" content then
    match ← Pointer.resolve root content with
    | .text target => if target = content then .error (.selfPointer content) else return .text target
    | _ => return .text content
  else return .text content

mutual

def resolveTexts (root : Value) : Value → Result Value
  | .text content => resolveText root content
  | .list items => return .list (← resolveItems root items)
  | .object fields => return .object (← resolveFields root fields)
  | value => .ok value

def resolveItems (root : Value) : List Value → Result (List Value)
  | [] => .ok []
  | value :: rest => do
    let value ← resolveTexts root value
    return value :: (← resolveItems root rest)

def resolveFields (root : Value) : Fields → Result Fields
  | [] => .ok []
  | (key, value) :: rest => do
    let value ← resolveTexts root value
    return (key, value) :: (← resolveFields root rest)

end

end Reconcile.Declaration
