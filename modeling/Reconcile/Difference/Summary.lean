import Reconcile.Difference.Delta

/-!
Changes as a text for people.
-/

namespace Reconcile.Summary

def shortened (value : Value) : String :=
  let letters := value.literal.toList
  if letters.length ≤ 60 then String.ofList letters else String.ofList (letters.take 57) ++ "..."

/-- A path for people; every step of it needs a name. -/
def place (path : Path) : Result String := do
  let names ← path.mapM fun
    | .named name => .ok name
    | _ => Except.error Fault.wrongKind
  return "/".intercalate names

def linesOf (change : Change) : Result (List String) := do
  let place ← place change.path
  match change.edit with
  | .create after =>
    let line := "  [+] Create " ++ place
    return if after.isObject then [line] else [line, "      Value: " ++ shortened after]
  | .delete _ => return ["  [-] Delete " ++ place]
  | .modify before after =>
    return ["  [~] Modify " ++ place, "      " ++ shortened before ++ " -> " ++ shortened after]

def deletionsOf (place : String) (names : Value) : Result (List String) := do
  return (← names.itemsOrFail).map fun name => place ++ "/" ++ name.display

def deletions (toDelete : Fields) : Result (List String) := do
  let groups ← toDelete.mapM fun (tenant, classes) => do
    let groups ← (← classes.fieldsOrFail).mapM fun (schemaClass, names) =>
      deletionsOf (tenant.display ++ "/" ++ schemaClass.display) names
    return groups.flatten
  return groups.flatten

def ofChanges (changes : List Change) (toDelete : Fields) : Result String := do
  if changes.isEmpty then return "No changes needed - current state matches desired state"
  let lines ← changes.mapM linesOf
  let gone ← deletions toDelete
  let tail := if gone.isEmpty then [] else ["", "Objects to delete: " ++ ", ".intercalate gone]
  return "\n".intercalate
    (["Changes to apply (" ++ toString changes.length ++ " total):", ""] ++ lines.flatten ++ tail)

end Reconcile.Summary

namespace Reconcile

def Delta.summary (delta : Delta) : Result String :=
  Summary.ofChanges delta.changes delta.toDelete

end Reconcile
