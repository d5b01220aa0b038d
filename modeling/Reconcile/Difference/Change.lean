import Reconcile.Path

/-!
Changes between two documents. Objects are compared field by field; anything else, lists included, is compared as
a whole. Carrying out the changes one after the other turns the first document into the second.
-/

namespace Reconcile

inductive Edit where
  | create (after : Value)
  | modify (before after : Value)
  | delete (before : Value)

structure Change where
  path : Path
  edit : Edit

namespace Change

def isDelete (change : Change) : Bool :=
  match change.edit with
  | .delete _ => true
  | _ => false

def before? (change : Change) : Option Value :=
  match change.edit with
  | .modify before _ | .delete before => some before
  | .create _ => none

def after? (change : Change) : Option Value :=
  match change.edit with
  | .create after | .modify _ after => some after
  | .delete _ => none

mutual

/-- The changes that turn `left` into `right`: deletions and changes in the order of the fields on the left, then
what is new in the order of the fields on the right. -/
def between (path : Path) : Value → Value → List Change
  | .object lefts, .object rights => betweenFields path rights lefts ++ created path lefts rights
  | left, right => if left.strictEq right then [] else [⟨path, .modify left right⟩]

def betweenFields (path : Path) (rights : Fields) : Fields → List Change
  | [] => []
  | (key, left) :: rest =>
    (match Assoc.get? rights key with
      | none => [⟨path ++ [key], .delete left⟩]
      | some right => between (path ++ [key]) left right) ++ betweenFields path rights rest

def created (path : Path) (lefts rights : Fields) : List Change :=
  (rights.filter fun entry => !Assoc.has lefts entry.1).map fun entry => ⟨path ++ [entry.1], .create entry.2⟩

end

def apply (change : Change) (document : Value) : Result Value :=
  match change.after? with
  | some value => change.path.putIn value document
  | none => return (← change.path.eraseIn document).2

def kind (change : Change) : String :=
  match change.edit with
  | .create _ => "create"
  | .modify _ _ => "modify"
  | .delete _ => "delete"

def outline (change : Change) : Value :=
  let head : Fields := [("kind", .text change.kind), ("path", .list (change.path.map Key.toValue))]
  .object (head ++ match change.edit with
    | .create after => [("rhs", after)]
    | .modify before after => [("lhs", before), ("rhs", after)]
    | .delete before => [("lhs", before)])

def ofOutline (document : Value) : Result Change := do
  let fields ← document.fieldsOrFail
  let before := Fields.lookup fields "lhs"
  let after := Fields.lookup fields "rhs"
  let edit ← match Fields.lookup fields "kind" with
    | .text "create" => pure (Edit.create after)
    | .text "modify" => pure (.modify before after)
    | .text "delete" => pure (.delete before)
    | kind => .error (.unknownChange kind.display)
  return ⟨← (← (Fields.lookup fields "path").itemsOrFail).mapM Value.asKey, edit⟩

end Change

end Reconcile
