import Reconcile.Catalog.Rule

/-!
Folding a container into the class that an earlier container began.
-/

namespace Reconcile.MergeRule

abbrev Merged := Value × Option Fault

def isOmitted : Value → Bool
  | .null => true
  | .object fields => fields.isEmpty
  | _ => false

def addFields : Fields → Value → Merged
  | [], target => (target, none)
  | (key, value) :: rest, target =>
    match target.mentions key with
    | .error fault => (target, some fault)
    | .ok true => (target, some (.mergeConflict key))
    | .ok false =>
      match target.putOrFail key value with
      | .error fault => (target, some fault)
      | .ok target => addFields rest target

def addAt (key : Key) (value : Value) (fields : Fields) : Fields :=
  let present := Path.inner fields key
  match value with
  | .object added => Assoc.put fields key (.object (Assoc.putAll present added))
  | _ => Assoc.put fields key (.object present)

/-- Carries out a change at the end of a path; steps that are missing or lead to something else become objects. -/
def atPath (change : Key → Fields → Fields) : Path → Fields → Fields
  | [], fields => fields
  | [key], fields => change key fields
  | key :: next :: rest, fields =>
    Assoc.put fields key (.object (atPath change (next :: rest) (Path.inner fields key)))

/-- Folds a value into a target. Without a path, adding takes over the value's properties and replacing puts the
value in the target's place. -/
def fold (merge : MergeRule) (target value : Value) : Merged :=
  if merge.skipWhenOmitted && isOmitted value then (target, none)
  else match merge.path, target with
    | [], _ =>
      if merge.isAdd then
        match (value.orElse .empty).fieldsOrFail with
        | .ok fields => addFields fields target
        | .error fault => (target, some fault)
      else (value, none)
    | path, .object fields =>
      let change := if merge.isAdd then fun key fields => addAt key value fields
        else fun key fields => Assoc.put fields key value
      (.object (atPath change (path.map .named) fields), none)
    | [_], _ => (target, some (if merge.isAdd then .noFields else .wrongKind))
    | _, _ => (target, some .noFields)

end Reconcile.MergeRule
