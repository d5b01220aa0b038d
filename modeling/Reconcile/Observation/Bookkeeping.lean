import Reconcile.Pattern.Reader
import Reconcile.Value.Literal
import Reconcile.Fault

/-!
What a device sends beside its configuration: bookkeeping fields, which are dropped at every depth, and items that
an entry wants ignored.
-/

namespace Reconcile.Observation

def isBookkeeping (nameless : Bool) : Key → Bool
  | .named name =>
    name = "kind" || name = "selfLink" || Text.endsWith "Reference" name || (nameless && name = "name")
  | _ => false

mutual

def strip (nameless : Bool) : Value → Value
  | .list items => .list (stripItems nameless items)
  | .object fields => .object (stripFields nameless fields)
  | value => value

def stripItems (nameless : Bool) : List Value → List Value
  | [] => []
  | item :: rest => strip nameless item :: stripItems nameless rest

def stripFields (nameless : Bool) : Fields → Fields
  | [] => []
  | (key, value) :: rest =>
    if isBookkeeping nameless key then stripFields nameless rest
    else (key, strip nameless value) :: stripFields nameless rest

end

/-- Whether the pattern occurs in the text of a value; null has no text. -/
def patternMatches (pattern : String) : Value → Bool
  | .null => false
  | value => ((Pattern.ofText? pattern).map fun pattern => pattern.occursIn value.display).getD false

def isIgnored (rules : List (Key × String)) (item : Value) : Result Bool :=
  if rules.isEmpty then .ok false
  else do
    let fields ← item.fieldsOrFail
    return rules.any fun rule => patternMatches rule.2 (fields.lookup rule.1)

end Reconcile.Observation
