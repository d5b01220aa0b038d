import Reconcile.Value.Compare

/-!
Values in the order of keys.
-/

namespace Reconcile.Value

def precedes (left right : Value) : Bool :=
  (left.less? right).getD false

def insertByKey (key item : Value) : List (Value × Value) → List (Value × Value)
  | [] => [(key, item)]
  | (other, value) :: rest =>
    if key.precedes other then (key, item) :: (other, value) :: rest
    else (other, value) :: insertByKey key item rest

/-- Items in the order of their keys; items with equal keys keep their order. -/
def sortByKey (items : List (Value × Value)) : List Value :=
  (items.foldl (fun sorted entry => insertByKey entry.1 entry.2 sorted) []).map Prod.snd

def comparable : List Value → Bool
  | [] => true
  | key :: rest => rest.all (fun other => (key.less? other).isSome) && comparable rest

def distinct (values : List Value) : List Value :=
  values.foldl (fun kept value => if value.isAmong kept then kept else kept ++ [value]) []

end Reconcile.Value
