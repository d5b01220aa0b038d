import Reconcile.Fault

/-!
Timing lines: one line for each measured run, in columns that line up.
-/

namespace Reconcile.Timing

structure Run where
  operation : String
  /-- The device it was about; an empty name is none. -/
  device : Option String := none
  /-- What the run failed with. -/
  failure : Option String := none
  /-- Whatever else is worth noting about it. -/
  extra : Fields := []

/-- The text filled up with blanks to a number of characters; a longer one stays as it is. -/
def padded (width : Nat) (text : String) : String :=
  String.ofList (text.toList ++ List.replicate (width - text.toList.length) ' ')

theorem length_padded (width : Nat) (text : String) :
    (padded width text).toList.length = max width text.toList.length := by
  simp [padded]
  omega

def nobody : String :=
  "N/A"

/-- The device of a run: the one named, else that of whatever was run. -/
def deviceOf (named owner : Option String) : Option String :=
  named <|> owner

/-- How a line calls a device. Only text fits into a column; a value that does not count is nobody. -/
def subject (device : Value) : Result String :=
  match device with
  | .text name => .ok (if name = "" then nobody else name)
  | .list _ | .object _ => if device.truthy then .error .wrongKind else .ok nobody
  | device => if device.truthy then .error .unreadableText else .ok nobody

namespace Run

def outcome (run : Run) : String :=
  match run.failure with
  | some text => "FAIL: " ++ text
  | none => "OK"

def notes (run : Run) : List String :=
  run.extra.map fun (key, value) => key.display ++ "=" ++ value.display

def line (run : Run) (elapsed : String) : String :=
  let device := run.device.getD ""
  " | ".intercalate
    ([padded 20 run.operation, padded 15 (if device = "" then nobody else device), elapsed ++ "ms", run.outcome]
      ++ run.notes)

end Run

end Reconcile.Timing
