import Reconcile.Fault

/-!
What a run leaves in the log. Only warnings and errors are kept; they stay when the run fails.
-/

namespace Reconcile

inductive Severity where
  | warning
  | error
deriving DecidableEq

structure LogEntry where
  severity : Severity
  text : String
deriving DecidableEq

/-- Log entries, oldest first. -/
abbrev Log := List LogEntry

abbrev Logged := ExceptT Fault (StateM Log)

namespace Log

def note (severity : Severity) (text : String) : Logged Unit :=
  modify fun log => log ++ [⟨severity, text⟩]

/-- The text with the task it belongs to in front; without a task, or with an empty one, the text alone. -/
def forTask (task : Option String) (text : String) : String :=
  match task with
  | some task => if task = "" then text else "[task " ++ task ++ "] " ++ text
  | none => text

end Log

namespace Logged

def outcome {α : Type} (action : Logged α) : Result α × Log :=
  action.run []

def absorb {α : Type} (done : Result α × Log) : Logged α :=
  fun log => (done.1, log ++ done.2)

def attempt {α : Type} (action : Logged α) : Logged (Result α) :=
  fun log => match action log with
    | (outcome, log) => (.ok outcome, log)

end Logged

instance : MonadLift Result Logged where
  monadLift
    | .ok value => pure value
    | .error fault => throw fault

end Reconcile
