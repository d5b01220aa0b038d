/-!
How much is logged, by the name of the least severe level that is.
-/

namespace Reconcile

inductive LogLevel where
  | all
  | debug
  | info
  | warning
  | error
  | critical
deriving DecidableEq

namespace LogLevel

def rank : LogLevel → Nat
  | .all => 0
  | .debug => 10
  | .info => 20
  | .warning => 30
  | .error => 40
  | .critical => 50

def names : List (String × LogLevel) :=
  [("NOTSET", .all), ("DEBUG", .debug), ("INFO", .info), ("WARN", .warning), ("WARNING", .warning),
   ("ERROR", .error), ("CRITICAL", .critical), ("FATAL", .critical)]

/-- Capitals; besides the basic letters the dotless i and the long s have a basic one. -/
def capital (c : Char) : Char :=
  if c = 'ı' then 'I' else if c = 'ſ' then 'S' else c.toUpper

def ofName (name : String) : LogLevel :=
  (names.lookup (String.ofList (name.toList.map capital))).getD .info

end LogLevel

end Reconcile
