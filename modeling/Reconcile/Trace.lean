import Reconcile.Difference.Change
import Reconcile.Log

/-!
Traces of a comparison: the current and the desired configuration and the changes between them, with secrets
blanked out. They are shown to a listener and written to files. Whatever goes wrong with that is only logged.
-/

namespace Reconcile

namespace Trace

def blank : String := "********"

def foldLetter (c : Char) : Char :=
  if c = 'ſ' then 's' else c.toLower

def soundsSecret (key : Key) : Bool :=
  let name := String.ofList (key.display.toList.map foldLetter)
  ["password", "passphrase", "secret"].any fun word => Text.contains word name

mutual

/-- A value with the secrets in it blanked out. Containers stay, whatever their key is. -/
def censored : Value → Value
  | .list items => .list (censoredItems items)
  | .object fields => .object (censoredFields fields)
  | value => value

def censoredItems : List Value → List Value
  | [] => []
  | item :: rest => censored item :: censoredItems rest

def censoredFields : Fields → Fields
  | [] => []
  | (key, value) :: rest =>
    (key, if soundsSecret key && !value.isContainer then .text blank else censored value) :: censoredFields rest

end

structure Shown where
  kind : String
  task : Option String
  payload : Value

/-- What has been traced: everything shown to the listener, and the latest content of each file. -/
structure Book where
  shown : List Shown := []
  files : List (String × Value) := []

structure Tracer where
  task : Option String := none
  writesFiles : Bool := false
  /-- Without its directory no file can be written. -/
  hasDirectory : Bool := true
  hasListener : Bool := false
  /-- What a failing listener complains of. -/
  complaint : Option String := none

def fileName (kind : String) : String :=
  "DO_" ++ kind ++ ".json"

def isWritable (name : String) : Bool :=
  !name.contains '/'

def tell (tracer : Tracer) (kind : String) (payload : Value) (book : Book) : Book × Log :=
  if !tracer.hasListener then (book, [])
  else
    ({ book with shown := book.shown ++ [⟨kind, tracer.task, payload⟩] },
      match tracer.complaint with
      | some complaint =>
        [⟨.warning, Log.forTask tracer.task ("Trace listener failed for " ++ kind ++ ": " ++ complaint)⟩]
      | none => [])

def write (tracer : Tracer) (kind : String) (payload : Value) (book : Book) : Book × Log :=
  if !tracer.writesFiles then (book, [])
  else if tracer.hasDirectory && isWritable (fileName kind) then
    ({ book with files := Assoc.put book.files (fileName kind) payload }, [])
  else (book, [⟨.error, Log.forTask tracer.task "Error writing trace file"⟩])

def publish (tracer : Tracer) (kind : String) (payload : Value) (book : Book) : Book × Log :=
  let (book, shown) := tell tracer kind payload book
  let (book, written) := write tracer kind payload book
  (book, shown ++ written)

def config (tracer : Tracer) (kind : String) (data : Value) (book : Book) : Book × Log :=
  publish tracer kind (censored data) book

def changes (tracer : Tracer) (found : List Change) (book : Book) : Book × Log :=
  publish tracer "diff" (censored (.list (found.map Change.outline))) book

end Trace

end Reconcile
