import Reconcile.Baseline.Record
import Reconcile.Catalog.Reading
import Reconcile.Log

/-!
Where baselines are kept, by the machine they belong to: in memory for as long as the program runs, or one file
for each machine.
-/

namespace Reconcile

/-- The content of a file: a document, or something that is none. -/
inductive StoredFile where
  | document (content : Value)
  | damaged

inductive BaselineStore where
  | memory (baselines : List (String × Value))
  | files (now : Timestamp) (contents : List (String × StoredFile))

namespace BaselineStore

def inMemory : BaselineStore :=
  .memory []

def isFileChar (c : Char) : Bool :=
  c.isAlphanum || c = '_' || c = '.' || c = '-'

/-- The file of a machine; machines whose names differ only in unusual characters share one. -/
def fileName (id : String) : String :=
  String.ofList (id.toList.map fun c => if isFileChar c then c else '_') ++ ".yaml"

def stem (file : String) : String :=
  if file = ".yaml" then file else Text.dropTail ".yaml" file

/-- What is on a file, for one machine. A document that is no record is reported. -/
def readFile (id : String) (content : StoredFile) : Logged Value :=
  let record : Result BaselineRecord := match content with
    | .document document => BaselineRecord.ofDocument id document
    | .damaged => .error .unreadableText
  match record with
  | .error _ => do
    Log.note .error ("Failed to read baseline for " ++ id)
    throw (.unreadableBaseline id)
  | .ok record => do
    if !(← record.isGenuine) then
      Log.note .warning ("Baseline for " ++ id ++ " was modified outside the store")
    return record.config

def get (id : String) : BaselineStore → Logged (Option Value)
  | .memory baselines => return (Assoc.get? baselines id).filter fun config => !config.isNull
  | .files _ contents =>
    match Assoc.get? contents (fileName id) with
    | some content => some <$> readFile id content
    | none => return none

def set (id : String) (config : Value) : BaselineStore → Result BaselineStore
  | .memory baselines => .ok (.memory (Assoc.put baselines id config))
  | .files now contents => do
    let record ← BaselineRecord.ofConfig id config now
    return .files now (Assoc.put contents (fileName id) (.document record.document))

def delete (id : String) : BaselineStore → Bool × BaselineStore
  | .memory baselines =>
    (((Assoc.get? baselines id).filter fun config => !config.isNull).isSome, .memory (Assoc.erase baselines id))
  | .files now contents =>
    (Assoc.has contents (fileName id), .files now (Assoc.erase contents (fileName id)))

def ids : BaselineStore → List String
  | .memory baselines => sortNames (Assoc.keys baselines)
  | .files _ contents => sortNames (((Assoc.keys contents).filter (Text.endsWith ".yaml")).map stem)

end BaselineStore

end Reconcile
