import Reconcile.Baseline.Checksum
import Reconcile.Baseline.Timestamp
import Reconcile.Value.Compare

/-!
A baseline as it is kept on file: the configuration together with a checksum and the time of the last change.
-/

namespace Reconcile

structure BaselineRecord where
  id : String
  config : Value
  checksum : Value := .text ""
  updatedAt : Option Timestamp := none

namespace BaselineRecord

def ofConfig (id : String) (config : Value) (now : Timestamp) : Result BaselineRecord :=
  return ⟨id, config, .text (← config.checksum), some now⟩

def document (record : BaselineRecord) : Value :=
  .object [
    ("device_id", .text record.id),
    ("checksum", record.checksum),
    ("updated_at", .ofText? (record.updatedAt.map Timestamp.text)),
    ("baseline", record.config)]

/-- The time in a document; anything that is no time is none. -/
def readTime : Value → Option Timestamp
  | .text content => Timestamp.ofText? content
  | _ => none

/-- Reads a document. The record belongs to the device it is asked for, whatever device the document names. -/
def ofDocument (id : String) (document : Value) : Result BaselineRecord :=
  match document.orElse .empty with
  | .object fields =>
    .ok {
      id
      config := (Fields.lookup fields "baseline").orElse .empty
      checksum := (Assoc.get? fields "checksum").getD (.text "")
      updatedAt := readTime (Fields.lookup fields "updated_at") }
  | _ => .error .unreadableText

def isGenuine (record : BaselineRecord) : Result Bool :=
  if record.checksum.truthy then return record.checksum.spells (← record.config.checksum) else return true

end BaselineRecord

end Reconcile
