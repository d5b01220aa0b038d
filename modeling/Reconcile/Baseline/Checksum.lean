import Reconcile.Baseline.Digest
import Reconcile.Fault
import Reconcile.Value.Writer

/-!
A short text that stands for a document. It does not depend on the order of fields.
-/

namespace Reconcile

/-- The first half of the digest of the document's canonical text. A document whose fields cannot be sorted has no
checksum. -/
def Value.checksum (document : Value) : Result String :=
  match document.unordered? with
  | some (left, right) => .error (.unordered left right)
  | none =>
    let digest := Digest.sha256 document.canonical.toUTF8.toList
    .ok ("sha256:" ++ String.ofList ((digest.take 8).flatMap fun byte => Text.hex 2 byte.toNat))

end Reconcile
