import Reconcile.Catalog.Packaged
import Reconcile.Declaration.Flat
import Reconcile.Declaration.Report
import Reconcile.Difference.Restoration
import Reconcile.Observation.Read
import Reconcile.Trace

/-!
The engine that plans and inspects: a catalog together with what a comparison is in charge of and where traces go.
-/

namespace Reconcile

structure Engine where
  catalog : Catalog
  truth : List String := defaultTruth
  tracer : Option Trace.Tracer := none

structure Desk where
  state : DeviceState := {}
  store : BaselineStore := .inMemory
  book : Trace.Book := {}

namespace Engine

/-- An engine for a catalog. An empty catalog is none, and the packaged one is used instead. -/
def ofCatalog (catalog : Catalog) : Engine where
  catalog := if catalog.entries.isEmpty then .packaged else catalog

def validate (engine : Engine) (declaration : Value) : Result Report :=
  Report.ofChecks declaration [] [Report.ofDeclaration engine.catalog]

def flatten (engine : Engine) (task : Option String) (declaration : Value) : Logged FlatDeclaration :=
  Flattener.flatten { catalog := engine.catalog } task declaration

def read (engine : Engine) (declaration : Value) (device : Device) (translate : Bool) (desk : Desk) :
    Observed (Desk × Result Unit) := do
  let reader : DeviceReader := { catalog := engine.catalog, device, translate }
  match ← reader.read declaration desk.state desk.store with
  | (state, .ok store) => return ({ desk with state, store }, .ok ())
  | (state, .error fault) => return ({ desk with state }, .error fault)

end Engine

end Reconcile
