import Reconcile.Catalog.Packaged.System
import Reconcile.Catalog.Packaged.Network
import Reconcile.Catalog.Packaged.Cluster
import Reconcile.Catalog.Packaged.Monitoring
import Reconcile.Catalog.Packaged.Authentication
import Reconcile.Catalog.Packaged.Services
import Reconcile.Catalog.Packaged.LoadBalancing
import Reconcile.Catalog.Packaged.Security

/-!
The catalog that is used when no other is given.
-/

namespace Reconcile

/-- All packaged entries, in the order in which containers are read and folded. -/
def Catalog.packaged : Catalog where
  entries :=
    Packaged.systemEntries ++
    Packaged.networkEntries ++
    Packaged.clusterEntries ++
    Packaged.monitoringEntries ++
    Packaged.authenticationEntries ++
    Packaged.servicesEntries ++
    Packaged.loadBalancingEntries ++
    Packaged.securityEntries

def Catalog.packagedClasses (classes : List String) : Catalog where
  entries := Catalog.packaged.entries.filter fun entry =>
    match entry.schemaClass with
    | some name => name ∈ classes
    | none => false

def Catalog.packagedPaths (paths : List String) : Catalog where
  entries := Catalog.packaged.entries.filter fun entry => entry.path ∈ paths

end Reconcile
