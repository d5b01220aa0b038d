import Reconcile.Catalog.Rule

/-!
Catalogs: the ordered descriptions of a device's configuration containers. Order matters, since a container that
is folded into a class relies on the class having been built by an earlier entry.
-/

namespace Reconcile

def hostNameToken : String := "\x7b\x7bhostName\x7d\x7d"

def deviceNameToken : String := "\x7b\x7bdeviceName\x7d\x7d"

/-- One configuration container and the class it is mapped to. -/
structure Entry where
  path : String
  schemaClass : Option String := none
  properties : List PropertyRule := []
  references : List (Key × List PropertyRule) := []
  singleValue : Bool := false
  nameless : Bool := false
  silent : Bool := false
  ignore : List (Key × String) := []
  schemaMerge : Option MergeRule := none
  partitions : Option (List String) := none
  requiredModule : Option String := none
  declaration : Rendition := {}

namespace Entry

def class? (entry : Entry) : Option String :=
  given? entry.schemaClass

def providesName (entry : Entry) : Bool :=
  entry.properties.any fun rule => rule.newId == some "name"

def asksForName (entry : Entry) : Bool :=
  Text.contains deviceNameToken entry.path

def requested (entry : Entry) : List String :=
  let ids := entry.properties.map PropertyRule.id
  let named := if "name" ∈ ids then ids else ids ++ ["name"]
  if entry.partitions.isSome then named ++ ["partition"] else named

def rule? (entry : Entry) (id : String) : Option PropertyRule :=
  entry.properties.find? fun rule => rule.id == id

def mergePath (entry : Entry) : List String :=
  match entry.schemaMerge with
  | some merge => merge.path
  | none => []

end Entry

structure Catalog where
  entries : List Entry

namespace Catalog

def entriesOf (catalog : Catalog) (schemaClass : String) : List Entry :=
  catalog.entries.filter fun entry => entry.class? == some schemaClass

def classes (catalog : Catalog) : List String :=
  (catalog.entries.filterMap Entry.class?).foldl (fun seen name => if name ∈ seen then seen else seen ++ [name]) []

def isNameless (catalog : Catalog) (schemaClass : String) : Bool :=
  (catalog.entriesOf schemaClass).any fun entry => entry.nameless || entry.singleValue

def unnamedClasses (catalog : Catalog) : List String :=
  catalog.classes.filter catalog.isNameless

def providesName (catalog : Catalog) (schemaClass : String) : Bool :=
  (catalog.entriesOf schemaClass).any Entry.providesName

end Catalog

def currentVersion : String := "1.36.0"

def modulesPath : String := "/tm/sys/provision"

/-- The modules that are deprovisioned when a declaration does not mention them. -/
def allModules : List String :=
  ["afm", "am", "apm", "asm", "avr", "cgnat", "dos", "fps",
   "gtm", "ilx", "lc", "ltm", "pem", "sslo", "swg", "urldb"]

end Reconcile
