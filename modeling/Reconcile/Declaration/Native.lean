import Reconcile.Catalog.Basic
import Reconcile.Mapping.Conversion

/-!
Declared objects in the device's own names. Every rule of a class moves one declared property to the name and the
spelling that the device uses, so that the object can be compared with what is read from the device.
-/

namespace Reconcile

structure Naming where
  filed : Option String := none
  declared : Value := .null

def Naming.value (naming : Naming) : Value :=
  match given? naming.filed with
  | some name => .text name
  | none => naming.declared

/-- What a pass over an object has renamed so far: the declared names that are due to go, and the names that
hold a value in the device's spelling. -/
structure RenamingPass where
  stale : List String := []
  written : List String := []

namespace RenamingPass

def retire (pass : RenamingPass) (name : String) : RenamingPass :=
  if name ∈ pass.stale then pass else { pass with stale := pass.stale ++ [name] }

def headOf (dotted : String) : String :=
  (Text.cut "." dotted).headD dotted

/-- The object without its stale names, as far as they are not in use under the device's names. -/
def settle (pass : RenamingPass) (item : Fields) : Fields :=
  (pass.stale.map headOf).foldl (fun item head =>
    if head ∈ pass.written then item else Assoc.erase item (.named head)) item

end RenamingPass

namespace PropertyRule

def declaredPath (rule : PropertyRule) : Path :=
  .ofDotted rule.declaredName

/-- Moves a value to the path where the device has it, in the device's spelling. Without a source, or with an
empty one, the value is found where it belongs. -/
def move (rule : PropertyRule) (target : Path) (source? : Option Path) (item : Fields) : Result Fields :=
  let source := match source? with
    | some (step :: rest) => step :: rest
    | _ => target
  match rule.toDevice ((Path.get? source (.object item)).getD .null) with
  | .null => .ok item
  | value =>
    if target = [] then .error .outOfRange
    else
      let moved := Path.put target value item
      match source? with
      | none => .ok moved
      | some source =>
        if source = target then .ok moved
        else if source = [] then .error .outOfRange
        else .ok (source.erase moved)

def moveBelow (rule : PropertyRule) (base : List String) (item : Fields) : Result Fields :=
  let base : Path := base.map .named
  rule.move (base ++ .ofDotted rule.id) (some (base ++ rule.declaredPath)) item

def takeOver (rule : PropertyRule) (naming : Naming) (item : Fields) (pass : RenamingPass) : Fields × RenamingPass :=
  let (item, pass) :=
    match rule.toDevice ((rule.declaredPath.get? (.object item)).getD .null) with
    | .null => (item, pass)
    | value =>
      (Assoc.put item (.named rule.id) value, { pass with written := pass.written ++ [rule.id] })
  match rule.newId? with
  | none => (item, pass)
  | some newId =>
    if newId = "name" then (Assoc.put item "name" naming.value, pass)
    else (item, pass.retire newId)

def renameElements (rule : PropertyRule) : List Value → Result (List Value)
  | [] => .ok []
  | .object fields :: rest => do
    let fields ← rule.move (.ofDotted rule.id) (rule.newId?.map .ofDotted) fields
    return .object fields :: (← rule.renameElements rest)
  | value :: rest => return value :: (← rule.renameElements rest)

/-- Applies one nested rule: to every element of a list, or below the property, or that many levels further up
when the declaration spells a single element of the list out in the object itself. -/
def renameNested (outer : PropertyRule) (item : Fields) (rule : PropertyRule) : Result Fields :=
  match Assoc.get? item (.named outer.id) with
  | some (.list items) => return Assoc.put item (.named outer.id) (.list (← rule.renameElements items))
  | _ =>
    let below (path : Path) : Path := Path.dropFirst (.named outer.id :: path) outer.upLevel
    rule.move (below (.ofDotted rule.id)) (some (below rule.declaredPath)) item

/-- Whether the property's value is one container under two names while the pass goes on. -/
def sharesContainer (rule : PropertyRule) (item : Fields) : Bool :=
  rule.newId? != some "name" && rule.declaredPath.head? != some (.named rule.id) &&
    match rule.declaredPath.get? (.object item) with
    | some value => value.isContainer
    | none => false

def shareDeclared (rule : PropertyRule) (item : Fields) : Fields :=
  match Assoc.get? item (.named rule.id) with
  | some value => rule.declaredPath.put value item
  | none => item

def shareNative (rule : PropertyRule) (item : Fields) : Fields :=
  match rule.declaredPath.get? (.object item) with
  | some value => Assoc.put item (.named rule.id) value
  | none => item

def renameInside (rule : PropertyRule) (shares : Bool) (item : Fields) : Result Fields := do
  let renamed ← rule.transform.foldlM rule.renameNested item
  let inPlace := rule.upLevel = 0 || ((Assoc.get? item (.named rule.id)).getD .null).isList
  return if shares && inPlace && !rule.transform.isEmpty then rule.shareDeclared renamed else renamed

end PropertyRule

namespace Entry

def referencedRules (entry : Entry) (id : String) : List PropertyRule :=
  (Assoc.get? entry.references (.named id)).getD []

mutual

/-- One rule applied to an object. A rule that splices in what it refers to has the rules of the reference
applied there too; `depth` bounds how far references are followed. -/
def renameProperty (entry : Entry) (naming : Naming) (depth : Nat) (rule : PropertyRule)
    (item : Fields) (pass : RenamingPass) : Result (Fields × RenamingPass) := do
  let merged := !entry.mergePath.isEmpty
  let shares := !merged && rule.sharesContainer item
  let (item, pass) ←
    if merged then
      let item ← rule.moveBelow entry.mergePath item
      pure (item, pass)
    else pure (rule.takeOver naming item pass)
  let item ← rule.renameInside shares item
  match depth, given? rule.dereferenceId with
  | depth + 1, some target => do
    let rules := entry.referencedRules rule.id
    let value := Fields.lookup item target
    if rules.isEmpty || !value.truthy then return (item, pass)
    let (value, pass) ←
      match value with
      | .list items => do pure (.list (← renameSpliced entry naming depth rules items), pass)
      | .object fields => do
        let (fields, pass) ← renameProperties entry naming depth rules fields pass
        pure (.object fields, pass)
      | value => pure (value, pass)
    let item := Assoc.put item target value
    if !shares then return (item, pass)
    else if target = rule.id then return (rule.shareDeclared item, pass)
    else if rule.declaredPath = [.named target] then return (rule.shareNative item, pass)
    else return (item, pass)
  | _, _ => return (item, pass)
termination_by (depth, 0, 0)

def renameProperties (entry : Entry) (naming : Naming) (depth : Nat) (rules : List PropertyRule)
    (item : Fields) (pass : RenamingPass) : Result (Fields × RenamingPass) :=
  match rules with
  | [] => .ok (item, pass)
  | rule :: rest => do
    let (item, pass) ← renameProperty entry naming depth rule item pass
    renameProperties entry naming depth rest item pass
termination_by (depth, 1, rules.length)

/-- Every element of a spliced list under every rule; each time is a pass of its own. -/
def renameSpliced (entry : Entry) (naming : Naming) (depth : Nat) (rules : List PropertyRule)
    (items : List Value) : Result (List Value) :=
  match rules with
  | [] => .ok items
  | rule :: rest => do
    renameSpliced entry naming depth rest (← renameElements entry naming depth rule items)
termination_by (depth, 2, rules.length)

def renameElements (entry : Entry) (naming : Naming) (depth : Nat) (rule : PropertyRule)
    (items : List Value) : Result (List Value) :=
  match items with
  | [] => .ok []
  | .object fields :: rest => do
    let (fields, pass) ← renameProperty entry naming depth rule fields {}
    return .object (pass.settle fields) :: (← renameElements entry naming depth rule rest)
  | value :: rest => return value :: (← renameElements entry naming depth rule rest)
termination_by (depth, 1, items.length)

end

end Entry

namespace Value

mutual

def depth : Value → Nat
  | .list items => depthItems items + 1
  | .object fields => depthFields fields + 1
  | _ => 0

def depthItems : List Value → Nat
  | [] => 0
  | value :: rest => max (depth value) (depthItems rest)

def depthFields : Fields → Nat
  | [] => 0
  | (_, value) :: rest => max (depth value) (depthFields rest)

end

end Value

namespace Catalog

/-- A declared object of a class in the device's names; an object of an unknown class stays as it is. -/
def renameObject (catalog : Catalog) (schemaClass : String) (item : Fields) (filed : Option String) :
    Result Fields := do
  let naming : Naming := { filed, declared := item.lookup "name" }
  let (renamed, pass) ← (catalog.entriesOf schemaClass).foldlM (fun (item, pass) entry =>
    entry.renameProperties naming ((Value.object item).depth + entry.references.length) entry.properties
      item pass) (item, {})
  return pass.settle renamed

end Catalog

end Reconcile
