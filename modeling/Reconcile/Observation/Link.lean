import Reconcile.Fault
import Reconcile.Text.Utf8

/-!
The address of a collection that an item refers to. Only the path below the management root and the query
parameters matter; the host and a fragment are passed over.
-/

namespace Reconcile

structure Link where
  path : String
  params : List (String × String)
deriving DecidableEq

namespace Link

/-- The address without blanks and controls in front and without line ends and tabs. -/
def cleaned (address : String) : List Char :=
  (address.toList.dropWhile fun c => c.toNat ≤ 32).filter fun c => c ≠ '\t' ∧ c ≠ '\n' ∧ c ≠ '\r'

def isSchemeChar (c : Char) : Bool :=
  c.isAlphanum || c = '+' || c = '-' || c = '.'

def withoutScheme (address : List Char) : List Char :=
  let (scheme, rest) := Text.breakAt (· = ':') address
  match scheme.head?, rest with
  | some first, _ :: rest => if first.isAlpha && scheme.all isSchemeChar then rest else address
  | _, _ => address

/-- The address without a host in front; brackets in a host come in pairs. -/
def withoutHost (address : List Char) : Result (List Char) :=
  match address with
  | '/' :: '/' :: rest =>
    let (host, rest) := Text.breakAt (fun c => c = '/' || c = '?' || c = '#') rest
    if host.contains '[' = host.contains ']' then .ok rest else .error .unreadableText
  | address => .ok address

/-- The bytes of text in which a percent sign and two hexadecimal digits stand for a byte. `skip` counts the
characters of an escape still to be passed over. -/
def escapedBytes : Nat → List Char → List Nat
  | _, [] => []
  | skip + 1, _ :: rest => escapedBytes skip rest
  | 0, c :: rest =>
    match c, rest.head?.bind Text.hexValue?, (rest[1]?).bind Text.hexValue? with
    | '%', some high, some low => (high * 16 + low) :: escapedBytes 2 rest
    | _, _, _ => (String.singleton c).toUTF8.toList.map UInt8.toNat ++ escapedBytes 0 rest

def unescaped (content : List Char) : String :=
  String.ofList (Text.decodeUtf8 (escapedBytes 0 (content.map fun c => if c = '+' then ' ' else c)))

def param? (part : String) : Option (String × String) :=
  match Text.breakAt (· = '=') part.toList with
  | (name, _ :: value) => if value.isEmpty then none else some (unescaped name, unescaped value)
  | _ => none

/-- The parameters of a query. Of two with one name the later one counts. -/
def paramsOf (query : List Char) : List (String × String) :=
  ((Text.cut "&" (String.ofList query)).filterMap param?).foldl (fun params param =>
    Assoc.put params param.1 param.2) []

def ofAddress (address : String) : Result Link := do
  let rest ← withoutHost (withoutScheme (cleaned address))
  let (rest, _) := Text.breakAt (· = '#') rest
  let (path, query) := Text.breakAt (· = '?') rest
  return ⟨Text.dropHead "/mgmt" (String.ofList path), Assoc.erase (paramsOf (query.drop 1)) "$select"⟩

end Link

end Reconcile
