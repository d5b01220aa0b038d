import Reconcile.Pattern.Basic
import Reconcile.Text.Numeral

/-!
Reading a pattern from its text: characters, `.`, `^`, `$`, `*`, `+`, `?`, counted repetition, `|`, groups,
character classes, and the classes written as a backslash and a letter.
-/

namespace Reconcile.Pattern

def escapedClass? : Char → Option CharClass
  | 'd' => some (.digit false)
  | 'D' => some (.digit true)
  | 'w' => some (.word false)
  | 'W' => some (.word true)
  | 's' => some (.blank false)
  | 'S' => some (.blank true)
  | _ => none

def escapedChar : Char → Char
  | 'n' => '\n'
  | 't' => '\t'
  | 'r' => '\r'
  | 'f' => Char.ofNat 12
  | 'v' => Char.ofNat 11
  | 'a' => Char.ofNat 7
  | c => c

def readMember : List Char → Option ((CharClass ⊕ Char) × List Char)
  | '\\' :: c :: rest =>
    match escapedClass? c with
    | some entry => some (.inl entry, rest)
    | none => some (.inr (escapedChar c), rest)
  | '\\' :: [] => none
  | c :: rest => some (.inr c, rest)
  | [] => none

/-- The members of a bracketed class up to its closing bracket, which stands for itself in first place. -/
def readMembers : Nat → Bool → List CharClass → List Char → Option (List CharClass × List Char)
  | 0, _, _, _ => none
  | _ + 1, false, seen, ']' :: rest => some (seen.reverse, rest)
  | fuel + 1, _, seen, input =>
    match readMember input with
    | none => none
    | some (.inl entry, rest) => readMembers fuel false (entry :: seen) rest
    | some (.inr first, '-' :: ']' :: rest) =>
      some ((.range '-' '-' :: .range first first :: seen).reverse, rest)
    | some (.inr first, '-' :: rest) =>
      match readMember rest with
      | some (.inr last, rest) =>
        if first ≤ last then readMembers fuel false (.range first last :: seen) rest else none
      | _ => none
    | some (.inr c, rest) => readMembers fuel false (.range c c :: seen) rest

def count? (digits : List Char) : Option Nat :=
  if digits.isEmpty then none else some (Text.digitsValue digits)

def isAsciiDigit (c : Char) : Bool :=
  '0' ≤ c && c ≤ '9'

def readCount (input : List Char) : Option ((Nat × Option Nat) × List Char) :=
  let least := input.takeWhile isAsciiDigit
  match input.dropWhile isAsciiDigit with
  | '\x7d' :: rest => (count? least).map fun count => ((count, some count), rest)
  | ',' :: rest =>
    let most := rest.takeWhile isAsciiDigit
    match rest.dropWhile isAsciiDigit with
    | '\x7d' :: rest => some (((count? least).getD 0, count? most), rest)
    | _ => none
  | _ => none

def readTimes (atom : Pattern) (input : List Char) : Pattern × List Char :=
  match input with
  | '*' :: rest => (.times 0 none atom, rest)
  | '+' :: rest => (.times 1 none atom, rest)
  | '?' :: rest => (.times 0 (some 1) atom, rest)
  | '\x7b' :: rest =>
    match readCount rest with
    | some ((least, most), rest) => (.times least most atom, rest)
    | none => (atom, input)
  | _ => (atom, input)

mutual

def readAtom : Nat → Nat → List Char → Option (Pattern × Nat × List Char)
  | 0, _, _ => none
  | fuel + 1, groups, input =>
    match input with
    | [] => none
    | '.' :: rest => some (.any, groups, rest)
    | '^' :: rest => some (.start, groups, rest)
    | '$' :: rest => some (.stop, groups, rest)
    | '[' :: '^' :: rest =>
      (readMembers (rest.length + 1) true [] rest).map fun (entries, rest) => (.oneOf true entries, groups, rest)
    | '[' :: rest =>
      (readMembers (rest.length + 1) true [] rest).map fun (entries, rest) => (.oneOf false entries, groups, rest)
    | '(' :: '?' :: ':' :: rest =>
      match readBranches fuel groups rest with
      | some (body, groups, ')' :: rest) => some (.bracket body, groups, rest)
      | _ => none
    | '(' :: rest =>
      match readBranches fuel (groups + 1) rest with
      | some (body, inner, ')' :: rest) => some (.group (groups + 1) body, inner, rest)
      | _ => none
    | '\\' :: c :: rest =>
      match escapedClass? c with
      | some entry => some (.oneOf false [entry], groups, rest)
      | none => some (.char (escapedChar c), groups, rest)
    | c :: rest => if c ∈ ['*', '+', '?', ')', '\\'] then none else some (.char c, groups, rest)

def readSequence : Nat → Nat → List Char → Option (Pattern × Nat × List Char)
  | 0, _, _ => none
  | fuel + 1, groups, input =>
    match input with
    | [] | '|' :: _ | ')' :: _ => some (.empty, groups, input)
    | _ =>
      match readAtom fuel groups input with
      | none => none
      | some (atom, groups, rest) =>
        let (atom, rest) := readTimes atom rest
        match readSequence fuel groups rest with
        | none => none
        | some (.empty, groups, rest) => some (atom, groups, rest)
        | some (follow, groups, rest) => some (.seq atom follow, groups, rest)

def readBranches : Nat → Nat → List Char → Option (Pattern × Nat × List Char)
  | 0, _, _ => none
  | fuel + 1, groups, input =>
    match readSequence fuel groups input with
    | some (left, groups, '|' :: rest) =>
      (readBranches fuel groups rest).map fun (right, groups, rest) => (.alt left right, groups, rest)
    | other => other

end

def ofText? (source : String) : Option Pattern :=
  let letters := source.toList
  match readBranches (3 * letters.length + 3) 0 letters with
  | some (pattern, _, []) => some pattern
  | _ => none

end Reconcile.Pattern
