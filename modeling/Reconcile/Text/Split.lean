/-!
Cutting text at a separator, and what is built from it: replacing, and dropping a head or a tail.
-/

namespace Reconcile.Text

/-- The pieces of a text between the occurrences of a separator, found from the left and not overlapping.
`skip` counts the characters of an occurrence still to be passed over, `piece` is the current piece backwards. -/
def pieces (separator : List Char) : List Char → Nat → List Char → List (List Char)
  | [], _, piece => [piece.reverse]
  | _ :: rest, skip + 1, piece => pieces separator rest skip piece
  | c :: rest, 0, piece =>
    if separator.isPrefixOf (c :: rest) then piece.reverse :: pieces separator rest (separator.length - 1) []
    else pieces separator rest 0 (c :: piece)

def cut (separator content : String) : List String :=
  (pieces separator.toList content.toList 0 []).map String.ofList

def replace (old new content : String) : String :=
  new.intercalate (cut old content)

def startsWith (head content : String) : Bool :=
  head.toList.isPrefixOf content.toList

def endsWith (tail content : String) : Bool :=
  tail.toList.isSuffixOf content.toList

def occurs (part : List Char) : List Char → Bool
  | [] => part.isEmpty
  | c :: rest => part.isPrefixOf (c :: rest) || occurs part rest

def contains (part content : String) : Bool :=
  occurs part.toList content.toList

def dropHead (head content : String) : String :=
  if startsWith head content then String.ofList (content.toList.drop head.toList.length) else content

def dropTail (tail content : String) : String :=
  if endsWith tail content then String.ofList (content.toList.take (content.toList.length - tail.toList.length))
  else content

/-- The text before and after the first character that satisfies `stop`, which belongs to the second part. -/
def breakAt (stop : Char → Bool) (content : List Char) : List Char × List Char :=
  (content.takeWhile fun c => !stop c, content.dropWhile fun c => !stop c)

end Reconcile.Text
