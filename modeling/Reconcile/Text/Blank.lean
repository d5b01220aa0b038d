import Reconcile.Text.Runs

/-!
Blank characters: the ASCII controls that separate text, the plain space and the Unicode separators.
-/

namespace Reconcile.Text

def blankIntervals : List (Nat × Nat) :=
  [
    (9, 13), (28, 32), (133, 133), (160, 160), (5760, 5760), (8192, 8202), (8232, 8233), (8239, 8239),
    (8287, 8287), (12288, 12288)
  ]

def isBlank (c : Char) : Bool :=
  inIntervals blankIntervals c.toNat

def trimBlanks (text : List Char) : List Char :=
  ((text.dropWhile isBlank).reverse.dropWhile isBlank).reverse

end Reconcile.Text
