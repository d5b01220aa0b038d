import Reconcile.Text.Quoted
import Reconcile.Value.Basic

/-!
Values as messages and summaries show them: a literal has quoted texts, capitalised truth values and `None`
for null; the display form is the literal, except that a text on its own stands without quotes.
-/

namespace Reconcile

def Key.literal : Key → String
  | .named name => Text.quoted name
  | .flag value => if value then "True" else "False"
  | .whole number => toString number
  | .real number => number.text
  | .unnamed => "None"

def Key.display : Key → String
  | .named name => name
  | key => key.literal

def Key.sort : Key → String
  | .named _ => "str"
  | .flag _ => "bool"
  | .whole _ => "int"
  | .real _ => "float"
  | .unnamed => "NoneType"

namespace Value

mutual

def literal : Value → String
  | .null => "None"
  | .bool flag => if flag then "True" else "False"
  | .int number => toString number
  | .real number => number.text
  | .text content => Text.quoted content
  | .list items => "[" ++ literalItems items ++ "]"
  | .object fields => "\x7b" ++ literalFields fields ++ "\x7d"

def literalItems : List Value → String
  | [] => ""
  | [value] => literal value
  | value :: rest => literal value ++ ", " ++ literalItems rest

def literalFields : Fields → String
  | [] => ""
  | [(key, value)] => key.literal ++ ": " ++ literal value
  | (key, value) :: rest => key.literal ++ ": " ++ literal value ++ ", " ++ literalFields rest

end

def display : Value → String
  | .text content => content
  | value => value.literal

end Value

end Reconcile
