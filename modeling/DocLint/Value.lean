import DocLint.Assoc
import DocLint.Decimal
import DocLint.Fault
import DocLint.Text.Quoted

/-!
# Values of configuration and registry files

A `Value` is what a configuration file or a rule registry can hold. A table
keeps its keys in the order of the file. A value of a type with no meaning here
(a date, bytes, a set, a table whose text shows keys that are no strings) is a
`Foreign` one, of which only as much is kept as can be seen of it.

`Value.isTruthy` tells the empty values from the others, `Value.typeName` is
the name of a value's type in messages, and `Value.asText` its text: a string
stands for itself, and everything inside a list or a table is quoted. A whole
number with too many digits has no text, and a foreign value may have none.
-/
namespace DocLint

/-- What can be seen of a value of another type: whether it counts as present, its
text on its own, and its text inside a list or a table. -/
structure Foreign where
  typeName : String
  isTruthy : Bool
  text? : Option String
  quoted? : Option String
  deriving DecidableEq, Repr, Inhabited

/-- A value of a configuration or registry file. -/
inductive Value
  | null
  | bool (value : Bool)
  | int (value : Int)
  | decimal (value : Decimal)
  | text (value : String)
  | list (items : List Value)
  | table (fields : List (String × Value))
  | foreign (value : Foreign)
  deriving BEq, Repr, Inhabited

abbrev Table := List (String × Value)

namespace Value

/-- Whether a value counts as present: neither null, false, zero nor empty. -/
def isTruthy : Value → Bool
  | null => false
  | bool value => value
  | int value => value != 0
  | decimal value => !value.isZero
  | text value => value != ""
  | list items => !items.isEmpty
  | table fields => !fields.isEmpty
  | foreign value => value.isTruthy

def isNull : Value → Bool
  | null => true
  | _ => false

def typeName : Value → String
  | null => "NoneType"
  | bool _ => "bool"
  | int _ => "int"
  | decimal _ => "float"
  | text _ => "str"
  | list _ => "list"
  | table _ => "dict"
  | foreign value => value.typeName

/-- The fields of a table, and none of any other value. -/
def fields? : Value → Option Table
  | table fields => some fields
  | _ => none

/-- The text of a string, and none of any other value. -/
def text? : Value → Option String
  | text value => some value
  | _ => none

/-- The strings of a list of strings, and none of any other value. -/
def texts? : Value → Option (List String)
  | list items => items.mapM text?
  | _ => none

/-- A whole number in base ten. -/
def wholeText (number : Int) : Except Fault String :=
  if (Nat.toDigits 10 number.natAbs).length ≤ Decimal.mostDigits then .ok (toString number)
  else .error (.tooManyDigits Decimal.mostDigits)

mutual

/-- A value as it stands inside a list or a table. -/
def quoted : Value → Except Fault String
  | null => .ok "None"
  | bool true => .ok "True"
  | bool false => .ok "False"
  | int value => wholeText value
  | decimal value => .ok value.text
  | text value => .ok (Text.quote value)
  | list items => do return "[" ++ ", ".intercalate (← quotedItems items) ++ "]"
  | table fields => do return "\x7b" ++ ", ".intercalate (← quotedFields fields) ++ "\x7d"
  | foreign value => value.quoted?.elim (.error (.noText value.typeName)) .ok

/-- The items of a list, each quoted. -/
def quotedItems : List Value → Except Fault (List String)
  | [] => .ok []
  | item :: rest => do
    let shown ← quoted item
    return shown :: (← quotedItems rest)

/-- The fields of a table, each as a quoted key and a quoted value. -/
def quotedFields : List (String × Value) → Except Fault (List String)
  | [] => .ok []
  | (key, value) :: rest => do
    let shown ← quoted value
    return (Text.quote key ++ ": " ++ shown) :: (← quotedFields rest)

end

def asText : Value → Except Fault String
  | text value => .ok value
  | foreign value => value.text?.elim (.error (.noText value.typeName)) .ok
  | other => quoted other

end Value

end DocLint
