import DialogueScript.Decimal.Style
/-!
# Values

What expressions evaluate to and variables hold.
-/

namespace DialogueScript

/-- A value of a script. -/
inductive Value
  | null
  | boolean (b : Bool)
  | number (x : Float)
  | string (s : String)
deriving Repr, Inhabited

/-- The types of values. -/
inductive ValueType
  | null
  | boolean
  | number
  | string
deriving Repr, DecidableEq

/-- The name of a type in messages. -/
def ValueType.name : ValueType → String
  | .null => "null"
  | .boolean => "bool"
  | .number => "number"
  | .string => "string"

namespace Value

/-- The type of a value. -/
def type : Value → ValueType
  | .null => .null
  | .boolean _ => .boolean
  | .number _ => .number
  | .string _ => .string

/-- Whether a value counts as true. Every number and every string does. -/
def isTruthy : Value → Bool
  | .boolean b => b
  | .null => false
  | _ => true

/-- A value as it is shown. -/
def display : Value → String
  | .null => "null"
  | .boolean b => if b then "true" else "false"
  | .number x => Decimal.shown.write x
  | .string s => s

/-- Whether two values are equal. Numbers are compared as numbers: the two
zeros are equal and what is not a number equals nothing. -/
def beq : Value → Value → Bool
  | .null, .null => true
  | .boolean a, .boolean b => a == b
  | .number x, .number y => x == y
  | .string s, .string t => s == t
  | _, _ => false

instance : BEq Value := ⟨beq⟩

end Value

end DialogueScript
