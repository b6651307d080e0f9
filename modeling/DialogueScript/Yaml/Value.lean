import DialogueScript.Data
import DialogueScript.Decimal.Nearest
import DialogueScript.Text.Quoted
import DialogueScript.Yaml.Scanner
/-!
# YAML values

The values of a document, and what the texts of scalars stand for.
-/

namespace DialogueScript

namespace Yaml

/-- A value. A real number is kept as it is written. -/
inductive Value
  | null
  | boolean (b : Bool)
  | integer (i : Int)
  | real (text : String)
  | string (s : String)
  | sequence (items : List Value)
  | mapping (entries : List (Value × Value))
  /-- A scalar that is not what its tag says. -/
  | bad
deriving Inhabited

/-! ## Scalars -/

/-- The integer that digits of a base spell, with a sign or without, if it fits
sixty-four bits with a sign. -/
def integerIn (base : Nat) (text : List Char) : Option Int :=
  let (negative, digits) := Decimal.splitSign text
  let n : Int := Text.ofDigits base digits
  let i := if negative then -n else n
  if !digits.isEmpty && digits.all (Text.isDigitOf base) && Data.fits i then some i else none

/-- The integer that a text with a mark in front spells: of a base, or a plus. -/
def markedInteger : List Char → Option Int
  | '0' :: 'x' :: digits => integerIn 16 digits
  | '0' :: 'o' :: digits => integerIn 8 digits
  | '+' :: digits => integerIn 10 digits
  | _ => none

/-- The words for reals without digits. -/
def realWords : List String :=
  [".inf", ".Inf", ".INF", "+.inf", "+.Inf", "+.INF", "-.inf", "-.Inf", "-.INF", ".nan", "NaN",
    ".NAN"]

/-- Whether a text is a real number. -/
def isReal (text : String) : Bool :=
  realWords.contains text || (Decimal.float? text.toList).isSome

/-- What a plain scalar without a tag stands for. -/
def Value.ofPlain (text : String) : Value :=
  match markedInteger text.toList with
  | some i => .integer i
  | none =>
    if text == "~" || text == "null" then .null
    else if text == "true" then .boolean true
    else if text == "false" then .boolean false
    else
      match integerIn 10 text.toList with
      | some i => .integer i
      | none => if isReal text then .real text else .string text

/-- What a plain scalar with a tag of the standard types stands for. -/
def Value.ofStandard (name text : String) : Value :=
  match name with
  | "bool" =>
    if text == "true" then .boolean true
    else if text == "false" then .boolean false
    else .bad
  | "int" => ((integerIn 10 text.toList).map Value.integer).getD .bad
  | "float" => if isReal text then .real text else .bad
  | "null" => if text == "~" || text == "null" then .null else .bad
  | _ => .string text

/-- The handle of the standard types. -/
def standardHandle : String := "tag:yaml.org,2002:"

/-- What a scalar stands for. -/
def Value.ofScalar (tag : Option Tag) (plain : Bool) (text : String) : Value :=
  if !plain then .string text
  else
    match tag with
    | none => .ofPlain text
    | some t => if t.handle == standardHandle then .ofStandard t.name text else .string text

/-! ## Showing keys -/

mutual

/-- A value as messages show it. -/
def Value.shown : Value → String
  | .null => "Null"
  | .boolean b => "Boolean(" ++ (if b then "true" else "false") ++ ")"
  | .integer i => "Integer(" ++ toString i ++ ")"
  | .real text => "Real(" ++ Text.quoted text ++ ")"
  | .string s => "String(" ++ Text.quoted s ++ ")"
  | .sequence items => "Array([" ++ ", ".intercalate (Value.shownItems items) ++ "])"
  | .mapping entries =>
    "Hash(\x7b" ++ ", ".intercalate (Value.shownEntries entries) ++ "\x7d)"
  | .bad => "BadValue"

/-- Values as messages show them. -/
def Value.shownItems : List Value → List String
  | [] => []
  | v :: rest => v.shown :: Value.shownItems rest

/-- Values under keys as messages show them. -/
def Value.shownEntries : List (Value × Value) → List String
  | [] => []
  | (k, v) :: rest => (k.shown ++ ": " ++ v.shown) :: Value.shownEntries rest

end

end Yaml

end DialogueScript
