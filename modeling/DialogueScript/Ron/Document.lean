import DialogueScript.Decimal.Nearest
import DialogueScript.Ron.Reader
import DialogueScript.Ron.Value
/-!
# RON documents

A value is a boolean, a number, a character, a string, an optional value, a
list, a map, or a structure: names with values between parentheses, or values
alone, with or without a name in front. A name alone stands for nothing. In
front of the value a document may ask for extensions of the notation.
-/

namespace DialogueScript

namespace Ron

/-! ## Numbers -/

/-- Characters of integers. -/
def isIntegerChar (c : Char) : Bool := Text.isDigitOf 16 c || c == '_'

/-- Characters of floats. -/
def isFloatChar (c : Char) : Bool :=
  c.isDigit || c == 'e' || c == 'E' || c == '.' || c == '+' || c == '-' || c == '_'

/-- The magnitude of the integer in front of a text, unless there is none, and
how far into the text it goes, which is only behind the mark of its base if it
has no digits. -/
def magnitude (cs : List Char) : Option Nat × Nat :=
  let (base, start) :=
    match cs with
    | '0' :: 'x' :: _ => (16, 2)
    | '0' :: 'b' :: _ => (2, 2)
    | '0' :: 'o' :: _ => (8, 2)
    | _ => (10, 0)
  let text := (cs.drop start).takeWhile isIntegerChar
  let digits := text.filter (· != '_')
  if text.isEmpty || text.head? == some '_' then (none, start)
  else if digits.all (Text.isDigitOf base) then
    (some (Text.ofDigits base digits), start + text.length)
  else (none, start + text.length)

/-- The integer in front of a text, unless there is none, and how far into the
text it goes. With a sign it must fit sixty-four bits with a sign, and without
one sixty-four bits. -/
def integer? (cs : List Char) : Option Int × Nat :=
  match cs with
  | '-' :: cs =>
    let (n, length) := magnitude cs
    ((n.filter (· ≤ 9223372036854775808)).map fun n => -(n : Int), length + 1)
  | '+' :: cs =>
    let (n, length) := magnitude cs
    ((n.filter (· ≤ 9223372036854775807)).map fun n => (n : Int), length + 1)
  | cs =>
    let (n, length) := magnitude cs
    ((n.filter (· < 18446744073709551616)).map fun n => (n : Int), length)

/-- The floats that have a name, with a sign or without. -/
def namedFloats : List (String × Float) :=
  [("inf", 1.0 / 0.0), ("+inf", 1.0 / 0.0), ("-inf", -1.0 / 0.0), ("NaN", 0.0 / 0.0),
    ("+NaN", 0.0 / 0.0), ("-NaN", 0.0 / 0.0)]

/-- The first of several floats that the text goes on with the name of. -/
def namedFloat? : List (String × Float) → Reader (Option Float)
  | [] => return none
  | (name, x) :: rest => do if ← consumeName name then return some x else namedFloat? rest

/-- A float. -/
def float : Reader Value := do
  match ← namedFloat? namedFloats with
  | some x => return .float x
  | none =>
    let text := (← rest).takeWhile isFloatChar
    let clean := text.takeWhile (· != '_')
    if clean.length < text.length then
      advance clean.length
      fail .floatUnderscore
    else
      advance text.length
      match Decimal.float? text with
      | some x => return .float x
      | none => fail .expectedFloat

/-- Whether the number in front of a text looks like a float: more of it can
belong to a float than to an integer. -/
def looksLikeFloat (cs : List Char) : Bool :=
  let behind := if cs.head?.any (fun c => c == '+' || c == '-') then cs.drop 1 else cs
  (behind.takeWhile isIntegerChar).length < (behind.takeWhile isFloatChar).length

/-- A number. What looks like an integer and is none is read again as a float,
but its columns are counted twice. -/
def number : Reader Value := do
  let text ← rest
  if looksLikeFloat text then float
  else
    match integer? text with
    | (some i, length) =>
      advance length
      return if Data.fits i then .integer i else .float (Float.ofScientific i.toNat false 0)
    | (none, length) =>
      modify fun c => { c with column := c.column + length }
      float

/-! ## Values -/

/-- Items up to a closing mark, with commas between them and maybe behind the
last; `more` says that a further item may come. -/
def items {α : Type} (closing : Char) (item : Reader α) :
    (fuel : Nat) → (more : Bool) → Reader (List α)
  | 0, _ => return []
  | fuel + 1, more => do
    filler
    if (← peekOrEnd) == closing then return []
    else if !more then fail .expectedComma
    else
      let a ← item
      let more ← comma
      return a :: (← items closing item fuel more)

/-- All items up to a closing mark. -/
def allItems {α : Type} (closing : Char) (item : Reader α) : Reader (List α) := do
  items closing item ((← rest).length + 1) true

/-- A key, a colon and a value. -/
def entry (key value : Reader Value) : Reader (Value × Value) := do
  let k ← key
  filler
  if !(← consume ":") then fail .expectedColon
  filler
  return (k, ← value)

/-- Whether what stands between the parentheses ahead are values alone. -/
def isTuple : Reader Bool := ahead do
  advance 1
  filler
  match ← attempt identifier with
  | none => return true
  | some _ =>
    filler
    return (← next) != ':'

/-- Reads a value inside another, below so many levels more than one. -/
abbrev Inner := Nat → Reader Value

/-- Values between parentheses, with or without names. Without parentheses there
is nothing. -/
def structure? (left : Nat) (inner : Inner) : Reader Value := do
  if (← peek) != some '(' then return .unit
  else
    let tuple ← isTuple
    advance 1
    if left = 0 then fail .tooDeep
    if tuple then
      let vs ← allItems ')' (inner 1)
      if ← consume ")" then return .sequence vs else fail .expectedClosing
    else
      let name : Reader Value := do
        if left = 1 then fail .tooDeep
        Value.string <$> identifier
      let es ← allItems ')' (entry name (inner 1))
      filler
      if ← consume ")" then return .ofEntries es else fail .expectedClosing

/-- An optional value that is there. With `implicit` it needs no parentheses. -/
def option (implicit : Bool) (inner : Inner) : Reader Value := do
  discard (consume "Some")
  filler
  if ← consume "(" then
    filler
    let v ← inner 0
    discard comma
    if ← consume ")" then return .present v else fail .expectedClosing
  else if implicit then Value.present <$> inner 0
  else fail .expectedOption

/-- A list. -/
def list (left : Nat) (inner : Inner) : Reader Value := do
  advance 1
  if left = 0 then fail .tooDeep
  let vs ← allItems ']' (inner 1)
  filler
  if ← consume "]" then return .sequence vs else fail .expectedArrayEnd

/-- A map. -/
def map (left : Nat) (inner : Inner) : Reader Value := do
  advance 1
  if left = 0 then fail .tooDeep
  let es ← allItems '\x7d' (entry (inner 1) (inner 1))
  filler
  if ← consume "\x7d" then return .ofEntries es else fail .expectedMapEnd

/-- A value that starts with a sign of its own. -/
def signed (left : Nat) (inner : Inner) : Reader Value := do
  let c ← peekOrEnd
  if c == '(' then structure? left inner
  else if c == '[' then list left inner
  else if c == '\x7b' then map left inner
  else if c.isDigit || c == '+' || c == '-' then number
  else if c == '.' then float
  else if c == '"' || c == 'r' then Value.string <$> string
  else if c == '\x27' then Value.char <$> char
  else fail (.unexpectedByte (firstByte c))

/-- A value, in which the values inside are read by `inner`. -/
def valueWith (implicit : Bool) (left : Nat) (inner : Inner) : Reader Value := do
  if ← consumeName "true" then return .boolean true
  else if ← consumeName "false" then return .boolean false
  else if ← atName "Some" then option implicit inner
  else if ← consumeName "None" then return .absent
  else if ← consume "()" then return .unit
  else if ← consumeName "inf" then return .float (1.0 / 0.0)
  else if ← consumeName "-inf" then return .float (-1.0 / 0.0)
  else if ← consumeName "NaN" then return .float (0.0 / 0.0)
  else
    match ← attempt identifier with
    | some _ =>
      filler
      structure? left inner
    | none => signed left inner

/-- A value with so many levels left, some of which are passed first. A list, a
map or a structure takes one level, and so does each value inside anything. -/
def value (implicit : Bool) : (left passed : Nat) → Reader Value
  | 0, 0 => valueWith implicit 0 fun _ => fail .tooDeep
  | 0, _ + 1 => fail .tooDeep
  | left + 1, 0 => valueWith implicit (left + 1) (value implicit left)
  | left + 1, passed + 1 => value implicit left passed

/-- How many levels a document may have. -/
def levelLimit : Nat := 128

/-! ## Documents -/

/-- The extension by which an optional value needs no parentheses. -/
def implicitSome : String := "implicit_some"

/-- The extensions a document can ask for. Only one changes anything here. -/
def extensions : List String := ["unwrap_newtypes", implicitSome, "unwrap_variant_newtypes"]

/-- Passes given words one after the other, with blanks and comments behind
each, and says whether all were there. A word that is missing does not keep the
others from being passed, and neither does a bad comment, of which the first is
told in the end. -/
def words : List String → Reader Bool
  | [] => return true
  | w :: ws => do
    if ← consume w then
      let blanks ← outcome filler
      let others ← outcome (words ws)
      match blanks, others with
      | .error cause, _ => fail cause
      | .ok (), .error cause => fail cause
      | .ok (), .ok all => return all
    else
      discard (words ws)
      return false

/-- The names of extensions, up to the closing mark. -/
def extensionNames : (fuel : Nat) → Reader (List String)
  | 0 => return []
  | fuel + 1 => do
    let name ← identifier
    if !extensions.contains name then fail (.noSuchExtension name)
    let separated ← comma
    let more := (← peek).any isNameChar
    if more && !separated then fail .expectedComma
    else if more then return name :: (← extensionNames fuel)
    else return [name]

/-- The extensions that attributes in front of a document ask for. -/
def attributes : (fuel : Nat) → Reader (List String)
  | 0 => return []
  | fuel + 1 => do
    if (← peek) == some '#' then
      if !(← words ["#", "!", "[", "enable", "("]) then fail .expectedAttribute
      filler
      let names ← extensionNames ((← rest).length + 1)
      filler
      if !(← words [")", "]"]) then fail .expectedAttributeEnd
      filler
      return names ++ (← attributes fuel)
    else return []

/-- A whole document. -/
def document : Reader Value := do
  filler
  let asked ← attributes ((← rest).length + 1)
  let v ← value (asked.contains implicitSome) levelLimit 0
  filler
  if (← rest).isEmpty then return v else fail .trailingCharacters

/-- Why a text holds no data. -/
inductive Fault
  | text (line column : Nat) (cause : Cause)
  /-- A key that is not a text. -/
  | key (found : Value)

/-- The message for a text that holds no data. -/
def Fault.message : Fault → String
  | .text line column cause =>
    toString line ++ ":" ++ toString column ++ ": " ++ cause.message
  | .key found => "Expected a string but found " ++ found.describe ++ " instead"

/-- Reads a document. -/
def read (text : String) : Except Fault Data :=
  match document.run { rest := text.toList } with
  | (.ok v, _) => v.toData.mapError .key
  | (.error cause, c) => .error (.text c.line c.column cause)

end Ron

end DialogueScript
