import DialogueScript.Json.Number
import DialogueScript.Json.Quote
/-!
# Readers of JSON texts

A reader takes characters off the front of a text and either gives a value or
stops at the first fault. The readers here know the punctuation: what may open
a value, how items of a list and fields of an object follow each other, and
what closes them. What the items are is up to the caller, so the same readers
serve free values and values of a known kind. Loops take the length of the text
as fuel; each round takes at least one character.
-/

namespace DialogueScript

namespace Json

/-- A reader of the front of a text. -/
abbrev Reader := StateT (List Char) (Except Fault)

namespace Reader

/-- Stops with a fault. -/
def fail {α : Type} (f : Fault) : Reader α := fun _ => .error f

/-- Stops because the text ended. -/
def ended {α : Type} (what : Unfinished) : Reader α := fail (.unfinished what)

/-- Stops at a character that must not stand there. -/
def malformed {α : Type} (why : Malformed) : Reader α := fail (.malformed why)

/-- Stops at a value of the wrong kind. -/
def mismatch {α : Type} (why : Mismatch) : Reader α := fail (.mismatch why)

/-- Blanks between tokens. -/
def isBlank (c : Char) : Bool := c == ' ' || c == '\n' || c == '\t' || c == '\r'

/-- The next character that is not blank, left in place. -/
def peek : Reader (Option Char) := fun cs =>
  let rest := cs.dropWhile isBlank
  .ok (rest.head?, rest)

/-- Drops a character. -/
def advance : Reader Unit := fun cs => .ok ((), cs.drop 1)

/-- Goes past what a scan steps over. -/
def pass (scan : List Char → Except Fault (List Char)) : Reader Unit := fun cs =>
  (scan cs).map fun rest => ((), rest)

/-- Runs a loop with the length of the text as fuel. -/
def withFuel {α : Type} (loop : Nat → Reader α) : Reader α := fun cs => loop cs.length cs

/-! ## Scalars -/

/-- The rest of a word such as `null`, whose first letter is behind. -/
def word : List Char → Reader Unit
  | [] => pure ()
  | c :: word' => fun cs =>
    match cs with
    | [] => .error (.unfinished .value)
    | d :: rest => if d = c then word word' rest else .error (.malformed .expectedLiteral)

/-- A scalar found in a text. -/
inductive Scalar
  | null
  | boolean (b : Bool)
  | number (n : Number)
  | string (s : String)

/-- A scalar as messages describe it. -/
def Scalar.found : Scalar → Found
  | .null => .null
  | .boolean b => .boolean b
  | .number n => n.found
  | .string s => .string s

/-- The string at the front of the text, its opening quote included. -/
def string : Reader String := do
  advance
  readString

/-- The number at the front of the text. -/
def number : Reader Number := readNumber

/-- The scalar that starts with the given character, or nothing if that
character starts none. -/
def scalar? (c : Char) : Reader (Option Scalar) :=
  match c with
  | 'n' => do
    advance
    word ['u', 'l', 'l']
    return some .null
  | 't' => do
    advance
    word ['r', 'u', 'e']
    return some (.boolean true)
  | 'f' => do
    advance
    word ['a', 'l', 's', 'e']
    return some (.boolean false)
  | '"' => do
    let s ← string
    return some (.string s)
  | c =>
    if c == '-' || c.isDigit then do
      let n ← number
      return some (.number n)
    else pure none

/-- Stops because the value at the front is not of the expected kind. A scalar
is read first, so a fault inside it comes before the mismatch; lists and
objects are named without a look inside. -/
def unexpected {α : Type} (expected : String) : Reader α := do
  match ← peek with
  | none => ended .value
  | some '[' => mismatch (.invalidType .sequence expected)
  | some '\x7b' => mismatch (.invalidType .map expected)
  | some c =>
    match ← scalar? c with
    | some s => mismatch (.invalidType s.found expected)
    | none => malformed .expectedValue

/-! ## Lists -/

/-- Whether another item follows, past the comma in front of it. -/
def hasItem (first : Bool) : Reader Bool := do
  match ← peek with
  | none => ended .list
  | some ']' => return false
  | some ',' =>
    if first then return true
    advance
    match ← peek with
    | none => ended .value
    | some ']' => malformed .trailingComma
    | some _ => return true
  | some _ => if first then return true else malformed .expectedListCommaOrEnd

/-- The next item of a list, if there is one. -/
def item? {α : Type} (first : Bool) (item : Reader α) : Reader (Option α) := do
  if ← hasItem first then some <$> item else return none

/-- Closes a list. -/
def endList : Reader Unit := do
  match ← peek with
  | some ']' => advance
  | some ',' =>
    advance
    match ← peek with
    | some ']' => malformed .trailingComma
    | _ => malformed .trailingCharacters
  | some _ => malformed .trailingCharacters
  | none => ended .list

/-- The items up to the closing bracket, in front of which `read` stands
reversed. -/
def items {α : Type} (item : Reader α) :
    (fuel : Nat) → (first : Bool) → (read : List α) → Reader (List α)
  | 0, _, _ => ended .list
  | fuel + 1, first, read => do
    match ← item? first item with
    | some x => items item fuel false (x :: read)
    | none => return read.reverse

/-- A whole list, from bracket to bracket. -/
def list {α : Type} (item : Reader α) : Reader (List α) := do
  advance
  let xs ← withFuel fun n => items item (n + 1) true []
  endList
  return xs

/-! ## Objects -/

/-- Whether another field follows, past the comma in front of it. -/
def hasField (first : Bool) : Reader Bool := do
  match ← peek with
  | none => ended .object
  | some '\x7d' => return false
  | some ',' =>
    if first then malformed .keyNotString
    advance
    match ← peek with
    | none => ended .value
    | some '"' => return true
    | some '\x7d' => malformed .trailingComma
    | some _ => malformed .keyNotString
  | some c =>
    if first then
      if c == '"' then return true else malformed .keyNotString
    else malformed .expectedObjectCommaOrEnd

/-- The next key, if there is one. -/
def key? (first : Bool) : Reader (Option String) := do
  if ← hasField first then some <$> string else return none

/-- The colon between a key and its value. -/
def colon : Reader Unit := do
  match ← peek with
  | some ':' => advance
  | some _ => malformed .expectedColon
  | none => ended .object

/-- Closes an object. -/
def endObject : Reader Unit := do
  match ← peek with
  | some '\x7d' => advance
  | some ',' => malformed .trailingComma
  | some _ => malformed .trailingCharacters
  | none => ended .object

/-- Goes through the fields up to the closing brace. The step is given each key
and reads the colon and the value itself, so it can refuse a key before that. -/
def fields {σ : Type} (step : σ → String → Reader σ) : (fuel : Nat) → (first : Bool) → σ → Reader σ
  | 0, _, _ => ended .object
  | fuel + 1, first, s => do
    match ← key? first with
    | some k =>
      let s ← step s k
      fields step fuel false s
    | none => return s

/-- Goes through a whole object, from brace to brace. What `finish` refuses
comes before a fault in the closing brace. -/
def object {σ α : Type} (step : σ → String → Reader σ) (start : σ) (finish : σ → Reader α) :
    Reader α := do
  advance
  let s ← withFuel fun n => fields step (n + 1) true start
  let a ← finish s
  endObject
  return a

/-! ## Whole texts -/

/-- Reads a whole text: one value and nothing but blanks behind it. -/
def run {α : Type} (r : Reader α) (text : String) : Except Fault α :=
  match r text.toList with
  | .error f => .error f
  | .ok (a, rest) =>
    if rest.all isBlank then .ok a else .error (.malformed .trailingCharacters)

end Reader

end Json

end DialogueScript
