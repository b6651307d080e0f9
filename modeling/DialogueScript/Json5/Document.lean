import DialogueScript.Data
import DialogueScript.Decimal.Nearest
import DialogueScript.Json5.Grammar
/-!
# JSON5 documents

What a text in JSON5 stands for. Its numbers are integers of sixty-four bits if
they are written as such, and doubles otherwise; a string may name characters
by the units of UTF-16, halves of a pair one behind the other.
-/

namespace DialogueScript

namespace Json5

/-- Why a number or a string stands for nothing. -/
inductive Cause
  | integer
  | hex
  | number
  | tooLarge
  /-- The second half of a pair without the first. -/
  | trailHalf
  /-- The first half of a pair before something else than the second. -/
  | leadHalf
  /-- The first half of a pair at the end of a string. -/
  | lastHalf

/-- The message for a number or a string that stands for nothing. -/
def Cause.message : Cause → String
  | .integer => "error parsing integer"
  | .hex => "error parsing hex"
  | .number => "error parsing number"
  | .tooLarge => "error parsing number: too large"
  | .trailHalf => "unexpected unicode trail surrogate"
  | .leadHalf => "expecting unicode trail surrogate"
  | .lastHalf => "missing unicode trail surrogate"

/-- Why a text is no document. -/
inductive Fault
  /-- What was expected at a position of the text. -/
  | expected (text : List Char) (position : Nat) (rules : List Rule)
  | meaning (cause : Cause)

/-! ## Numbers and strings -/

/-- Whether a number is in hexadecimal notation. A sign in front of it makes it
no number at all. -/
def isHex : List Char → Bool
  | '0' :: x :: _ :: _ => x == 'x' || x == 'X'
  | _ => false

/-- The numbers without digits that stand for something. -/
def specialNumbers : List String := ["Infinity", "-Infinity", "NaN", "-NaN"]

/-- Whether a number is written as an integer. -/
def isInteger (text : List Char) : Bool :=
  !text.contains '.' && (isHex text || !(text.contains 'e' || text.contains 'E')) &&
    !(specialNumbers.contains (String.ofList text))

/-- The integer that a text stands for. -/
def integerOf (text : List Char) : Except Cause Int :=
  if isHex text then
    let n := Text.ofDigits 16 (text.drop 2)
    if n < 0x100000000 then .ok n else .error .hex
  else
    let (negative, digits) := Decimal.splitSign text
    let n : Int := Text.ofDigits 10 digits
    let i := if negative then -n else n
    if !digits.isEmpty && digits.all Char.isDigit && Data.fits i then .ok i else .error .integer

/-- The double that a text stands for. -/
def floatOf (text : List Char) : Except Cause Float :=
  match String.ofList text with
  | "Infinity" => .ok (1.0 / 0.0)
  | "-Infinity" => .ok (-1.0 / 0.0)
  | "NaN" => .ok (0.0 / 0.0)
  | "-NaN" => .ok (0.0 / 0.0)
  | _ =>
    match Decimal.float? text with
    | none => .error .number
    | some x => if x.isFinite then .ok x else .error .tooLarge

/-- What a number stands for. -/
def numberOf (text : List Char) : Except Cause Data :=
  if isInteger text then Data.integer <$> integerOf text else Data.float <$> floatOf text

/-- The character of two halves of a pair. Bits that both halves set are not
added up. -/
def paired (lead trail : Nat) : Char :=
  Char.ofNat (((lead - 0xd800) * 0x400) ||| (trail - 0xdc00 + 0x10000))

/-- The text that the parts of a string make up. Behind the first half of a pair
any part counts as the hexadecimal number that it is written as. -/
def textOf : List Part → Except Cause (List Char)
  | [] => .ok []
  | .char c _ :: rest => do return c :: (← textOf rest)
  | .unit n :: rest =>
    if 0xdc00 ≤ n && n ≤ 0xdfff then .error .trailHalf
    else if 0xd800 ≤ n && n ≤ 0xdbff then
      match rest with
      | [] => .error .lastHalf
      | part :: rest =>
        match part.hex? with
        | none => .error .hex
        | some m =>
          if 0xdc00 ≤ m && m ≤ 0xdfff then do return paired n m :: (← textOf rest)
          else .error .leadHalf
    else do return Char.ofNat n :: (← textOf rest)

/-- The string that parts make up. -/
def stringOf (parts : List Part) : Except Cause String :=
  String.ofList <$> textOf parts

mutual

/-- What a value stands for. -/
def Node.toData : Node → Except Cause Data
  | .null => .ok .nothing
  | .boolean b => .ok (.boolean b)
  | .number text => numberOf text
  | .string parts => Data.string <$> stringOf parts
  | .array items => Data.sequence <$> Node.toItems items
  | .object fields => Data.table <$> Node.toEntries fields

/-- What values stand for. -/
def Node.toItems : List Node → Except Cause (List Data)
  | [] => .ok []
  | n :: rest => do
    let d ← n.toData
    return d :: (← Node.toItems rest)

/-- What values under keys stand for. -/
def Node.toEntries : List (List Part × Node) → Except Cause (List (String × Data))
  | [] => .ok []
  | (k, n) :: rest => do
    let key ← stringOf k
    let d ← n.toData
    return (key, d) :: (← Node.toEntries rest)

end

/-! ## Messages -/

/-- Names listed with commas, and a word before the last. -/
def listed : List String → String
  | [] => ""
  | [a] => a
  | [a, b] => a ++ " or " ++ b
  | names => ", ".intercalate names.dropLast ++ ", or " ++ names.getLast?.getD ""

/-- The line around a position: what is in front of the position on it, and
the rest with its line end. -/
def lineAround (text : List Char) (position : Nat) : List Char × List Char :=
  let before := ((text.take position).reverse.takeWhile (· != '\n')).reverse
  let behind := text.drop position
  let line := behind.takeWhile (· != '\n')
  (before, line ++ (behind.drop line.length).take 1)

/-- A line with its line ends made visible. -/
def withVisibleEnds (line : List Char) : List Char :=
  line.map fun c => if c == '\r' then '␍' else if c == '\n' then '␊' else c

/-- The message that shows a position in its line, and says what was expected
there. The mark below the line is as far from its start as the position, but no
further than the line as shown is long. -/
def expectedMessage (text : List Char) (position : Nat) (rules : List Rule) : String :=
  let names := (Rule.names.filter fun (r, _) => rules.contains r).map (·.2)
  let (before, behind) := lineAround text position
  let line :=
    if behind.head?.any fun c => c == '\n' || c == '\r' then withVisibleEnds (before ++ behind)
    else (before ++ behind).filter fun c => c != '\n' && c != '\r'
  let number := toString (1 + (text.take position).count '\n')
  let margin := String.ofList (List.replicate number.length ' ')
  let blanks := (line.take before.length).map fun c => if c == '\t' then '\t' else ' '
  margin ++ "--> " ++ number ++ ":" ++ toString (before.length + 1) ++ "\n" ++
    margin ++ " |\n" ++
    number ++ " | " ++ String.ofList line ++ "\n" ++
    margin ++ " | " ++ String.ofList blanks ++ "^---\n" ++
    margin ++ " |\n" ++
    margin ++ " = expected " ++ listed names

/-- The message for a text that is no document. -/
def Fault.message : Fault → String
  | .expected text position rules => expectedMessage text position rules
  | .meaning cause => cause.message

/-- Reads a document. -/
def read (text : String) : Except Fault Data :=
  let chars := text.toList
  match document (chars.length + 1) ⟨0, chars⟩ {} with
  | (none, trace) => .error (.expected chars trace.furthest trace.expected)
  | (some (node, _), _) =>
    match node.toData with
    | .ok data => .ok data
    | .error cause => .error (.meaning cause)

end Json5

end DialogueScript
