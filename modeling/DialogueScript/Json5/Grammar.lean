import DialogueScript.Text.Digits
import DialogueScript.Text.Letter
import DialogueScript.Text.Peg
/-!
# The grammar of JSON5

JSON with comments, keys without quotes, strings in either quotes, numbers in
more notations, and a comma behind the last item. The tree that the grammar
gives still holds numbers as they are written and strings in their parts.
-/

namespace DialogueScript

namespace Json5

open Text

/-- The rules that messages name. -/
inductive Rule
  | endOfInput
  | array
  | boolean
  | charEscape
  | charLiteral
  | hexEscape
  | identifier
  | nulEscape
  | null
  | number
  | object
  | string
  | unicodeEscape
deriving Repr, DecidableEq

/-- The rules in the order in which messages list them, with their names. -/
def Rule.names : List (Rule × String) :=
  [(.endOfInput, "EOI"), (.array, "array"), (.boolean, "boolean"),
    (.charEscape, "char_escape_sequence"), (.charLiteral, "char_literal"),
    (.hexEscape, "hex_escape_sequence"), (.identifier, "identifier"),
    (.nulEscape, "nul_escape_sequence"), (.null, "null"), (.number, "number"),
    (.object, "object"), (.string, "string"), (.unicodeEscape, "unicode_escape_sequence")]

/-- A part of a string: a character and how it is written, apart from a
backslash in front, or a unit of UTF-16 given by number. -/
inductive Part
  | char (c written : Char)
  | unit (n : Nat)

/-- The hexadecimal number that a part is written as. -/
def Part.hex? : Part → Option Nat
  | .char _ written => if isDigitOf 16 written then some (ofDigits 16 [written]) else none
  | .unit n => some n

/-- A value as it is written. -/
inductive Node
  | null
  | boolean (b : Bool)
  | number (text : List Char)
  | string (parts : List Part)
  | array (items : List Node)
  | object (fields : List (List Part × Node))
deriving Inhabited

abbrev Grammar := Peg Rule

open Peg

/-! ## Between the tokens -/

/-- Characters that end a line. -/
def isLineEnd (c : Char) : Bool :=
  c == '\n' || c == '\r' || c.toNat == 0x2028 || c.toNat == 0x2029

/-- Blank characters. -/
def isBlank (c : Char) : Bool :=
  let n := c.toNat
  n == 0x09 || n == 0x0b || n == 0x0c || n == 0x20 || n == 0xa0 || n == 0x1680 ||
    (0x2000 ≤ n && n ≤ 0x200a) || n == 0x202f || n == 0x205f || n == 0x3000 || n == 0xfeff ||
    isLineEnd c

/-- How long a comment is from inside it to its closing mark. -/
def closingLength : List Char → Option Nat
  | [] => none
  | '*' :: '/' :: _ => some 2
  | _ :: cs => (closingLength cs).map (· + 1)

/-- A comment. -/
def comment : Grammar Unit :=
  orElse
    (do
      word "/*"
      match closingLength (← rest) with
      | some n => discard (take n)
      | none => refuse)
    (do
      word "//"
      discard (many fun c => !isLineEnd c))

/-- Skips blanks and comments. -/
def filler : Grammar Unit := do
  let loop : Grammar Unit := do
    comment
    discard (many isBlank)
  discard (many isBlank)
  discard (repeated loop)

/-! ## Numbers -/

/-- How many decimal digits are in front of a text. -/
def digitsLength (cs : List Char) : Nat := (cs.takeWhile Char.isDigit).length

/-- How long the sign in front of a text is. -/
def signLength : List Char → Nat
  | '+' :: _ => 1
  | '-' :: _ => 1
  | _ => 0

/-- How long the exponent in front of a text is, if there is one. -/
def exponentLength : List Char → Nat
  | [] => 0
  | c :: cs =>
    if c == 'e' || c == 'E' then
      let s := signLength cs
      let d := digitsLength (cs.drop s)
      if d = 0 then 0 else 1 + s + d
    else 0

/-- How long the decimal number in front of a text is. A zero takes no digit
behind it, and a point needs digits on one side. -/
def decimalLength (cs : List Char) : Option Nat :=
  let whole := if cs.head? == some '0' then 1 else digitsLength cs
  match cs.drop whole with
  | '.' :: places =>
    let d := digitsLength places
    if whole = 0 && d = 0 then none
    else some (whole + 1 + d + exponentLength (places.drop d))
  | behind => if whole = 0 then none else some (whole + exponentLength behind)

/-- How long the hexadecimal number in front of a text is. -/
def hexLength : List Char → Option Nat
  | '0' :: x :: cs =>
    let d := (cs.takeWhile (isDigitOf 16)).length
    if (x == 'x' || x == 'X') && d != 0 then some (2 + d) else none
  | _ => none

/-- How long the word in front of a text is, if it is the given one. -/
def wordLength (w : String) (cs : List Char) : Option Nat :=
  if w.toList.isPrefixOf cs then some w.length else none

/-- How long the number without a sign in front of a text is. -/
def numericLength (cs : List Char) : Option Nat :=
  (hexLength cs).orElse fun _ => (decimalLength cs).orElse fun _ =>
    (wordLength "Infinity" cs).orElse fun _ => wordLength "NaN" cs

/-- A number. -/
def number : Grammar (List Char) :=
  rule .number do
    let text ← rest
    let s := signLength text
    match numericLength (text.drop s) with
    | some n => take (s + n)
    | none => refuse

/-! ## Strings and keys -/

/-- A character that stands for itself. -/
def charLiteral : Grammar Part :=
  rule .charLiteral do
    let c ← one fun c => c != '\\' && !isLineEnd c
    return .char c c

/-- Escapes by a letter, and what they stand for. -/
def singleEscapes : List (Char × Char) :=
  [('\x27', '\x27'), ('"', '"'), ('\\', '\\'), ('b', '\x08'), ('f', '\x0c'), ('n', '\n'),
    ('r', '\r'), ('t', '\t'), ('v', '\x0b')]

/-- The number of so many hexadecimal digits. -/
def hexDigits (count : Nat) : Grammar Part := do
  let ds ← take count
  if ds.all (isDigitOf 16) then return .unit (ofDigits 16 ds) else refuse

/-- An escape by the number of a unit of UTF-16, behind its mark. -/
def unicodeEscape : Grammar Part := rule .unicodeEscape (hexDigits 4)

/-- An escape behind its backslash. A character without a meaning of its own
stands for itself. -/
def escape : Grammar Part :=
  orElse
    (rule .charEscape do
      let c ← one fun c => !(c.isDigit || c == 'x' || c == 'u' || isLineEnd c)
      return .char ((singleEscapes.lookup c).getD c) c)
    (orElse
      (rule .nulEscape do
        word "0"
        return .char '\x00' '0')
      (orElse
        (do
          word "x"
          rule .hexEscape (hexDigits 2))
        (do
          word "u"
          unicodeEscape)))

/-- A line end behind a backslash, which is not part of a string. -/
def lineContinuation : Grammar (Option Part) := do
  word "\\"
  orElse (word "\r\n") (discard (one isLineEnd))
  return none

/-- A part of a string in given quotes, unless it is a wrapped line end. -/
def stringPart (quote : Char) : Grammar (Option Part) :=
  orElse
    (do
      word "\\"
      some <$> escape)
    (orElse lineContinuation
      (do
        if (← rest).head? == some quote then refuse
        some <$> charLiteral))

/-- A string in given quotes. -/
def quotedString (quote : Char) : Grammar (List Part) := do
  discard (one (· == quote))
  let parts ← repeated (stringPart quote)
  discard (one (· == quote))
  return parts.filterMap id

/-- A string. -/
def string : Grammar (List Part) :=
  rule .string (orElse (quotedString '"') (quotedString '\x27'))

/-- What a key without quotes starts with. -/
def identifierStart : Grammar Part :=
  orElse
    (do
      if (← rest).head?.any fun c => isLetter c || c == '$' || c == '_' then charLiteral
      else refuse)
    (do
      word "\\u"
      unicodeEscape)

/-- What a key without quotes goes on with. -/
def identifierPart : Grammar Part :=
  orElse identifierStart
    (do
      if (← rest).head?.any fun c => isNameMark c || c.toNat == 0x200c || c.toNat == 0x200d then
        charLiteral
      else refuse)

/-- A key without quotes. -/
def identifier : Grammar (List Part) :=
  rule .identifier do
    let first ← identifierStart
    return first :: (← repeated identifierPart)

/-! ## Values -/

/-- Items between two marks, with commas between them and maybe behind the
last. -/
def items {α : Type} (opening closing : String) (item : Grammar α) : Grammar (List α) := do
  word opening
  filler
  orElse
    (do
      word closing
      return [])
    (do
      let first ← item
      let another : Grammar α := do
        filler
        word ","
        filler
        item
      let others ← repeated another
      filler
      discard (attempt (word ","))
      filler
      word closing
      return first :: others)

/-- A value in which values nest less than so deep. -/
def value : (depth : Nat) → Grammar Node
  | 0 => refuse
  | depth + 1 =>
    orElse
      (rule .null do
        word "null"
        return .null)
    (orElse
      (rule .boolean (orElse
        (do
          word "true"
          return .boolean true)
        (do
          word "false"
          return .boolean false)))
    (orElse (Node.string <$> string)
    (orElse (Node.number <$> number)
    (orElse
      (rule .object (Node.object <$> items "\x7b" "\x7d" do
        let key ← orElse identifier string
        filler
        word ":"
        filler
        return (key, ← value depth)))
      (rule .array (Node.array <$> items "[" "]" (value depth)))))))

/-- A whole text. -/
def document (depth : Nat) : Grammar Node := do
  filler
  let v ← value depth
  filler
  rule .endOfInput eof
  return v

end Json5

end DialogueScript
