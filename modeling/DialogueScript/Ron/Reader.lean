import DialogueScript.Text.Digits
import DialogueScript.Text.Quoted
/-!
# Reading RON

Reading off the front of a text in RON, with the place that is reached kept for
messages, and the pieces that values are made of: blanks and comments, names,
escapes and strings.
-/

namespace DialogueScript

namespace Ron

/-- Why a text is no document. -/
inductive Cause
  | ended
  | expectedArrayEnd
  | expectedAttribute
  | expectedAttributeEnd
  | expectedComma
  | expectedChar
  | expectedFloat
  | floatUnderscore
  | expectedOption
  | expectedClosing
  | expectedColon
  | expectedMapEnd
  | expectedString
  | expectedStringEnd
  | expectedIdentifier
  /-- An escape, and what is wrong with it. -/
  | invalidEscape (why : String)
  | noSuchExtension (name : String)
  | unclosedComment
  | unexpectedByte (c : Char)
  | trailingCharacters
  | suggestRaw (name : String)
  | tooDeep

/-- A character between single quotes. -/
def shownChar (c : Char) : String :=
  match c with
  | '\x27' => "'\\''"
  | '"' => "'\"'"
  | c => "'" ++ String.ofList (Text.quotedChar c) ++ "'"

/-- What a name starts with. -/
def isNameStart (c : Char) : Bool := c.isAlpha || c == '_'

/-- What a name goes on with. -/
def isNameChar (c : Char) : Bool := c.isAlphanum || c == '_'

/-- A name between marks. One that must be raw is shown as such. -/
def shownName (name : String) : String :=
  let cs := name.toList
  if cs.head?.any isNameStart && cs.all isNameChar then "`" ++ name ++ "`"
  else "`r#" ++ name ++ "`"

/-- The message for a cause. -/
def Cause.message : Cause → String
  | .ended => "Unexpected end of RON"
  | .expectedArrayEnd => "Expected closing `]`"
  | .expectedAttribute => "Expected an `#![enable(...)]` attribute"
  | .expectedAttributeEnd => "Expected closing `)]` after the enable attribute"
  | .expectedComma => "Expected comma"
  | .expectedChar => "Expected char"
  | .expectedFloat => "Expected float"
  | .floatUnderscore => "Unexpected underscore in float"
  | .expectedOption => "Expected option"
  | .expectedClosing => "Expected closing `)`"
  | .expectedColon => "Expected colon"
  | .expectedMapEnd => "Expected closing `\x7d`"
  | .expectedString => "Expected string"
  | .expectedStringEnd => "Expected end of string"
  | .expectedIdentifier => "Expected identifier"
  | .invalidEscape why => why
  | .noSuchExtension name => "No RON extension named " ++ shownName name
  | .unclosedComment => "Unclosed block comment"
  | .unexpectedByte c => "Unexpected byte " ++ shownChar c
  | .trailingCharacters => "Non-whitespace trailing characters"
  | .suggestRaw name =>
    "Found invalid std identifier `" ++ name ++ "`, try the raw identifier `r#" ++ name ++
      "` instead"
  | .tooDeep =>
    "Exceeded recursion limit, try increasing the limit and using `serde_stacker` to protect " ++
      "against a stack overflow"

/-- Where in a text the reading stands. Columns count bytes. -/
structure Cursor where
  line : Nat := 1
  column : Nat := 1
  rest : List Char

/-- The cursor behind so many characters. -/
def Cursor.forward : Nat → Cursor → Cursor
  | 0, c => c
  | n + 1, c =>
    match c.rest with
    | [] => c
    | '\n' :: rest => Cursor.forward n ⟨c.line + 1, 1, rest⟩
    | x :: rest => Cursor.forward n ⟨c.line, c.column + x.utf8Size, rest⟩

/-- A reading. When it fails the cursor stays where it was reached. -/
abbrev Reader := ExceptT Cause (StateM Cursor)

/-- Fails. -/
def fail {α : Type} (cause : Cause) : Reader α := throw cause

/-- The rest of the text, left in place. -/
def rest : Reader (List Char) := do return (← get).rest

/-- The next character, left in place. -/
def peek : Reader (Option Char) := do return (← rest).head?

/-- The next character, left in place, which must be there. -/
def peekOrEnd : Reader Char := do
  match ← peek with
  | some c => return c
  | none => fail .ended

/-- Moves on by so many characters. -/
def advance (n : Nat) : Reader Unit := modify (Cursor.forward n)

/-- The first byte of a character, as a character. -/
def firstByte (c : Char) : Char :=
  let n := c.toNat
  if n < 0x80 then c
  else if n < 0x800 then Char.ofNat (0xc0 + n / 0x40)
  else if n < 0x10000 then Char.ofNat (0xe0 + n / 0x1000)
  else Char.ofNat (0xf0 + n / 0x40000)

/-- Moves on by one byte. No reading goes on in the middle of a character. -/
def Cursor.passByte (c : Cursor) : Cursor :=
  match c.rest with
  | [] => c
  | '\n' :: rest => ⟨c.line + 1, 1, rest⟩
  | _ :: rest => ⟨c.line, c.column + 1, rest⟩

/-- The next byte, which must be there. -/
def next : Reader Char := do
  let c ← peekOrEnd
  modify Cursor.passByte
  return firstByte c

/-- Whether the text goes on with a word, which is then passed. -/
def consume (w : String) : Reader Bool := do
  if w.toList.isPrefixOf (← rest) then
    advance w.length
    return true
  else return false

/-- Passes a character, or fails. -/
def expect (c : Char) (cause : Cause) : Reader Unit := do
  if (← next) != c then fail cause

/-- Does a reading without moving on. A failure leaves the cursor as it was. -/
def ahead {α : Type} (r : Reader α) : Reader α := do
  let c ← get
  match (r.run c).1 with
  | .ok a => return a
  | .error cause => fail cause

/-- Does a reading, and moves on only if it succeeds. -/
def attempt {α : Type} (r : Reader α) : Reader (Option α) := do
  let c ← get
  match r.run c with
  | (.ok a, c) =>
    set c
    return some a
  | (.error _, _) => return none

/-- Does a reading, and tells how it ended. -/
def outcome {α : Type} (r : Reader α) : Reader (Except Cause α) := ExceptT.lift r.run

/-! ## Blanks and comments -/

/-- Blank characters. -/
def isBlank (c : Char) : Bool := c == ' ' || c == '\t' || c == '\n' || c == '\r'

/-- The rest of a comment in marks, which may nest. -/
def blockComment : (fuel level : Nat) → Reader Unit
  | 0, _ => fail .unclosedComment
  | fuel + 1, level => do
    let text ← rest
    if text.isEmpty then fail .unclosedComment
    advance (text.takeWhile fun c => c != '/' && c != '*').length
    if ← consume "/*" then blockComment fuel (level + 1)
    else if ← consume "*/" then
      if level ≤ 1 then return () else blockComment fuel (level - 1)
    else if (← rest).isEmpty then fail .unclosedComment
    else
      advance 1
      blockComment fuel level

/-- Skips a comment, if there is one. -/
def comment : Reader Bool := do
  if ← consume "/" then
    match ← next with
    | '/' =>
      advance ((← rest).takeWhile (· != '\n')).length
      return true
    | '*' =>
      blockComment ((← rest).length + 1) 1
      return true
    | c => fail (.unexpectedByte c)
  else return false

/-- Skips blanks and comments, at most so many of them. -/
def fillerLoop : (fuel : Nat) → Reader Unit
  | 0 => return ()
  | fuel + 1 => do
    advance ((← rest).takeWhile isBlank).length
    if ← comment then fillerLoop fuel

/-- Skips blanks and comments. -/
def filler : Reader Unit := do fillerLoop ((← rest).length + 1)

/-- Skips a comma with what is around it, and says whether there was one. -/
def comma : Reader Bool := do
  filler
  if ← consume "," then
    filler
    return true
  else return false

/-! ## Names -/

/-- What a raw name is made of. -/
def isRawChar (c : Char) : Bool := isNameChar c || c == '.' || c == '+' || c == '-'

/-- A name. A raw one has a mark in front and may hold more signs. -/
def identifier : Reader String := do
  let c ← peekOrEnd
  let text ← rest
  let raw := String.ofList (text.takeWhile isRawChar)
  if !isNameStart c then
    if isRawChar c then fail (.suggestRaw raw) else fail .expectedIdentifier
  else
    let plain : Reader String := do
      let name := text.takeWhile isNameChar
      if name.length < raw.length then fail (.suggestRaw raw)
      advance name.length
      return String.ofList name
    match text with
    | ['r'] => fail .ended
    | 'r' :: '"' :: _ => fail .expectedIdentifier
    | 'r' :: '#' :: behind =>
      let name := behind.takeWhile isRawChar
      if name.isEmpty then fail .expectedIdentifier
      advance (2 + name.length)
      return String.ofList name
    | _ => plain

/-- Whether the text goes on with a given name and no longer one. -/
def atName (w : String) : Reader Bool := do
  let text ← rest
  return w.toList.isPrefixOf text && !(text.drop w.length).head?.any isNameChar

/-- Whether the text goes on with a given name, which is then passed. -/
def consumeName (w : String) : Reader Bool := do
  if ← atName w then
    advance w.length
    return true
  else return false

/-! ## Strings -/

/-- A hexadecimal digit of an escape. -/
def hexDigit : Reader Nat := do
  match Text.hexDigit? (← next) with
  | some d => return d
  | none => fail (.invalidEscape "Non-hex digit found")

/-- The digits of an escape between braces, at most so many more: how many
there were, and their value. -/
def braceDigits : (left count value : Nat) → Reader (Nat × Nat)
  | 0, count, value => return (count, value)
  | left + 1, count, value => do
    if (← peekOrEnd) == '\x7d' then return (count, value)
    else braceDigits left (count + 1) (value * 16 + (← hexDigit))

/-- The character of the escape behind a backslash. -/
def escape : Reader Char := do
  match ← next with
  | '\x27' => return '\x27'
  | '"' => return '"'
  | '\\' => return '\\'
  | 'n' => return '\n'
  | 'r' => return '\r'
  | 't' => return '\t'
  | '0' => return '\x00'
  | 'x' => return Char.ofNat ((← hexDigit) * 16 + (← hexDigit))
  | 'u' =>
    expect '\x7b' (.invalidEscape "Missing \x7b in Unicode escape")
    let (count, value) ← braceDigits 6 0 0
    if count = 0 then
      fail (.invalidEscape "Expected 1-6 digits, got 0 digits in Unicode escape")
    expect '\x7d' (.invalidEscape "No \x7d at the end of Unicode escape")
    match Text.scalar? value with
    | some c => return c
    | none => fail (.invalidEscape "Not a valid char")
  | _ => fail (.invalidEscape "Unknown escape character")

/-- The rest of a string with escapes. Where it does not end, the place is that
of its last escape. -/
def escapedString : (fuel : Nat) → (read : List Char) → Reader String
  | 0, _ => fail .expectedStringEnd
  | fuel + 1, read => do
    let text ← rest
    let plain := text.takeWhile fun c => c != '\\' && c != '"'
    let read := read ++ plain
    match text.drop plain.length with
    | [] => fail .expectedStringEnd
    | '"' :: _ =>
      advance (plain.length + 1)
      return String.ofList read
    | _ =>
      advance (plain.length + 1)
      let c ← escape
      escapedString fuel (read ++ [c])

/-- How long a text is up to a mark. -/
def lengthBefore (mark : List Char) : List Char → Option Nat
  | [] => none
  | c :: cs =>
    if mark.isPrefixOf (c :: cs) then some 0 else (lengthBefore mark cs).map (· + 1)

/-- The rest of a string without escapes: up to a quote with as many signs
behind it as there are in front. -/
def rawString : Reader String := do
  let hashes := (← rest).takeWhile (· == '#')
  advance hashes.length
  if !(← consume "\"") then fail .expectedString
  let text ← rest
  match lengthBefore ('"' :: hashes) text with
  | some n =>
    advance (n + 1 + hashes.length)
    return String.ofList (text.take n)
  | none => fail .expectedStringEnd

/-- A string. -/
def string : Reader String := do
  if ← consume "\"" then escapedString ((← rest).length + 1) []
  else if ← consume "r" then rawString
  else fail .expectedString

/-- A character between single quotes. -/
def char : Reader Char := do
  if !(← consume "'") then fail .expectedChar
  let c ← do
    if (← peekOrEnd) == '\\' then
      advance 1
      escape
    else
      match ← rest with
      | c :: '\x27' :: _ =>
        if c == '\x27' then fail .expectedChar
        advance 1
        pure c
      | _ => fail .expectedChar
  if !(← consume "'") then fail .expectedChar
  return c

end Ron

end DialogueScript
