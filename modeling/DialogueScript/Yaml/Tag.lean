import DialogueScript.Text.Digits
import DialogueScript.Yaml.Scanner
/-!
# Tags in YAML

Tags, and the directives in front of a document, which give a version or say
what the handles of tags stand for. A tag is written out between angle brackets,
or as a handle with a name behind it.
-/

namespace DialogueScript

namespace Yaml

open Scanning

/-! ## Characters -/

/-- Characters of words: letters, digits, `_` and `-`. -/
def isWordSign (c : Char) : Bool := c.isAlphanum || c == '_' || c == '-'

/-- Characters of addresses. -/
def isAddressSign (c : Char) : Bool :=
  isWordSign c || "#;/?:@&=+$,_.!~*'()[]%".toList.contains c

/-- Characters of the names of tags. -/
def isTagSign (c : Char) : Bool := isAddressSign c && !isFlowSign (some c) && c != '!'

/-- How many bytes a character takes, by the first of them. -/
def byteCount (byte : Nat) : Option Nat :=
  if byte < 0x80 then some 1
  else if byte < 0xc0 then none
  else if byte < 0xe0 then some 2
  else if byte < 0xf0 then some 3
  else if byte < 0xf8 then some 4
  else none

/-- The byte of an escape in a tag. -/
def escapedByte (start : Mark) : Scanning Nat := do
  match ← rest with
  | '%' :: a :: b :: _ =>
    if Text.isDigitOf 16 a && Text.isDigitOf 16 b then
      skipMany 3
      return Text.ofDigits 16 [a, b]
    else failAt start .tagEscape
  | _ => failAt start .tagEscape

/-- The further bytes of a character, so many, behind those that are read. -/
def furtherBytes (start : Mark) : (count read : Nat) → Scanning Nat
  | 0, read => return read
  | count + 1, read => do
    let byte ← escapedByte start
    if byte / 0x40 ≠ 2 then failAt start .tagFurtherByte
    furtherBytes start count (read * 0x100 + byte)

/-- The character of an escape in a tag, whose bytes in a row are its code
point. -/
def escapedChar (start : Mark) : Scanning Char := do
  let byte ← escapedByte start
  match byteCount byte with
  | none => failAt start .tagFirstByte
  | some count =>
    match Text.scalar? (← furtherBytes start (count - 1) byte) with
    | some c => return c
    | none => failAt start .tagCodePoint

/-- Characters as long as they pass a test, with escapes. -/
def addressLoop (start : Mark) (test : Char → Bool) : (fuel : Nat) → (read : List Char) →
    Scanning (List Char)
  | 0, read => return read.reverse
  | fuel + 1, read => do
    match ← peek with
    | none => return read.reverse
    | some c =>
      if !test c then return read.reverse
      else if c == '%' then
        let d ← escapedChar start
        addressLoop start test fuel (d :: read)
      else
        skip
        addressLoop start test fuel (c :: read)

/-- Characters as long as they pass a test, with escapes. -/
def address (start : Mark) (test : Char → Bool) : Scanning (List Char) :=
  withFuel fun n => addressLoop start test n []

/-! ## Tags -/

/-- A handle: a mark alone, or a word between two marks. In front of a name the
second mark may be missing, and the word belongs to the name. -/
def handle (start : Mark) (closed : Bool) : Scanning (List Char) := do
  if (← peek) != some '!' then failAt start .tagMark
  skip
  let word := (← rest).takeWhile isWordSign
  skipMany word.length
  if (← peek) == some '!' then
    skip
    return '!' :: word ++ ['!']
  else
    if closed && !word.isEmpty then failAt start .handleMark
    return '!' :: word

/-- Whether a handle is a word between two marks. -/
def isNamedHandle (text : List Char) : Bool := 2 ≤ text.length && text.getLast? == some '!'

/-- A tag that is written out. -/
def verbatimTag (start : Mark) : Scanning Tag := do
  skipMany 2
  let name ← address start isAddressSign
  if (← peek) != some '>' then failAt start .verbatimEnd
  skip
  return ⟨"", String.ofList name⟩

/-- A tag by a handle and a name. A mark alone is a name of its own. -/
def shorthandTag (start : Mark) : Scanning Tag := do
  let handle ← handle start false
  let name ← address start isTagSign
  if isNamedHandle handle then
    if name.isEmpty then failAt start .tagName
    return ⟨String.ofList handle, String.ofList name⟩
  else
    let name := handle.drop 1 ++ name
    if name.isEmpty then return ⟨"", "!"⟩ else return ⟨"!", String.ofList name⟩

/-- A tag. -/
def tag : Scanning Unit := do
  saveKey
  allowKey false
  let start ← mark
  let t ← if (← peekAt 1) == some '<' then verbatimTag start else shorthandTag start
  let next ← peek
  if !(isGap next || ((← inFlow) && isFlowSign next)) then failAt start .tagEnd
  push (.tag t) start

/-! ## Directives -/

/-- Moves on over the blanks within a directive. -/
def skipBlankRun : Scanning Unit := do
  skipBlankMany ((← rest).takeWhile fun c => isBlank (some c)).length

/-- How long a number of a version may be. -/
def versionLimit : Nat := 9

/-- A number of a version. -/
def versionNumber (start : Mark) : Scanning Unit := do
  let digits := (← rest).takeWhile Char.isDigit
  if versionLimit < digits.length then failAt start .versionLength
  if digits.isEmpty then failAt start .versionDigits
  skipMany digits.length

/-- A version. -/
def version (start : Mark) : Scanning Token := do
  skipBlankRun
  versionNumber start
  if (← peek) != some '.' then failAt start .versionPoint
  skip
  versionNumber start
  return .version

/-- A handle and what it stands for. -/
def handleMeaning (start : Mark) : Scanning Token := do
  skipBlankRun
  let name ← handle start true
  skipBlankRun
  let next ← peek
  if !(next == some '!' || next.any isTagSign) then failAt start .handleStart
  let meaning ← address start isAddressSign
  if !isGap (← peek) then failAt start .handleEnd
  return .handle (String.ofList name) (String.ofList meaning)

/-- What a directive with a name says. One with another name says nothing. -/
def directiveBody (start : Mark) (name : String) : Scanning Token := do
  match name with
  | "YAML" => version start
  | "TAG" => handleMeaning start
  | _ =>
    skipLine
    return .handle "" ""

/-- A directive. -/
def directive : Scanning Unit := do
  let start ← mark
  skip
  let named ← mark
  let name := (← rest).takeWhile isWordSign
  skipMany name.length
  if name.isEmpty then failAt named .directiveName
  if !isGap (← peek) then failAt named .directiveNameEnd
  let token ← directiveBody start (String.ofList name)
  discard (skipBlanks true)
  if !isLineEnd (← peek) then failAt start .directiveEnd
  skipBreak
  push token start

end Yaml

end DialogueScript
