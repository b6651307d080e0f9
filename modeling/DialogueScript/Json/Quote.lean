import DialogueScript.Json.Fault
/-!
# Strings in JSON texts

Reading and writing what stands between two quotes. A string is read character
by character: escapes are resolved, a pair of surrogate escapes becomes one
character, and a raw control character is refused. Writing escapes a quote, a
backslash and the controls, and leaves every other character as it is.
-/

namespace DialogueScript

namespace Json

/-! ## Reading -/

/-- The value of a hexadecimal digit. -/
def hexDigit? (c : Char) : Option Nat :=
  if '0' ≤ c ∧ c ≤ '9' then some (c.toNat - '0'.toNat)
  else if 'a' ≤ c ∧ c ≤ 'f' then some (c.toNat - 'a'.toNat + 10)
  else if 'A' ≤ c ∧ c ≤ 'F' then some (c.toNat - 'A'.toNat + 10)
  else none

/-- Four hexadecimal digits. If fewer than four bytes are left the string is
unfinished. -/
def hexUnit : List Char → Except Fault (Nat × List Char)
  | a :: b :: c :: d :: rest =>
    match hexDigit? a, hexDigit? b, hexDigit? c, hexDigit? d with
    | some a, some b, some c, some d => .ok (((a * 16 + b) * 16 + c) * 16 + d, rest)
    | _, _, _, _ => .error (.malformed .invalidEscape)
  | short =>
    if 4 ≤ (String.ofList short).utf8ByteSize then .error (.malformed .invalidEscape)
    else .error (.unfinished .string)

/-- Whether a unit opens a surrogate pair. -/
def isLeading (n : Nat) : Bool := 0xd800 ≤ n && n ≤ 0xdbff

/-- Whether a unit closes a surrogate pair. -/
def isTrailing (n : Nat) : Bool := 0xdc00 ≤ n && n ≤ 0xdfff

/-- The second half of a surrogate pair, written as an escape of its own. -/
def trailingUnit : List Char → Except Fault (Nat × List Char)
  | [] => .error (.unfinished .string)
  | '\\' :: [] => .error (.unfinished .string)
  | '\\' :: 'u' :: cs => do
    let (n, rest) ← hexUnit cs
    if isTrailing n then .ok (n, rest) else .error (.malformed .loneSurrogate)
  | _ => .error (.malformed .unfinishedSurrogate)

/-- The character of an escape by number. -/
def unicodeEscape (cs : List Char) : Except Fault (Char × List Char) := do
  let (n, cs) ← hexUnit cs
  if isTrailing n then .error (.malformed .loneSurrogate)
  else if isLeading n then
    let (m, rest) ← trailingUnit cs
    .ok (Char.ofNat (0x10000 + (n - 0xd800) * 0x400 + (m - 0xdc00)), rest)
  else .ok (Char.ofNat n, cs)

/-- The character an escape letter stands for. -/
def escapeLetter? : Char → Option Char
  | '"' => some '"'
  | '\\' => some '\\'
  | '/' => some '/'
  | 'b' => some '\x08'
  | 'f' => some '\x0c'
  | 'n' => some '\n'
  | 'r' => some '\r'
  | 't' => some '\t'
  | _ => none

/-- The character of the escape behind a backslash. -/
def escape : List Char → Except Fault (Char × List Char)
  | [] => .error (.unfinished .string)
  | 'u' :: cs => unicodeEscape cs
  | c :: cs =>
    match escapeLetter? c with
    | some d => .ok (d, cs)
    | none => .error (.malformed .invalidEscape)

/-- Whether a character may stand in a string only as an escape. -/
def isControl (c : Char) : Bool := c.toNat < 0x20

/-- The rest of a string up to its closing quote, in front of which `read`
stands reversed. Each step takes at least one character, so the length of the
text is fuel enough. -/
def stringBody : (fuel : Nat) → (read : List Char) → List Char → Except Fault (String × List Char)
  | 0, _, _ => .error (.unfinished .string)
  | fuel + 1, read, cs =>
    match cs with
    | [] => .error (.unfinished .string)
    | '"' :: rest => .ok (String.ofList read.reverse, rest)
    | '\\' :: rest => do
      let (c, rest) ← escape rest
      stringBody fuel (c :: read) rest
    | c :: rest =>
      if isControl c then .error (.malformed .controlCharacter)
      else stringBody fuel (c :: read) rest

/-- Reads a string whose opening quote is behind. -/
def readString (cs : List Char) : Except Fault (String × List Char) :=
  stringBody cs.length [] cs

/-- Steps over the escape behind a backslash. Surrogates need not pair up. -/
def skipEscape : List Char → Except Fault (List Char)
  | [] => .error (.unfinished .string)
  | 'u' :: cs => do
    let (_, rest) ← hexUnit cs
    .ok rest
  | c :: cs =>
    match escapeLetter? c with
    | some _ => .ok cs
    | none => .error (.malformed .invalidEscape)

/-- Steps over the rest of a string. -/
def skipStringBody : (fuel : Nat) → List Char → Except Fault (List Char)
  | 0, _ => .error (.unfinished .string)
  | fuel + 1, cs =>
    match cs with
    | [] => .error (.unfinished .string)
    | '"' :: rest => .ok rest
    | '\\' :: rest => do
      let rest ← skipEscape rest
      skipStringBody fuel rest
    | c :: rest =>
      if isControl c then .error (.malformed .controlCharacter)
      else skipStringBody fuel rest

/-- Steps over a string whose opening quote is behind. -/
def skipString (cs : List Char) : Except Fault (List Char) :=
  skipStringBody cs.length cs

/-! ## Writing -/

/-- A hexadecimal digit in small letters. -/
def hexChar (n : Nat) : Char :=
  Nat.digitChar (n % 16)

/-- A character as it is written inside a string. -/
def writtenChar (c : Char) : List Char :=
  match c with
  | '"' => ['\\', '"']
  | '\\' => ['\\', '\\']
  | '\x08' => ['\\', 'b']
  | '\x0c' => ['\\', 'f']
  | '\n' => ['\\', 'n']
  | '\r' => ['\\', 'r']
  | '\t' => ['\\', 't']
  | c =>
    if isControl c then ['\\', 'u', '0', '0', hexChar (c.toNat / 16), hexChar c.toNat]
    else [c]

/-- A string between quotes. -/
def writeString (s : String) : List Char :=
  '"' :: s.toList.flatMap writtenChar ++ ['"']

end Json

end DialogueScript
