import DialogueScript.Data
import DialogueScript.Text.Digits
import DialogueScript.Text.Quoted
import DialogueScript.Text.Space
/-!
# INI documents

A document is a list of keys with values, all of them strings, and of sections
`[name]` with keys of their own. A comment starts at the start of a line. A key
goes up to an equals sign or a colon, a value to the end of its line unless it
is quoted, and both may hold escapes.
-/

namespace DialogueScript

namespace Ini

/-- Where in a text the reading stands. The line and the column are those of
the next character; a line end counts as the start of the line behind it. -/
structure Cursor where
  line : Nat := 0
  column : Nat := 0
  rest : List Char

/-- Why a text is no document. -/
inductive Cause
  | inlineComment
  | missingKey
  /-- The text ended before one of several characters, or its own end. -/
  | ended (before : List (Option Char))
  /-- An escape by number that names no character. -/
  | unknownCharacter
  /-- A backslash within an escape by number, and what stood behind it. -/
  | brokenEscape (found : Option Char)

/-- Why and where a text is no document. Lines and columns count from one. -/
structure Fault where
  line : Nat
  column : Nat
  cause : Cause

/-- A character between single quotes. -/
def shownChar (c : Char) : List Char :=
  let shown :=
    match c with
    | '\x27' => ['\\', '\x27']
    | '"' => ['"']
    | c => Text.quotedChar c
  '\x27' :: shown ++ ['\x27']

/-- A character, or the end of the text. -/
def shownEnd : Option Char → String
  | some c => "Some(" ++ String.ofList (shownChar c) ++ ")"
  | none => "None"

/-- The message for a cause. -/
def Cause.message : Cause → String
  | .inlineComment => "doesn't support inline comment"
  | .missingKey => "missing key"
  | .ended before =>
    "expecting \"[" ++ ", ".intercalate (before.map shownEnd) ++ "]\" but found EOF."
  | .unknownCharacter => "unknown character in \\xHH form"
  | .brokenEscape found => "expecting \"\\\\n\" but found \"" ++ shownEnd found ++ "\"."

/-- The message for a text that is no document. -/
def Fault.message (f : Fault) : String :=
  toString f.line ++ ":" ++ toString f.column ++ " " ++ f.cause.message

namespace Cursor

/-- Puts text in front of a cursor that has come to a line and a column. -/
def arrive (line column : Nat) (rest : List Char) : Cursor :=
  match rest with
  | [] => ⟨line, column, []⟩
  | '\n' :: _ => ⟨line + 1, 0, rest⟩
  | _ :: _ => ⟨line, column + 1, rest⟩

/-- The start of a text. -/
def start (text : String) : Cursor := arrive 0 0 text.toList

/-- The cursor behind the next character. -/
def forward (c : Cursor) : Cursor :=
  match c.rest with
  | [] => c
  | _ :: rest => arrive c.line c.column rest

/-- A fault at a cursor. -/
def fault {α : Type} (c : Cursor) (cause : Cause) : Except Fault α :=
  .error ⟨c.line + 1, c.column + 1, cause⟩

/-- Moves on while characters pass a test. -/
def skip (test : Char → Bool) : (fuel : Nat) → Cursor → Cursor
  | 0, c => c
  | fuel + 1, c => if c.rest.head?.any test then skip test fuel c.forward else c

/-- Moves on over blanks and line ends. -/
def skipSpace (c : Cursor) : Cursor := c.skip Text.isSpace c.rest.length

/-- Moves on over blanks. -/
def skipBlanks (c : Cursor) : Cursor :=
  c.skip (fun x => Text.isSpace x && x != '\n' && x != '\r') c.rest.length

/-- Moves on to the next line. -/
def skipLine (c : Cursor) : Cursor :=
  (c.skip (· != '\n') c.rest.length).forward

end Cursor

/-! ## Pieces of text -/

/-- What a piece of text goes up to. -/
abbrev Ends := List (Option Char)

/-- The digits of an escape by number, with the cursor at the character in front
of them and then at the last of them. -/
def escapeDigits (ends : Ends) : (count : Nat) → (read : List Char) → Cursor →
    Except Fault (List Char × Cursor)
  | 0, read, c => .ok (read.reverse, c)
  | count + 1, read, c =>
    let c := c.forward
    match c.rest with
    | [] => c.fault (.ended ends)
    | '\\' :: _ =>
      let c := c.forward
      if c.rest.head? == some '\n' then escapeDigits ends count ('\\' :: read) c
      else c.fault (.brokenEscape c.rest.head?)
    | d :: _ => escapeDigits ends count (d :: read) c

/-- The character of the digits of an escape. A plus may stand in front. -/
def numbered (digits : List Char) : Option Char :=
  let digits :=
    match digits with
    | '+' :: rest => rest
    | digits => digits
  if digits.all (Text.isDigitOf 16) then Text.scalar? (Text.ofDigits 16 digits) else none

/-- What the escape at a cursor, behind its backslash, stands for; the cursor is
left at the last character of it. -/
def escape (ends : Ends) (c : Cursor) : Except Fault (List Char × Cursor) :=
  match c.rest with
  | [] => c.fault (.ended ends)
  | '0' :: _ => .ok (['\x00'], c)
  | 'a' :: _ => .ok (['\x07'], c)
  | 'b' :: _ => .ok (['\x08'], c)
  | 't' :: _ => .ok (['\t'], c)
  | 'r' :: _ => .ok (['\r'], c)
  | 'n' :: _ => .ok (['\n'], c)
  | '\n' :: _ => .ok ([], c)
  | 'x' :: _ => do
    let (digits, c) ← escapeDigits ends 4 [] c
    match numbered digits with
    | some d => return ([d], c)
    | none => c.fault .unknownCharacter
  | d :: _ => .ok ([d], c)

/-- The text up to one of several ends, with its escapes resolved. -/
def textUntil (ends : Ends) : (fuel : Nat) → (read : List Char) → Cursor →
    Except Fault (List Char × Cursor)
  | 0, read, c => .ok (read.reverse, c)
  | fuel + 1, read, c =>
    if ends.contains c.rest.head? then .ok (read.reverse, c)
    else
      match c.rest with
      | [] => c.fault (.ended ends)
      | '\\' :: _ => do
        let (piece, c) ← escape ends c.forward
        textUntil ends fuel (piece.reverse ++ read) c.forward
      | x :: _ => textUntil ends fuel (x :: read) c.forward

/-- The text from a cursor up to one of several ends. -/
def piece (ends : Ends) (c : Cursor) : Except Fault (List Char × Cursor) :=
  textUntil ends (c.rest.length + 1) [] c

/-- The ends of a line. -/
def lineEnds : Ends := [some '\n', some '\r', none]

/-- A text without blank space around it. -/
def trimmed (cs : List Char) : List Char := Text.trimStart (Text.trimEnd cs)

/-- A value: the rest of the line, of which a quoted piece may make up the
front, without the blank space around it. -/
def value (c : Cursor) : Except Fault (List Char × Cursor) := do
  let (quoted, c) ←
    match c.rest with
    | '"' :: _ => do
      let (text, c) ← piece [some '"'] c.forward
      pure (text, c.forward)
    | '\x27' :: _ => do
      let (text, c) ← piece [some '\x27'] c.forward
      pure (text, c.forward)
    | _ => pure ([], c)
  let (text, c) ← piece lineEnds c
  return (trimmed (quoted ++ text), c)

/-! ## Documents -/

/-- A document while it is read. -/
structure Growing where
  /-- The key that waits for its value. -/
  key : List Char := []
  /-- The entries in front of the first section, the last one first. -/
  entries : List (String × String) := []
  /-- The sections, the last one first, each with its entries like that. -/
  sections : List (String × List (String × String)) := []

/-- Puts a value under the waiting key, in the section that is open. -/
def Growing.put (g : Growing) (v : List Char) : Growing :=
  let entry := (String.ofList g.key, String.ofList v)
  match g.sections with
  | [] => { g with key := [], entries := entry :: g.entries }
  | (name, es) :: rest => { g with key := [], sections := (name, entry :: es) :: rest }

/-- The pieces of a document up to the end of the text. -/
def pieces : (fuel : Nat) → Growing → Cursor → Except Fault Growing
  | 0, g, _ => .ok g
  | fuel + 1, g, c =>
    match c.rest with
    | [] => .ok g
    | x :: _ => do
      let (g, c) ←
        if x == ';' || x == '#' then
          if 1 < c.column then c.fault .inlineComment else pure (g, c.skipLine)
        else if x == '[' then do
          let (name, c) ← piece [some ']'] c.forward
          pure ({ g with sections := (String.ofList (trimmed name), []) :: g.sections }, c.forward)
        else if x == '=' || x == ':' then
          if g.key.isEmpty then c.fault .missingKey
          else do
            let (v, c) ← value c.forward.skipBlanks
            pure (g.put v, c)
        else do
          let (key, c) ← piece [some '=', some ':'] c
          pure ({ g with key := trimmed key }, c)
      pieces fuel g c.skipSpace

/-- Entries as data. -/
def strings (entries : List (String × String)) : List (String × Data) :=
  entries.reverse.map fun (k, v) => (k, .string v)

/-- A document as data: its sections follow its own entries as tables. -/
def Growing.toData (g : Growing) : Data :=
  .table (strings g.entries ++ g.sections.reverse.map fun (name, es) => (name, .table (strings es)))

/-- Reads a document. -/
def read (text : String) : Except Fault Data := do
  let g ← pieces (text.length + 1) {} (Cursor.start text).skipSpace
  return g.toData

end Ini

end DialogueScript
