import DialogueScript.Json.Tree
/-!
# JSON values as text

Two written forms of a JSON value: `compact`, without any blank, and `pretty`,
one item a line with two blanks for each level. An infinite number and what is
not a number have no written form of their own and are written `null`.
-/

namespace DialogueScript

namespace Json

/-- A number as it is written. -/
def Number.written : Number → String
  | .integer i => toString i
  | .float x => Decimal.stored.write x

/-- A boolean as it is written. -/
def writtenBoolean (b : Bool) : List Char :=
  (if b then "true" else "false").toList

/-- Texts with a separator between them. -/
def joined (separator : List Char) : List (List Char) → List Char
  | [] => []
  | [t] => t
  | t :: ts => t ++ separator ++ joined separator ts

mutual

/-- The characters of the compact form. -/
def compactChars : Json → List Char
  | .null => "null".toList
  | .boolean b => writtenBoolean b
  | .number n => n.written.toList
  | .string s => writeString s
  | .array items => '[' :: joined [','] (compactItems items) ++ [']']
  | .object fields => '\x7b' :: joined [','] (compactFields fields) ++ ['\x7d']

/-- The compact forms of the items of a list. -/
def compactItems : List Json → List (List Char)
  | [] => []
  | v :: vs => compactChars v :: compactItems vs

/-- The compact forms of the fields of an object. -/
def compactFields : List (String × Json) → List (List Char)
  | [] => []
  | (k, v) :: fs => (writeString k ++ ':' :: compactChars v) :: compactFields fs

end

/-- The compact form. -/
def compact (v : Json) : String :=
  String.ofList v.compactChars

/-- The start of a line at a level. -/
def indent (level : Nat) : List Char :=
  '\n' :: List.replicate (2 * level) ' '

/-- Lines between brackets at a level, or the bare brackets if there are none. -/
def block (opening closing : Char) (level : Nat) : List (List Char) → List Char
  | [] => [opening, closing]
  | lines =>
    opening :: indent (level + 1) ++ joined (',' :: indent (level + 1)) lines ++
      indent level ++ [closing]

mutual

/-- The characters of the pretty form at a level. -/
def prettyChars (level : Nat) : Json → List Char
  | .null => "null".toList
  | .boolean b => writtenBoolean b
  | .number n => n.written.toList
  | .string s => writeString s
  | .array items => block '[' ']' level (prettyItems (level + 1) items)
  | .object fields => block '\x7b' '\x7d' level (prettyFields (level + 1) fields)

/-- The pretty forms of the items of a list. -/
def prettyItems (level : Nat) : List Json → List (List Char)
  | [] => []
  | v :: vs => prettyChars level v :: prettyItems level vs

/-- The pretty forms of the fields of an object. -/
def prettyFields (level : Nat) : List (String × Json) → List (List Char)
  | [] => []
  | (k, v) :: fs => (writeString k ++ ':' :: ' ' :: prettyChars level v) :: prettyFields level fs

end

/-- The pretty form. -/
def pretty (v : Json) : String :=
  String.ofList (v.prettyChars 0)

end Json

end DialogueScript
