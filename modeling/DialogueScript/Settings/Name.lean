import DialogueScript.Data
import DialogueScript.Text.Digits
import DialogueScript.Text.Lower
/-!
# Names of settings

A name is a word that may go on with children and indices, such as `a.b[0]`.
The letter case of a name does not count. A text that cannot be taken apart like
this is one word as a whole.
-/

namespace DialogueScript

namespace Settings

/-- A step into a value. -/
inductive Step
  /-- To what a table holds under a word. -/
  | child (word : String)
  /-- To an item of a list, counted from its end if the index is negative. -/
  | index (i : Int)
deriving DecidableEq, Repr

/-- A name: its first word and the steps behind it. -/
structure Name where
  first : String
  steps : List Step := []
deriving DecidableEq, Repr

namespace Name

/-- Letters of the words of a name. -/
def isWordChar (c : Char) : Bool := c.isAlphanum || c == '_' || c == '-' || c == ' '

/-- Blanks around an index. -/
def isBlank (c : Char) : Bool := c == ' ' || c == '\t'

/-- An index in front of a text and what follows its closing bracket. An index
is an integer that fits sixty-four bits with a sign. -/
def index? (cs : List Char) : Option (Int × List Char) :=
  let cs := cs.dropWhile isBlank
  let (negative, cs) :=
    match cs with
    | '-' :: rest => (true, rest)
    | cs => (false, cs)
  let digits := cs.takeWhile Char.isDigit
  let size : Int := Text.ofDigits 10 digits
  let index := if negative then -size else size
  match (cs.dropWhile Char.isDigit).dropWhile isBlank with
  | ']' :: rest => if !digits.isEmpty && Data.fits index then some (index, rest) else none
  | _ => none

/-- The steps that a text such as `.a[0].b` consists of. -/
def steps? : (fuel : Nat) → List Char → Option (List Step)
  | _, [] => some []
  | 0, _ => none
  | fuel + 1, '.' :: cs =>
    let word := cs.takeWhile isWordChar
    if word.isEmpty then none
    else (steps? fuel (cs.dropWhile isWordChar)).map (.child (String.ofList word) :: ·)
  | fuel + 1, '[' :: cs =>
    match index? cs with
    | some (i, rest) => (steps? fuel rest).map (.index i :: ·)
    | none => none
  | _ + 1, _ => none

/-- The name that a text stands for. -/
def ofText (text : String) : Name :=
  let text := Text.lower text
  let cs := text.toList
  let first := cs.takeWhile isWordChar
  if first.isEmpty then { first := text }
  else
    match steps? cs.length (cs.dropWhile isWordChar) with
    | some steps => { first := String.ofList first, steps }
    | none => { first := text }

end Name

end Settings

end DialogueScript
