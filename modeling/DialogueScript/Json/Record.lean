import DialogueScript.Json.Tagged
/-!
# Records read in place

A value of a known kind can be read straight from the text, without building
its JSON value first; then the first fault in the text counts, of whatever
sort. The readers here are for scalars of a known kind and for records: objects
whose unknown fields are stepped over and whose known fields come at most once,
or lists of the fields in order.
-/

namespace DialogueScript

namespace Json

open Reader

namespace Record

/-- Reads a boolean. -/
def boolean : Reader Bool := do
  match ← peek with
  | some 't' =>
    advance
    word ['r', 'u', 'e']
    return true
  | some 'f' =>
    advance
    word ['a', 'l', 's', 'e']
    return false
  | _ => unexpected "a boolean"

/-- Reads a string. -/
def string : Reader String := stringOr "a string"

/-- Reads a number, or says that something else was expected. -/
def numberOr (expected : String) : Reader Number := do
  match ← peek with
  | some c => if c == '-' || c.isDigit then Reader.number else unexpected expected
  | none => unexpected expected

/-- Reads a number as a double. -/
def float : Reader Float := do
  return (← numberOr "f64").toFloat

/-- Reads the index of a child. -/
def index : Reader Nat := do
  match ← numberOr "usize" with
  | .integer (.ofNat n) => return n
  | .integer i => mismatch (.invalidValue (.integer i) "usize")
  | .float x => mismatch (.invalidType (.float x) "usize")

/-- Reads the word for nothing, or a value. -/
def optional {α : Type} (r : Reader α) : Reader (Option α) := do
  match ← peek with
  | some 'n' =>
    advance
    word ['u', 'l', 'l']
    return none
  | _ => some <$> r

/-- Reads a list. -/
def list {α : Type} (item : Reader α) : Reader (List α) := do
  match ← peek with
  | some '[' => Reader.list item
  | _ => unexpected "a sequence"

/-- Reads an object whose keys are data, fields in the order of the text. -/
def mapping {α : Type} (item : Reader α) : Reader (List (String × α)) := do
  match ← peek with
  | some '\x7b' =>
    let field := fun (read : List (String × α)) (k : String) => do
      colon
      let v ← item
      return (k, v) :: read
    Reader.object field [] fun read => pure read.reverse
  | _ => unexpected "a map"

/-- Reads a record: an object or a list. -/
def record {α : Type} (expected : String) (fromObject fromList : Reader α) : Reader α := do
  match ← peek with
  | some '[' =>
    advance
    let a ← fromList
    endList
    return a
  | some '\x7b' => fromObject
  | _ => unexpected expected

/-- Reads the value of a known field into its slot, which may be filled once. -/
def slot {α : Type} (name : String) (current : Option α) (r : Reader α) : Reader (Option α) := do
  if current.isSome then mismatch (.duplicateField name)
  colon
  some <$> r

/-- Steps over the value of an unknown field. -/
def ignored : Reader Unit := do
  colon
  Json.skip

/-- The contents of a slot that must be filled. -/
def require {α : Type} (name : String) : Option α → Reader α
  | some a => pure a
  | none => mismatch (.missingField name)

/-- The item of a list for the field with a number, which must be there. -/
def itemAt {α : Type} (number : Nat) (expected : String) (r : Reader α) : Reader α := do
  match ← item? (number == 0) r with
  | some a => return a
  | none => mismatch (.invalidLength number expected)

/-- What messages call a record with so many fields that is given as a list. -/
def expectedItems (name : String) (count : Nat) : String :=
  name ++ " with " ++ elementCount count

end Record

end Json

end DialogueScript
