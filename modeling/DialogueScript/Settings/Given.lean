import DialogueScript.Settings.Name
/-!
# Values of settings

What sources give to settings: plain values, lists and tables. Laying a table
over a value merges the two, word by word; any other value replaces what it is
laid over. A value can also be laid at a place inside another, which then
becomes a list or a table as the steps to the place ask for.
-/

namespace DialogueScript

namespace Settings

/-- The entries with another value under a key. -/
def replace {κ α : Type} [BEq κ] (key : κ) (value : α) (entries : List (κ × α)) : List (κ × α) :=
  if entries.any (·.1 == key) then
    entries.map fun (k, v) => if k == key then (k, value) else (k, v)
  else entries ++ [(key, value)]

/-- A value that a source gives. Of a list only its size and the items that were
given are kept; all other items are nothing. -/
inductive Given
  | nothing
  | boolean (b : Bool)
  | integer (i : Int)
  | float (x : Float)
  | string (s : String)
  | sequence (size : Nat) (items : List (Nat × Given))
  | table (entries : List (String × Given))
deriving Inhabited

namespace Given

/-- What a value holds under words, which is nothing unless it is a table. -/
def entries : Given → List (String × Given)
  | .table entries => entries
  | _ => []

/-- The size of a value and its items; there are none unless it is a list. -/
def items : Given → Nat × List (Nat × Given)
  | .sequence size items => (size, items)
  | _ => (0, [])

/-- Whether a value is a table. -/
def isTable : Given → Bool
  | .table _ => true
  | _ => false

/-- Whether a value is of the kind into which a step goes. -/
def admits : Given → Step → Bool
  | .table _, .child _ => true
  | .sequence _ _, .index _ => true
  | _, _ => false

mutual

/-- A piece of data as the value of a setting. -/
def ofData : Data → Given
  | .nothing => .nothing
  | .boolean b => .boolean b
  | .integer i => .integer i
  | .float x => .float x
  | .string s => .string s
  | .sequence items => .sequence items.length (ofItems 0 items)
  | .table entries => .table (ofEntries entries)

/-- Items of a list from an index on. -/
def ofItems (i : Nat) : List Data → List (Nat × Given)
  | [] => []
  | d :: rest => (i, ofData d) :: ofItems (i + 1) rest

/-- Entries of a table. -/
def ofEntries : List (String × Data) → List (String × Given)
  | [] => []
  | (k, d) :: rest => (k, ofData d) :: ofEntries rest

end

/-! ## Merging -/

mutual

/-- The entries of a table with a value laid under a word. -/
def layUnder (word : String) (value : Given) (old : List (String × Given)) :
    List (String × Given) :=
  match value with
  | .table new => replace word (merge new ((old.lookup word).getD (.table []))) old
  | value => replace word value old

/-- A value with the entries of a table laid over it. -/
def merge (new : List (String × Given)) (old : Given) : Given :=
  match new with
  | [] => old
  | (word, value) :: rest => merge rest (.table (layUnder (Text.lower word) value old.entries))

end

/-! ## Places -/

/-- How many items a list can hold. -/
def sizeLimit : Nat := 96076792050570581

/-- Where in a list of a size an index points; one at or behind the end makes
the list longer. There is no place in front of a list, nor behind the largest
size. -/
def position? (size : Nat) (i : Int) : Option Nat :=
  let place := if i < 0 then i + size else i
  if 0 ≤ place ∧ place < sizeLimit then some place.toNat else none

/-- Lays a value at a place inside another. A value on the way that is not of
the kind that the next step goes into is dropped. -/
def layAt (value : Given) : (step : Step) → (more : List Step) → (old : Given) → Option Given
  | .child word, [], old => some (.table (layUnder word value old.entries))
  | .child word, step :: more, old => do
    let inner ← layAt value step more ((old.entries.lookup word).getD .nothing)
    return .table (replace word inner old.entries)
  | .index i, more, old => do
    let (size, items) := old.items
    let place ← position? size i
    let inner ←
      match more with
      | [] => some value
      | step :: more => layAt value step more ((items.lookup place).getD .nothing)
    return .sequence (max size (place + 1)) (replace place inner items)

end Given

end Settings

end DialogueScript
