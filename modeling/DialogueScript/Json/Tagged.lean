import DialogueScript.Json.Tree
/-!
# Tagged values

A value of one of several forms says which by a tag. It is written as an object
with the tag among its fields, in any place, or as a list with the tag in
front. The tag of a value inside another may also be the number of the form;
that of a whole text is a name, and is checked as soon as it is read, before a
fault further on. What remains besides the tag is the value's `Body`.

A form's own fields are taken from the body by `Fields.one`, `Fields.two` and
`Fields.three`: by name in the order of the text, or by position.
-/

namespace DialogueScript

namespace Json

open Reader

/-- What a tagged value holds besides its tag. -/
inductive Body
  | named (fields : List (String × Json))
  | positional (items : List Json)

/-- A tag: the name of a form, or its number. -/
inductive Tag
  | name (s : String)
  | index (i : Nat)

/-- A value as a tag. -/
def Tag.ofJson : Json → Except Mismatch Tag
  | .string s => .ok (.name s)
  | .number (.integer (.ofNat i)) => .ok (.index i)
  | v => .error (.invalidType v.found "variant identifier")

/-- Splits a value into its form and its body. A second tag is refused even if
it repeats the first. -/
def splitTag {τ : Type} (tagName expected : String) (form : Tag → Except Mismatch τ) :
    Json → Except Mismatch (τ × Body)
  | .array [] => .error (.missingField tagName)
  | .array (tag :: rest) => do
    let f ← form (← Tag.ofJson tag)
    return (f, .positional rest)
  | .object fields => do
    match fields.filter fun f => f.1 == tagName with
    | [] => .error (.missingField tagName)
    | (_, tag) :: others =>
      let f ← form (← Tag.ofJson tag)
      if others.isEmpty then return (f, .named (fields.filter fun f => f.1 != tagName))
      else .error (.duplicateField tagName)
  | v => .error (.invalidType v.found expected)

/-! ## At the root of a text -/

/-- Reads a string, or says that something else was expected. -/
def stringOr (expected : String) : Reader String := do
  match ← peek with
  | some '"' => Reader.string
  | _ => unexpected expected

/-- Gives the result of a check, or stops. -/
def Reader.check {α : Type} : Except Mismatch α → Reader α
  | .ok a => pure a
  | .error m => Reader.mismatch m

/-- Reads the tag of a whole text. -/
def readTag {τ : Type} (form : Tag → Except Mismatch τ) : Reader τ := do
  let name ← stringOr "variant identifier"
  check (form (.name name))

/-- What has been read of a tagged object: the tag, and the other fields
reversed. -/
structure TaggedFields (τ : Type) where
  tag : Option τ := none
  read : List (String × Json) := []

/-- Reads one field of a tagged object. -/
def readTaggedField {τ : Type} (tagName : String) (form : Tag → Except Mismatch τ)
    (s : TaggedFields τ) (key : String) : Reader (TaggedFields τ) := do
  if key == tagName then
    if s.tag.isSome then mismatch (.duplicateField tagName)
    colon
    let f ← readTag form
    return { s with tag := some f }
  else
    colon
    let v ← value (depthLimit - 1)
    return { s with read := (key, v) :: s.read }

/-- The form and the body of a tagged object that has been read. -/
def TaggedFields.finish {τ : Type} (tagName : String) (s : TaggedFields τ) : Reader (τ × Body) :=
  match s.tag with
  | some f => return (f, .named s.read.reverse)
  | none => mismatch (.missingField tagName)

/-- Reads a tagged list. -/
def readTaggedList {τ : Type} (tagName : String) (form : Tag → Except Mismatch τ) :
    Reader (τ × Body) := do
  advance
  match ← item? true (readTag form) with
  | none => mismatch (.missingField tagName)
  | some f =>
    let rest ← withFuel fun n => items (value (depthLimit - 1)) (n + 1) false []
    endList
    return (f, .positional rest)

/-- Reads the tagged value at the root of a text. -/
def readTagged {τ : Type} (tagName expected : String) (form : Tag → Except Mismatch τ) :
    Reader (τ × Body) := do
  match ← peek with
  | some '[' => readTaggedList tagName form
  | some '\x7b' =>
    Reader.object (readTaggedField tagName form) {} (TaggedFields.finish tagName)
  | _ => unexpected expected

/-! ## Fields -/

/-- A field of a form: its name and what its value must be. -/
structure Field (α : Type) where
  name : String
  decode : Json → Except Mismatch α

namespace Field

variable {α : Type}

/-- Fills the slot of a field, which may happen once. -/
def fill (f : Field α) (slot : Option α) (v : Json) : Except Mismatch (Option α) :=
  match slot with
  | some _ => .error (.duplicateField f.name)
  | none => some <$> f.decode v

/-- The contents of a slot that must be filled. -/
def require (f : Field α) : Option α → Except Mismatch α
  | some a => .ok a
  | none => .error (.missingField f.name)

/-- The field as the item at an index of a list. -/
def atIndex (f : Field α) (items : List Json) (i : Nat) (expected : String) : Except Mismatch α :=
  match items[i]? with
  | some v => f.decode v
  | none => .error (.invalidLength i expected)

end Field

/-- Refuses a list with more items than there are fields. -/
def noneLeft (count : Nat) (items : List Json) : Except Mismatch Unit :=
  if items.length ≤ count then .ok ()
  else .error (.invalidLength items.length (elementCount count ++ " in sequence"))

/-- What a form with so many fields expects of a list. -/
def expectedItems (form : String) (count : Nat) : String :=
  "struct variant " ++ form ++ " with " ++ elementCount count

namespace Fields

variable {α β γ : Type}

/-- The body of a form without fields: names are ignored, items refused. -/
def zero : Body → Except Mismatch Unit
  | .named _ => .ok ()
  | .positional items => noneLeft 0 items

/-- The body of a form with one field. -/
def one (form : String) (a : Field α) : Body → Except Mismatch α
  | .named fields => do
    let slot ← fields.foldlM (fun x (k, v) => if k == a.name then a.fill x v else pure x) none
    a.require slot
  | .positional items => do
    let x ← a.atIndex items 0 (expectedItems form 1)
    noneLeft 1 items
    return x

/-- The body of a form with two fields. -/
def two (form : String) (a : Field α) (b : Field β) : Body → Except Mismatch (α × β)
  | .named fields => do
    let (x, y) ← fields.foldlM (fun (x, y) (k, v) => do
      if k == a.name then return (← a.fill x v, y)
      else if k == b.name then return (x, ← b.fill y v)
      else return (x, y)) (none, none)
    return (← a.require x, ← b.require y)
  | .positional items => do
    let x ← a.atIndex items 0 (expectedItems form 2)
    let y ← b.atIndex items 1 (expectedItems form 2)
    noneLeft 2 items
    return (x, y)

/-- The body of a form with three fields. -/
def three (form : String) (a : Field α) (b : Field β) (c : Field γ) :
    Body → Except Mismatch (α × β × γ)
  | .named fields => do
    let (x, y, z) ← fields.foldlM (fun (x, y, z) (k, v) => do
      if k == a.name then return (← a.fill x v, y, z)
      else if k == b.name then return (x, ← b.fill y v, z)
      else if k == c.name then return (x, y, ← c.fill z v)
      else return (x, y, z)) (none, none, none)
    return (← a.require x, ← b.require y, ← c.require z)
  | .positional items => do
    let x ← a.atIndex items 0 (expectedItems form 3)
    let y ← b.atIndex items 1 (expectedItems form 3)
    let z ← c.atIndex items 2 (expectedItems form 3)
    noneLeft 3 items
    return (x, y, z)

end Fields

/-! ## Values of the fields -/

/-- A value that must be a string. -/
def asString : Json → Except Mismatch String
  | .string s => .ok s
  | v => .error (.invalidType v.found "a string")

/-- A value that must be a boolean. -/
def asBoolean : Json → Except Mismatch Bool
  | .boolean b => .ok b
  | v => .error (.invalidType v.found "a boolean")

/-- A value that must be a number. -/
def asFloat : Json → Except Mismatch Float
  | .number n => .ok n.toFloat
  | v => .error (.invalidType v.found "f64")

/-- A value that must be a list of values of one kind. -/
def asList {α : Type} (item : Json → Except Mismatch α) : Json → Except Mismatch (List α)
  | .array items => items.mapM item
  | v => .error (.invalidType v.found "a sequence")

/-- A value that must be one of the given names, alone or as the only key of an
object that holds nothing. -/
def asChoice {α : Type} (names : List (String × α)) : Json → Except Mismatch α
  | .string s => pick s
  | .object [(k, content)] => do
    let a ← pick k
    match content with
    | .null => return a
    | .object [] => return a
    | v => .error (.invalidType v.found "unit")
  | .object _ => .error (.invalidValue .map "map with a single key")
  | v => .error (.invalidType v.found "string or map")
where
  /-- The choice of a name. -/
  pick (s : String) : Except Mismatch α :=
    match names.lookup s with
    | some a => .ok a
    | none => .error (.unknownVariant s (names.map (·.1)))

end Json

end DialogueScript
