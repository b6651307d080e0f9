import DialogueScript.Toml.Scalar
/-!
# TOML documents

A document is a tree of tables. Its lines are read one after the other and put
into the tree, which refuses a key that is there already, a table that is
defined twice, and a table that is extended by dotted keys from outside the
part that made it.
-/

namespace DialogueScript

namespace Toml

/-- A value of a document. Dates and times are kept as they are written. -/
inductive Value
  | string (s : String)
  | integer (i : Int)
  | float (x : Float)
  | boolean (b : Bool)
  | moment (s : String)
  | array (items : List Value)
  | table (entries : List (String × Value))
deriving Inhabited

namespace Value

/-- The key that makes a table a moment. -/
def momentKey : String := "$__toml_private_datetime"

mutual

/-- A value with the moments in it recognised: a table whose first key is
`momentKey` is the moment that the string under it names. -/
def settle : Value → Option Value
  | .table entries =>
    match entries with
    | (k, v) :: rest =>
      if k == momentKey then
        match v with
        | .string s => Value.moment <$> moment? s
        | _ => none
      else Value.table <$> settleEntries ((k, v) :: rest)
    | [] => some (.table [])
  | .array items => Value.array <$> settleItems items
  | v => some v

/-- Values under keys with the moments in them recognised. -/
def settleEntries : List (String × Value) → Option (List (String × Value))
  | [] => some []
  | (k, v) :: rest => do
    let v ← settle v
    return (k, v) :: (← settleEntries rest)

/-- Values with the moments in them recognised. -/
def settleItems : List Value → Option (List Value)
  | [] => some []
  | v :: rest => do
    let v ← settle v
    return v :: (← settleItems rest)

end

end Value

/-! ## The tree of tables -/

/-- A node of the tree while it grows. -/
inductive Node
  /-- A value, which no later line can extend. -/
  | value (v : Value)
  /-- A table: whether it was only named on the way to another, and whether by
  a dotted key. -/
  | table (implicit dotted : Bool) (entries : List (String × Node))
  /-- The tables of a list of tables, the last one first. -/
  | tables (elements : List Node)
deriving Inhabited

namespace Node

/-- A table without entries. -/
def empty : Node := .table false false []

/-- The entries with another node under a key. -/
def replace (key : String) (node : Node) (entries : List (String × Node)) :
    List (String × Node) :=
  entries.map fun (k, n) => if k == key then (k, node) else (k, n)

/-- Changes the table at a path and makes the tables on the way. Dotted keys do
not go into tables that were defined by a line of their own; in a list of
tables the last one is meant. -/
def change (dotted : Bool) (f : Node → Option Node) : List String → Node → Option Node
  | [], t => f t
  | key :: path, .table implicit d entries =>
    match entries.lookup key with
    | none => do
      let new ← change dotted f path (.table true dotted [])
      some (.table implicit d (entries ++ [(key, new)]))
    | some (.table childImplicit childDotted children) =>
      if dotted && !childImplicit then none
      else do
        let new ← change dotted f path (.table childImplicit childDotted children)
        some (.table implicit d (replace key new entries))
    | some (.tables (last :: before)) => do
      let new ← change dotted f path last
      some (.table implicit d (replace key (.tables (new :: before)) entries))
    | some _ => none
  | _, _ => none

/-- Puts a value under a dotted key. -/
def put (path : List String) (key : String) (v : Value) : Node → Option Node :=
  change true
    (fun t =>
      match t with
      | .table implicit dotted entries =>
        if dotted == path.isEmpty then none
        else if (entries.lookup key).isSome then none
        else some (.table implicit dotted (entries ++ [(key, .value v)]))
      | _ => none)
    path

/-- Defines the table at a path. One that was only named before moves behind the
other entries of the table it is in. -/
def define (path : List String) (key : String) : Node → Option Node :=
  change false
    (fun t =>
      match t with
      | .table implicit dotted entries =>
        match entries.lookup key with
        | none => some (.table implicit dotted (entries ++ [(key, .table false false [])]))
        | some (.table true false children) =>
          let others := entries.filter fun (k, _) => k != key
          some (.table implicit dotted (others ++ [(key, .table false false children)]))
        | some _ => none
      | _ => none)
    path

/-- Adds a table to the list of tables at a path. -/
def append (path : List String) (key : String) : Node → Option Node :=
  change false
    (fun t =>
      match t with
      | .table implicit dotted entries =>
        match entries.lookup key with
        | none => some (.table implicit dotted (entries ++ [(key, .tables [empty])]))
        | some (.tables elements) =>
          some (.table implicit dotted (replace key (.tables (empty :: elements)) entries))
        | some _ => none
      | _ => none)
    path

mutual

/-- A node as a value. -/
def toValue : Node → Value
  | .value v => v
  | .table _ _ entries => .table (toEntries entries)
  | .tables elements => .array (toItems elements).reverse

/-- Nodes under keys as values. -/
def toEntries : List (String × Node) → List (String × Value)
  | [] => []
  | (k, n) :: rest => (k, toValue n) :: toEntries rest

/-- Nodes as values. -/
def toItems : List Node → List Value
  | [] => []
  | n :: rest => toValue n :: toItems rest

end

end Node

/-! ## Keys and values -/

open Text Text.Scan

/-- Letters of a key without quotes. -/
def isKeyChar (c : Char) : Bool := c.isAlphanum || c == '_' || c == '-'

/-- One part of a key. -/
def keyPart : Scan String := do
  match ← peek with
  | some c =>
    if c == '"' || c == '\x27' then lineString
    else
      let text ← many isKeyChar
      if text.isEmpty then refuse else return String.ofList text
  | none => refuse

/-- The parts of a key behind the first, each after a dot. -/
def moreParts : (fuel : Nat) → (read : List String) → Scan (List String)
  | 0, read => return read.reverse
  | fuel + 1, read => do
    let dotted : Scan String := do
      blanks
      char '.'
      blanks
      keyPart
    match ← attempt dotted with
    | some part => moreParts fuel (part :: read)
    | none => return read.reverse

/-- How many parts a key may have, and how deep values may nest. -/
def nestingLimit : Nat := 79

/-- A key: its path and its last part. -/
def key : Scan (List String × String) := do
  let first ← keyPart
  let more ← withFuel fun n => moreParts n []
  if nestingLimit < more.length + 1 then refuse
  let parts := first :: more
  return (parts.dropLast, parts.getLast?.getD first)

/-- A comment, if there is one. -/
def comment : Scan Unit := do
  match ← peek with
  | some '#' => discard (many isPlain)
  | _ => return ()

/-- Skips blanks, comments and line ends, as many as there are. -/
def filler : (fuel : Nat) → Scan Unit
  | 0 => pure ()
  | fuel + 1 => do
    blanks
    comment
    match ← attempt lineEnd with
    | some _ => filler fuel
    | none => return ()

/-- The items of a list up to its closing bracket. -/
def arrayItems (item : Scan Value) : (fuel : Nat) → (read : List Value) → Scan (List Value)
  | 0, _ => refuse
  | fuel + 1, read => do
    withFuel filler
    match ← attempt (char ']') with
    | some _ => return read.reverse
    | none =>
      let v ← item
      withFuel filler
      match ← next with
      | ',' => arrayItems item fuel (v :: read)
      | ']' => return (v :: read).reverse
      | _ => refuse

/-- A key and its value. -/
def pair (item : Scan Value) : Scan ((List String × String) × Value) := do
  let k ← key
  blanks
  char '='
  blanks
  let v ← item
  return (k, v)

/-- The pairs of a table within a line, up to its closing brace. -/
def inlinePairs (item : Scan Value) : (fuel : Nat) → Node → Scan Node
  | 0, _ => refuse
  | fuel + 1, t => do
    blanks
    let ((path, k), v) ← pair item
    blanks
    match t.put path k v with
    | none => refuse
    | some t =>
      match ← next with
      | ',' => inlinePairs item fuel t
      | '\x7d' => return t
      | _ => refuse

/-- A table within a line. -/
def inlineTable (item : Scan Value) : Scan Value := do
  blanks
  match ← attempt (char '\x7d') with
  | some _ => return .table []
  | none =>
    let t ← withFuel fun n => inlinePairs item n .empty
    return t.toValue

/-- A number, a date or a time. -/
def numeric : Scan Value :=
  orElse (Value.moment <$> moment) (orElse (Value.float <$> float) (Value.integer <$> integer))

/-- A value, in which the items of lists and tables are scanned by `nested`.
Without it no list or table may open. -/
def valueWith (nested : Option (Scan Value)) : Scan Value := do
  match ← peek, nested with
  | none, _ => refuse
  | some '[', none => refuse
  | some '[', some item =>
    char '['
    let items ← withFuel fun n => arrayItems item n []
    return .array items
  | some '\x7b', none => refuse
  | some '\x7b', some item =>
    char '\x7b'
    inlineTable item
  | some 't', _ =>
    word ['t', 'r', 'u', 'e']
    return .boolean true
  | some 'f', _ =>
    word ['f', 'a', 'l', 's', 'e']
    return .boolean false
  | some c, _ =>
    if c == '"' || c == '\x27' then Value.string <$> string
    else numeric

/-- A value, in which lists and tables nest at most so deep. -/
def value : (depth : Nat) → Scan Value
  | 0 => valueWith none
  | depth + 1 => valueWith (some (value depth))

/-! ## Lines -/

/-- A document while it is read: the tree, and the path of the table that keys
go into. -/
structure Growing where
  root : Node := .empty
  current : List String := []

/-- The parts of the name of a table between its brackets. -/
def headerKey : Scan (List String × String) := do
  blanks
  let k ← key
  blanks
  return k

/-- The line that opens a table. -/
def header (g : Growing) : Scan Growing := do
  char '['
  match ← attempt (char '[') with
  | some _ =>
    let (path, k) ← headerKey
    word [']', ']']
    match g.root.append path k with
    | some root => return ⟨root, path ++ [k]⟩
    | none => refuse
  | none =>
    let (path, k) ← headerKey
    char ']'
    match g.root.define path k with
    | some root => return ⟨root, path ++ [k]⟩
    | none => refuse

/-- The line that gives a key a value in the current table. -/
def assignment (g : Growing) : Scan Growing := do
  let ((path, k), v) ← pair (value nestingLimit)
  match g.root.change false (Node.put path k v) g.current with
  | some root => return { g with root }
  | none => refuse

/-- One line, without its end. -/
def line (g : Growing) : Scan Growing := do
  blanks
  let g ← do
    match ← peek with
    | none => pure g
    | some '#' => pure g
    | some '\n' => pure g
    | some '\r' => pure g
    | some '[' => header g
    | some _ => assignment g
  blanks
  comment
  return g

/-- The lines up to the end of the text. -/
def lines : (fuel : Nat) → Growing → Scan Growing
  | 0, _ => refuse
  | fuel + 1, g => do
    let g ← line g
    match ← peek with
    | none => return g
    | some _ =>
      lineEnd
      lines fuel g

/-- The value that a document stands for, or nothing if the text is none. It is
a table unless its first key makes it a moment. A mark of byte order in front
does not count. -/
def read (text : String) : Option Value :=
  let chars :=
    match text.toList with
    | c :: cs => if c.toNat = 0xfeff then cs else c :: cs
    | [] => []
  match withFuel (fun n => lines n {}) chars with
  | some (g, []) => g.root.toValue.settle
  | _ => none

end Toml

end DialogueScript
