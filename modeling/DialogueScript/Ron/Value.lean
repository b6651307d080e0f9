import DialogueScript.Data
import DialogueScript.Decimal.Style
import DialogueScript.Text.Quoted
/-!
# Values of RON

A value is a boolean, a number, a character, a string, an optional value, a
list, a map, or nothing. Any value can be a key of a map, and maps are kept in
the order of their keys. As data a map is a table, so its keys must be texts
then; the first key that is none is told.
-/

namespace DialogueScript

namespace Ron

/-- A value of a document. The entries of a map are in the order of their keys,
each of which stands there once. -/
inductive Value
  | unit
  | boolean (b : Bool)
  | integer (i : Int)
  | float (x : Float)
  | char (c : Char)
  | string (s : String)
  | absent
  | present (v : Value)
  | sequence (items : List Value)
  | map (entries : List (Value × Value))
deriving Inhabited

namespace Value

/-! ## Order -/

/-- The place of a kind of values in the order of all values. -/
def rank : Value → Nat
  | .boolean _ => 0
  | .char _ => 1
  | .map _ => 2
  | .integer _ => 3
  | .float _ => 4
  | .absent => 5
  | .present _ => 6
  | .string _ => 7
  | .sequence _ => 8
  | .unit => 9

/-- Floats in order. What is no number comes before all others. -/
def orderFloat (x y : Float) : Ordering :=
  if x.isNaN || y.isNaN then compare y.isNaN x.isNaN
  else if x < y then .lt
  else if y < x then .gt
  else .eq

mutual

/-- The order of values: by their kind first, then by what they hold. -/
def order : Value → Value → Ordering
  | .boolean a, .boolean b => compare a b
  | .char a, .char b => compare a.toNat b.toNat
  | .map a, .map b => orderEntries a b
  | .integer a, .integer b => compare a b
  | .float a, .float b => orderFloat a b
  | .present a, .present b => order a b
  | .string a, .string b => compare a b
  | .sequence a, .sequence b => orderItems a b
  | a, b => compare a.rank b.rank

/-- The order of lists of values. -/
def orderItems : List Value → List Value → Ordering
  | [], [] => .eq
  | [], _ :: _ => .lt
  | _ :: _, [] => .gt
  | a :: as, b :: bs => (order a b).then (orderItems as bs)

/-- The order of entries of maps. -/
def orderEntries : List (Value × Value) → List (Value × Value) → Ordering
  | [], [] => .eq
  | [], _ :: _ => .lt
  | _ :: _, [] => .gt
  | (j, a) :: as, (k, b) :: bs => ((order j k).then (order a b)).then (orderEntries as bs)

end

/-- Puts an entry among others at its place. A key that is there already gets
another value. -/
def place (k v : Value) : List (Value × Value) → List (Value × Value)
  | [] => [(k, v)]
  | (j, w) :: rest =>
    match order k j with
    | .lt => (k, v) :: (j, w) :: rest
    | .eq => (j, v) :: rest
    | .gt => (j, w) :: place k v rest

/-- The map of entries, of which later ones count. -/
def ofEntries (entries : List (Value × Value)) : Value :=
  .map (entries.foldl (fun placed (k, v) => place k v placed) [])

/-! ## Data -/

/-- A value as messages describe it. -/
def describe : Value → String
  | .unit => "a unit value"
  | .boolean b => "the boolean `" ++ (if b then "true" else "false") ++ "`"
  | .integer i => "the signed integer `" ++ toString i ++ "`"
  | .float x => "the floating point number `" ++ Decimal.shown.write x ++ "`"
  | .char c => "the UTF-8 character `" ++ String.singleton c ++ "`"
  | .string s => "the string " ++ Text.quoted s
  | .absent => "an optional value"
  | .present _ => "an optional value"
  | .sequence _ => "a sequence"
  | .map _ => "a map"

/-- A key as a text, or the key itself if it is none. -/
def key : Value → Except Value String
  | .string s => .ok s
  | .char c => .ok (String.singleton c)
  | v => .error v

mutual

/-- A value as data, or the first key that is no text. -/
def toData : Value → Except Value Data
  | .unit => .ok .nothing
  | .boolean b => .ok (.boolean b)
  | .integer i => .ok (.integer i)
  | .float x => .ok (.float x)
  | .char c => .ok (.string (String.singleton c))
  | .string s => .ok (.string s)
  | .absent => .ok .nothing
  | .present v => v.toData
  | .sequence items => Data.sequence <$> toItems items
  | .map entries => Data.table <$> toEntries entries

/-- Values as data. -/
def toItems : List Value → Except Value (List Data)
  | [] => .ok []
  | v :: rest => do
    let d ← v.toData
    return d :: (← toItems rest)

/-- Values under keys as data. -/
def toEntries : List (Value × Value) → Except Value (List (String × Data))
  | [] => .ok []
  | (k, v) :: rest => do
    let key ← k.key
    let d ← v.toData
    return (key, d) :: (← toEntries rest)

end

end Value

end Ron

end DialogueScript
