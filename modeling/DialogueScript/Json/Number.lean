import DialogueScript.Json.Fault
/-!
# Numbers in JSON texts

A number literal is read in two steps. `Literal.scan` splits it into its sign,
its digits and its exponent; `Literal.value` gives it a meaning. An integer
literal of at most sixty-four bits keeps its value. Any other is a double: its
digits fill a significand of sixty-four bits, the significand is rounded to a
double, and that is scaled by a power of ten in one multiplication or division
(more than one for very small numbers), so the result can miss the nearest
double by a little.
-/

namespace DialogueScript

namespace Json

/-- A number as a reader understands it. -/
inductive Number
  /-- At most sixty-four bits, with a sign only if negative. -/
  | integer (i : Int)
  | float (x : Float)
deriving Repr, Inhabited

/-- A natural number of at most sixty-four bits, rounded to the nearest double. -/
def roundNat (n : Nat) : Float :=
  (UInt64.ofNat n).toFloat

/-- A number as a double. -/
def Number.toFloat : Number → Float
  | .integer (.ofNat n) => roundNat n
  | .integer (.negSucc n) => -(roundNat (n + 1))
  | .float x => x

/-- A number as messages describe it. -/
def Number.found : Number → Found
  | .integer i => .integer i
  | .float x => .float x

/-! ## Literals -/

/-- The parts of a number literal. -/
structure Literal where
  negative : Bool
  /-- The digits in front of the point. -/
  whole : List Nat
  /-- The digits behind the point, if there is one. -/
  fraction : Option (List Nat)
  /-- Whether the exponent is negative, and its digits. -/
  exponent : Option (Bool × List Nat)
deriving Repr, DecidableEq

/-- The decimal digits a text starts with, and the rest of it. -/
def digits (cs : List Char) : List Nat × List Char :=
  ((cs.takeWhile Char.isDigit).map fun c => c.toNat - '0'.toNat, cs.dropWhile Char.isDigit)

/-- At least one digit; `atEnd` is the fault if the text ends instead. -/
def someDigits (atEnd : Fault) (cs : List Char) : Except Fault (List Nat × List Char) :=
  match digits cs with
  | ([], []) => .error atEnd
  | ([], _) => .error (.malformed .invalidNumber)
  | found => .ok found

/-- The digits in front of the point: a zero alone, or digits without a leading
zero. -/
def scanWhole (atEnd : Fault) (cs : List Char) : Except Fault (List Nat × List Char) := do
  match ← someDigits atEnd cs with
  | (0 :: _ :: _, _) => .error (.malformed .invalidNumber)
  | found => .ok found

/-- The point and the digits behind it, if there is a point. -/
def scanFraction (atEnd : Fault) : List Char → Except Fault (Option (List Nat) × List Char)
  | '.' :: cs => do
    let (ds, rest) ← someDigits atEnd cs
    .ok (some ds, rest)
  | cs => .ok (none, cs)

/-- The exponent, if there is one. -/
def scanExponent (atEnd : Fault) (cs : List Char) :
    Except Fault (Option (Bool × List Nat) × List Char) :=
  match cs with
  | 'e' :: rest => marked rest
  | 'E' :: rest => marked rest
  | cs => .ok (none, cs)
where
  /-- What follows the mark: a sign if there is one, then digits. -/
  marked (cs : List Char) : Except Fault (Option (Bool × List Nat) × List Char) := do
    let (negative, cs) :=
      match cs with
      | '+' :: rest => (false, rest)
      | '-' :: rest => (true, rest)
      | cs => (false, cs)
    let (ds, rest) ← someDigits atEnd cs
    .ok (some (negative, ds), rest)

/-- Splits the literal at the front of a text. -/
def Literal.scan (atEnd : Fault) (cs : List Char) : Except Fault (Literal × List Char) := do
  let (negative, cs) :=
    match cs with
    | '-' :: rest => (true, rest)
    | cs => (false, cs)
  let (whole, cs) ← scanWhole atEnd cs
  let (fraction, cs) ← scanFraction atEnd cs
  let (exponent, cs) ← scanExponent atEnd cs
  .ok (⟨negative, whole, fraction, exponent⟩, cs)

/-! ## Values -/

/-- The largest significand, the last number of sixty-four bits. -/
def significandLimit : Nat := 18446744073709551615

/-- Appends digits to a significand while the result fits, and says how many
were left over. -/
def fill (significand : Nat) : List Nat → Nat × Nat
  | [] => (significand, 0)
  | d :: ds =>
    if significand * 10 + d ≤ significandLimit then fill (significand * 10 + d) ds
    else (significand, ds.length + 1)

/-- A power of ten as the nearest double. -/
def powerOfTen (n : Nat) : Float :=
  Float.ofScientific 1 false n

/-- The largest power of ten that is a finite double. -/
def largestPower : Nat := 308

/-- Divides by the largest power of ten until the exponent is in reach or
nothing is left, in at most `fuel` steps. -/
def shrink : (fuel : Nat) → Float → (exponent : Nat) → Float × Nat
  | 0, x, e => (x, e)
  | fuel + 1, x, e =>
    if e ≤ largestPower then (x, e)
    else if x == 0 then (x, 0)
    else shrink fuel (x / powerOfTen largestPower) (e - largestPower)

/-- A double scaled by a power of ten, or nothing if the result is too large. -/
def scale (x : Float) : Int → Option Float
  | .ofNat e =>
    if e ≤ largestPower then
      let y := x * powerOfTen e
      if y.isInf then none else some y
    else if x == 0 then some x
    else none
  | .negSucc e =>
    let (y, e) := shrink (e / largestPower + 1) x (e + 1)
    some (y / powerOfTen e)

/-- The largest exponent that is read as a number; beyond it only its sign
counts. -/
def exponentLimit : Nat := 2147483647

/-- The value of a list of decimal digits. -/
def ofDigits (ds : List Nat) : Nat :=
  ds.foldl (fun n d => n * 10 + d) 0

namespace Literal

/-- The magnitude of a literal that is read as a double. -/
def magnitude (l : Literal) : Option Float :=
  let (significand, skipped) := fill 0 l.whole
  let fraction := l.fraction.getD []
  let (significand, ignored) := fill significand fraction
  let places : Int := (skipped : Int) - ((fraction.length : Int) - (ignored : Int))
  match l.exponent with
  | none => scale (roundNat significand) places
  | some (negative, ds) =>
    let e := ofDigits ds
    if e ≤ exponentLimit then
      scale (roundNat significand) (if negative then places - (e : Int) else places + (e : Int))
    else if negative || significand == 0 then some 0
    else none

/-- The integer a literal stands for, if it is one that is kept as it is. A
negative zero is not. -/
def integer? (l : Literal) : Option Int :=
  match l.fraction, l.exponent with
  | none, none =>
    let n := ofDigits l.whole
    if l.negative then
      if 0 < n ∧ n ≤ 9223372036854775808 then some (-(n : Int)) else none
    else if n ≤ significandLimit then some n
    else none
  | _, _ => none

/-- The number a literal stands for, or nothing if it is out of range. -/
def value (l : Literal) : Option Number :=
  match l.integer? with
  | some i => some (.integer i)
  | none => l.magnitude.map fun x => .float (if l.negative then -x else x)

end Literal

/-- Reads the number at the front of a text. -/
def readNumber (cs : List Char) : Except Fault (Number × List Char) := do
  let (literal, rest) ← Literal.scan (.unfinished .value) cs
  match literal.value with
  | some n => .ok (n, rest)
  | none => .error (.malformed .numberOutOfRange)

/-- Steps over the number at the front of a text, whatever its size. -/
def skipNumber (cs : List Char) : Except Fault (List Char) := do
  let (_, rest) ← Literal.scan (.malformed .invalidNumber) cs
  .ok rest

end Json

end DialogueScript
