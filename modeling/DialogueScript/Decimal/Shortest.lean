/-!
# The shortest decimal of a binary fraction

A finite double is `mantissa * 2 ^ exponent`. The reals that round to it form
an interval around it, whose ends belong to it when the mantissa is even. This
file finds, in exact integer arithmetic, the decimal with the fewest digits
inside that interval and, among those, the one nearest to the double. Two
decimals of that length can be equally near; a `Tie` says which is taken.
-/

namespace DialogueScript

namespace Decimal

/-- A positive number `mantissa * 2 ^ exponent`. -/
structure Binary where
  mantissa : Nat
  exponent : Int
deriving Repr, DecidableEq

/-- A number `significand * 10 ^ scale`. -/
structure Scaled where
  significand : Nat
  scale : Int
deriving Repr, DecidableEq

/-- Which of two equally near decimals is taken. -/
inductive Tie
  /-- The larger one. -/
  | up
  /-- The one whose last digit is even. -/
  | toEven
deriving Repr, DecidableEq

/-- What the bits of a double stand for. -/
inductive Parts
  | nan
  | infinite (negative : Bool)
  | zero (negative : Bool)
  | finite (negative : Bool) (value : Binary)
deriving Repr, DecidableEq

/-- The parts of a double: one bit of sign, eleven of exponent and fifty-two of
fraction, whose leading one is left out unless the exponent bits are zero. -/
def Parts.ofFloat (x : Float) : Parts :=
  let bits : Nat := x.toBits.toNat
  let negative := bits / Nat.pow 2 63 % 2 == 1
  let exponent : Nat := bits / Nat.pow 2 52 % Nat.pow 2 11
  let fraction : Nat := bits % Nat.pow 2 52
  if exponent = 2047 then
    if fraction = 0 then .infinite negative else .nan
  else if exponent = 0 then
    if fraction = 0 then .zero negative else .finite negative ⟨fraction, -1074⟩
  else .finite negative ⟨Nat.pow 2 52 + fraction, (exponent : Int) - 1075⟩

namespace Binary

/-- The fraction, over a common denominator, of a binary number in quarters of
its last place: `(numerator of a quarter, denominator)`. -/
def quarter (b : Binary) : Nat × Nat :=
  (Nat.pow 2 (b.exponent - 2).toNat, Nat.pow 2 (2 - b.exponent).toNat)

/-- The lower neighbour of a double lies half as far below it when its mantissa
is the least of its range. -/
def isRangeStart (b : Binary) : Bool :=
  b.mantissa == Nat.pow 2 52 && decide (-1074 < b.exponent)

/-- The ends of the rounding interval, in quarters of the last place. -/
def ends (b : Binary) : Nat × Nat :=
  (4 * b.mantissa - (if b.isRangeStart then 1 else 2), 4 * b.mantissa + 2)

/-- The number over the denominator `10 ^ -scale`: a numerator per quarter and
a denominator, so that `quarters * fst / snd` counts steps of `10 ^ scale`. -/
def perStep (b : Binary) (scale : Int) : Nat × Nat :=
  let (n, d) := b.quarter
  (n * Nat.pow 10 (-scale).toNat, d * Nat.pow 10 scale.toNat)

/-- Whether `count` steps of `10 ^ scale` lie in the rounding interval. -/
def contains (b : Binary) (scale : Int) (count : Nat) : Bool :=
  let (n, d) := b.perStep scale
  let (low, high) := b.ends
  if b.mantissa % 2 = 0 then low * n ≤ count * d && count * d ≤ high * n
  else low * n < count * d && count * d < high * n

/-- How many decimal digits a natural number has. -/
def digitCount (n : Nat) : Nat :=
  (Nat.toDigits 10 n).length

/-- The power of ten of the leading digit. -/
def magnitude (b : Binary) : Int :=
  let n := b.mantissa * Nat.pow 2 b.exponent.toNat
  let d := Nat.pow 2 (-b.exponent).toNat
  if d ≤ n then (digitCount (n / d) : Int) - 1
  else
    let k := digitCount (d / n)
    if n * Nat.pow 10 (k - 1) = d then 1 - (k : Int) else -(k : Int)

/-- The decimal of at most `length` digits that rounds back, if there is one:
of the two neighbours on that grid, one that lies in the interval, and the
nearer of them if both do. -/
def onGrid? (b : Binary) (tie : Tie) (length : Nat) : Option Scaled :=
  let scale := b.magnitude - (length : Int) + 1
  let (n, d) := b.perStep scale
  let exact := 4 * b.mantissa * n
  let below := exact / d
  let rest := exact % d
  let downFits := b.contains scale below
  let upFits := b.contains scale (below + 1)
  let goesUp :=
    match compare (2 * rest) d with
    | .lt => false
    | .gt => true
    | .eq => match tie with
      | .up => true
      | .toEven => below % 2 == 1
  if downFits && (!upFits || !goesUp) then some ⟨below, scale⟩
  else if upFits then some ⟨below + 1, scale⟩
  else none

end Binary

/-- A decimal without trailing zeros in its significand. -/
def Scaled.trim (d : Scaled) : Scaled :=
  go (Binary.digitCount d.significand) d
where
  /-- Drops at most the given number of zeros. -/
  go : Nat → Scaled → Scaled
    | 0, d => d
    | n + 1, d =>
      if d.significand ≠ 0 ∧ d.significand % 10 = 0 then go n ⟨d.significand / 10, d.scale + 1⟩
      else d

/-- The shortest decimal that rounds back to a double, and of several the
nearest. Seventeen digits always suffice. -/
def shortest (tie : Tie) (b : Binary) : Scaled :=
  ((List.range 17).findSome? fun i => b.onGrid? tie (i + 1)).getD ⟨0, 0⟩ |>.trim

end Decimal

end DialogueScript
