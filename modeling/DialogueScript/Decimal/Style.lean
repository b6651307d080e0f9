import DialogueScript.Decimal.Shortest
/-!
# Styles of number text

A double is written through the digits of its shortest decimal; a `Style` says
where the point goes and when an exponent takes its place. The two styles of
this library are `shown`, in which values appear in dialogue and messages, and
`stored`, in which they appear in JSON texts.
-/

namespace DialogueScript

namespace Decimal

/-- How a double is written. -/
structure Style where
  /-- Which of two equally near shortest decimals is written. -/
  tie : Tie
  /-- Whether a number whose leading digit counts this power of ten is written
  without an exponent. -/
  positional : Int → Bool
  /-- What follows a whole number written without an exponent. -/
  wholeMark : String
  /-- The text of an infinity, negative or not. -/
  infinite : Bool → String
  /-- The text of what is not a number. -/
  undefined : String

/-- Values as they are shown: never an exponent, and whole numbers bare. -/
def shown : Style where
  tie := .up
  positional := fun _ => true
  wholeMark := ""
  infinite := fun negative => if negative then "-inf" else "inf"
  undefined := "NaN"

/-- Values as they are stored: an exponent outside `10 ^ -5` to `10 ^ 15`, a
point in every number without one, and nothing for what is not finite. -/
def stored : Style where
  tie := .toEven
  positional := fun e => -5 ≤ e && e ≤ 15
  wholeMark := ".0"
  infinite := fun _ => "null"
  undefined := "null"

/-- Digits with the point in front of the last `-scale` of them, or with
`scale` zeros behind them. -/
def pointed (wholeMark : List Char) (digits : List Char) (scale : Int) : List Char :=
  match scale with
  | .ofNat zeros => digits ++ List.replicate zeros '0' ++ wholeMark
  | .negSucc n =>
    let places := n + 1
    if places < digits.length then
      digits.take (digits.length - places) ++ '.' :: digits.drop (digits.length - places)
    else '0' :: '.' :: List.replicate (places - digits.length) '0' ++ digits

/-- Digits with the point behind the first of them and the exponent of that
digit, its sign always written. -/
def scientific (digits : List Char) (exponent : Int) : List Char :=
  let fraction :=
    match digits.drop 1 with
    | [] => []
    | rest => '.' :: rest
  let sign := if exponent < 0 then '-' else '+'
  digits.take 1 ++ fraction ++ 'e' :: sign :: Nat.toDigits 10 exponent.natAbs

/-- A decimal in a style. -/
def Style.decimal (s : Style) (d : Scaled) : List Char :=
  let digits := Nat.toDigits 10 d.significand
  let exponent := d.scale + (digits.length : Int) - 1
  if s.positional exponent then pointed s.wholeMark.toList digits d.scale
  else scientific digits exponent

/-- A double in a style. -/
def Style.write (s : Style) (x : Float) : String :=
  match Parts.ofFloat x with
  | .nan => s.undefined
  | .infinite negative => s.infinite negative
  | .zero negative => String.ofList ((if negative then ['-'] else []) ++ s.decimal ⟨0, 0⟩)
  | .finite negative b =>
    String.ofList ((if negative then ['-'] else []) ++ s.decimal (shortest s.tie b))

end Decimal

end DialogueScript
