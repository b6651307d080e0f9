import DialogueScript.Text.Digits
/-!
# Nearest doubles

The double nearest to a number given by its decimal digits, a tie going to the
even neighbour.
-/

namespace DialogueScript

namespace Decimal

/-- The double nearest to `digits * 10 ^ scale`. Beyond five hundred places
either way nothing but the outcome for large or small numbers is left. -/
def nearest (digits : List Char) (scale : Int) : Float :=
  let digits := digits.dropWhile (· == '0')
  let significand := Text.ofDigits 10 digits
  let leading := (digits.length : Int) + scale
  if significand = 0 || leading < -500 then 0
  else if 500 < leading then 1.0 / 0.0
  else
    match scale with
    | .ofNat e => Float.ofScientific significand false e
    | .negSucc e => Float.ofScientific significand true (e + 1)

/-- Decimal digits in front of a text, and the text behind them. -/
def splitDigits (cs : List Char) : List Char × List Char :=
  (cs.takeWhile Char.isDigit, cs.dropWhile Char.isDigit)

/-- A sign in front of a text: whether it is a minus, and the text behind it. -/
def splitSign : List Char → Bool × List Char
  | '-' :: cs => (true, cs)
  | '+' :: cs => (false, cs)
  | cs => (false, cs)

/-- The exponent that ends a text, which is zero if there is none. -/
def exponent? : List Char → Option Int
  | [] => some 0
  | c :: cs =>
    if c == 'e' || c == 'E' then
      let (negative, cs) := splitSign cs
      match splitDigits cs with
      | ([], _) => none
      | (ds, []) =>
        let n : Int := Text.ofDigits 10 ds
        some (if negative then -n else n)
      | _ => none
    else none

/-- The double that a text spells in plain decimal notation: digits with a
point somewhere among or beside them, a sign in front, an exponent behind. -/
def plainFloat? (cs : List Char) : Option Float :=
  let (negative, cs) := splitSign cs
  let (whole, rest) := splitDigits cs
  let (places, rest) :=
    match rest with
    | '.' :: rest => splitDigits rest
    | rest => ([], rest)
  if whole.isEmpty && places.isEmpty then none
  else
    (exponent? rest).map fun e =>
      let x := nearest (whole ++ places) (e - (places.length : Int))
      if negative then -x else x

/-- The words for doubles that have no digits, in small letters. -/
def specialWords : List (List Char × Float) :=
  [("inf".toList, 1.0 / 0.0), ("infinity".toList, 1.0 / 0.0), ("nan".toList, 0.0 / 0.0)]

/-- The double that a text spells, in plain decimal notation or by a word in any
letter case. -/
def float? (cs : List Char) : Option Float :=
  let (negative, word) := splitSign cs
  match specialWords.lookup (word.map Char.toLower) with
  | some x => some (if negative then -x else x)
  | none => plainFloat? cs

end Decimal

end DialogueScript
