import DialogueScript.Decimal.Nearest
import DialogueScript.Text.Scan
/-!
# Scalars in TOML texts

Strings, numbers, booleans and dates of TOML, read off the front of a text.
-/

namespace DialogueScript

namespace Toml

open Text Text.Scan

/-! ## Characters -/

/-- Blanks within a line. -/
def isBlank (c : Char) : Bool := c == ' ' || c == '\t'

/-- Whether a character may stand in a text other than as a line end: no
control but the tab. -/
def isPlain (c : Char) : Bool := c == '\t' || (0x20 ≤ c.toNat && c.toNat != 0x7f)

/-- Skips blanks. -/
def blanks : Scan Unit := discard (many isBlank)

/-- A line end. -/
def lineEnd : Scan Unit := orElse (char '\n') (word ['\r', '\n'])

/-! ## Strings -/

/-- The character of so many hexadecimal digits. -/
def scalarValue : Nat → Nat → Scan Char
  | 0, n =>
    match scalar? n with
    | some c => pure c
    | none => refuse
  | count + 1, n => do
    match hexDigit? (← next) with
    | some d => scalarValue count (n * 16 + d)
    | none => refuse

/-- The character of the escape behind a backslash. -/
def escape : Scan Char := do
  match ← next with
  | 'b' => return '\x08'
  | 't' => return '\t'
  | 'n' => return '\n'
  | 'f' => return '\x0c'
  | 'r' => return '\r'
  | '"' => return '"'
  | '\\' => return '\\'
  | 'u' => scalarValue 4 0
  | 'U' => scalarValue 8 0
  | _ => refuse

/-- The rest of a string on one line. -/
def basicBody : (fuel : Nat) → (read : List Char) → Scan String
  | 0, _ => refuse
  | fuel + 1, read => do
    match ← next with
    | '"' => return String.ofList read.reverse
    | '\\' => do basicBody fuel ((← escape) :: read)
    | c => if isPlain c then basicBody fuel (c :: read) else refuse

/-- The rest of a string without escapes on one line. -/
def literalBody : Scan String := do
  let text ← many fun c => isPlain c && c != '\x27'
  char '\x27'
  return String.ofList text

/-- Skips blanks and line ends, as many as there are. -/
def blankLines : (fuel : Nat) → Scan Unit
  | 0 => pure ()
  | fuel + 1 => do
    blanks
    match ← attempt lineEnd with
    | some _ => blankLines fuel
    | none => return ()

/-- The end of a string over several lines: three quotes, in front of which up
to two more belong to the text. Gives how many do. -/
def closing (quote : Char) : Scan Nat := fun cs =>
  let count := min 5 (cs.takeWhile (· == quote)).length
  if count < 3 then none else some (count - 3, cs.drop count)

/-- The rest of a string over several lines. A backslash at the end of a line
takes the line end and the blanks behind it out of the text. -/
def basicLines : (fuel : Nat) → (read : List Char) → Scan String
  | 0, _ => refuse
  | fuel + 1, read => do
    match ← attempt (closing '"') with
    | some extra => return String.ofList (read.reverse ++ List.replicate extra '"')
    | none =>
      match ← attempt lineEnd with
      | some _ => basicLines fuel ('\n' :: read)
      | none =>
        match ← next with
        | '\\' => do
          let wrap : Scan Unit := do
            blanks
            lineEnd
            withFuel blankLines
          match ← attempt wrap with
          | some _ => basicLines fuel read
          | none => basicLines fuel ((← escape) :: read)
        | c => if isPlain c then basicLines fuel (c :: read) else refuse

/-- The rest of a string without escapes over several lines. -/
def literalLines : (fuel : Nat) → (read : List Char) → Scan String
  | 0, _ => refuse
  | fuel + 1, read => do
    match ← attempt (closing '\x27') with
    | some extra => return String.ofList (read.reverse ++ List.replicate extra '\x27')
    | none =>
      match ← attempt lineEnd with
      | some _ => literalLines fuel ('\n' :: read)
      | none => do
        let c ← one isPlain
        literalLines fuel (c :: read)

/-- A string on one line. -/
def lineString : Scan String := do
  match ← next with
  | '"' => withFuel fun n => basicBody n []
  | '\x27' => literalBody
  | _ => refuse

/-- A string over several lines, whose first line end does not count. -/
def linesString : Scan String := do
  match ← attempt (word ['"', '"', '"']) with
  | some _ =>
    discard (attempt lineEnd)
    withFuel fun n => basicLines n []
  | none =>
    word ['\x27', '\x27', '\x27']
    discard (attempt lineEnd)
    withFuel fun n => literalLines n []

/-- A string of any sort. Three quotes always start one over several lines. -/
def string : Scan String := fun cs =>
  if ['"', '"', '"'].isPrefixOf cs || ['\x27', '\x27', '\x27'].isPrefixOf cs then linesString cs
  else lineString cs

/-! ## Numbers -/

/-- The digits of a number, in which an underscore may stand between two. -/
def digitsWith (isDigit : Char → Bool) : Scan (List Char) := do
  let text ← many fun c => isDigit c || c == '_'
  let separated :=
    text.head?.any isDigit && text.getLast?.any isDigit &&
      !(text.zip (text.drop 1)).any fun (a, b) => a == '_' && b == '_'
  if separated then return text.filter isDigit else refuse

/-- A sign, if there is one: whether it is a minus. -/
def sign : Scan (Option Bool) := do
  match ← attempt (one fun c => c == '+' || c == '-') with
  | some c => return some (c == '-')
  | none => return none

/-- Decimal digits without a leading zero. -/
def decimalDigits : Scan (List Char) := do
  let ds ← digitsWith Char.isDigit
  if ds.head? == some '0' && 1 < ds.length then refuse else return ds

/-- An integer that fits sixty-four bits with a sign. -/
def inRange (i : Int) : Scan Int :=
  if -9223372036854775808 ≤ i ∧ i ≤ 9223372036854775807 then pure i else refuse

/-- The digits of an integer in another base, behind its mark. -/
def based (mark : Char) (base : Nat) : Scan Int := do
  word ['0', mark]
  let ds ← digitsWith (isDigitOf base)
  inRange (ofDigits base ds)

/-- An integer. -/
def integer : Scan Int := do
  match ← attempt (orElse (based 'x' 16) (orElse (based 'o' 8) (based 'b' 2))) with
  | some i => return i
  | none =>
    let negative ← sign
    let n := ofDigits 10 (← decimalDigits)
    inRange (if negative == some true then -(n : Int) else n)

/-- The exponent of a float: its sign and digits. -/
def exponent : Scan Int := do
  discard (one fun c => c == 'e' || c == 'E')
  let negative ← sign
  let n := ofDigits 10 (← digitsWith Char.isDigit)
  return if negative == some true then -(n : Int) else n

/-- A float with a fraction, an exponent or both. One that is too large is
refused, unless it is negative. -/
def ordinaryFloat : Scan Float := do
  let negative ← sign
  let whole ← decimalDigits
  let fraction ← attempt (do
    char '.'
    digitsWith Char.isDigit)
  let power ← attempt exponent
  if fraction.isNone && power.isNone then refuse
  let places := fraction.getD []
  let x := Decimal.nearest (whole ++ places) (power.getD 0 - (places.length : Int))
  if negative == some true then return -x
  else if x.isInf then refuse
  else return x

/-- An infinity, or what is not a number. -/
def specialFloat : Scan Float := do
  let negative ← sign
  let x ← orElse
    (do
      word ['i', 'n', 'f']
      return 1.0 / 0.0)
    (do
      word ['n', 'a', 'n']
      return 0.0 / 0.0)
  return if negative == some true then -x else x

/-- A float. -/
def float : Scan Float := orElse ordinaryFloat specialFloat

/-! ## Dates and times -/

/-- So many digits, as a number within bounds. -/
def fixed (count low high : Nat) : Scan Nat := do
  let ds ← (List.range count).mapM fun _ => one Char.isDigit
  let n := ofDigits 10 ds
  if low ≤ n ∧ n ≤ high then return n else refuse

/-- How many days a month has. -/
def daysIn (year month : Nat) : Nat :=
  if month = 2 then
    if year % 4 = 0 ∧ (year % 100 ≠ 0 ∨ year % 400 = 0) then 29 else 28
  else if month = 4 ∨ month = 6 ∨ month = 9 ∨ month = 11 then 30
  else 31

/-- A date, as it is written. -/
def date : Scan (List Char) := do
  let year ← fixed 4 0 9999
  char '-'
  let month ← fixed 2 1 12
  char '-'
  let day ← fixed 2 1 (daysIn year month)
  return padded 4 year ++ '-' :: padded 2 month ++ '-' :: padded 2 day

/-- The fraction of a second to nine places, without trailing zeros. -/
def secondFraction : Scan (List Char) := do
  match ← attempt (char '.') with
  | none => return []
  | some _ =>
    let ds ← many Char.isDigit
    if ds.isEmpty then refuse
    let kept := ((ds.take 9).reverse.dropWhile (· == '0')).reverse
    return if kept.isEmpty then [] else '.' :: kept

/-- A time of day, as it is written. -/
def time : Scan (List Char) := do
  let hour ← fixed 2 0 23
  char ':'
  let minute ← fixed 2 0 59
  char ':'
  let second ← fixed 2 0 60
  let fraction ← secondFraction
  return padded 2 hour ++ ':' :: padded 2 minute ++ ':' :: padded 2 second ++ fraction

/-- An offset in minutes, as it is written. -/
def offset (negative : Bool) (minutes : Nat) : List Char :=
  (if negative && minutes != 0 then '-' else '+') ::
    padded 2 (minutes / 60) ++ ':' :: padded 2 (minutes % 60)

/-- The offset of a time zone, as it is written. -/
def zone : Scan (List Char) := do
  match ← next with
  | 'Z' => return ['Z']
  | 'z' => return ['Z']
  | c =>
    if c == '+' || c == '-' then
      let hour ← fixed 2 0 23
      char ':'
      return offset (c == '-') (hour * 60 + (← fixed 2 0 59))
    else refuse

/-- The sign between a date and a time. -/
def timeMark : Scan Unit := discard (one fun c => c == 'T' || c == 't' || c == ' ')

/-- A date, a time, or both with or without an offset, as it is written. -/
def moment : Scan String := do
  match ← attempt date with
  | none => return String.ofList (← time)
  | some d =>
    let timed : Scan (List Char) := do
      timeMark
      let t ← time
      let z ← attempt zone
      return 'T' :: t ++ z.getD []
    return String.ofList (d ++ (← attempt timed).getD [])

/-- The moment that a whole string names. -/
def moment? (s : String) : Option String :=
  match moment s.toList with
  | some (m, []) => some m
  | _ => none

end Toml

end DialogueScript
