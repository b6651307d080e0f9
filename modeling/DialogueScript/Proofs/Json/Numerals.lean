import DialogueScript.Json.Number
import DialogueScript.Proofs.Decimal.Search
import DialogueScript.Proofs.Json.Reading
/-!
# Numbers are scanned as they are written

A `Numeral` is the text of a number in its parts: a sign, the digits in
front of the point, those behind it, and an exponent. `scan_text` says
that a numeral is taken off the front of a text part by part. Every finite
double is stored as a numeral, and `storedNumeral` says which: the digits
of its shortest decimal, with a point among them, zeros in front of or
behind them, or an exponent.

So wherever a stored double stands, it is read as it is read alone, which
is `reread?`. The double is `Reproduced` if that is the double itself.
-/

namespace DialogueScript

namespace Json

/-- The text of a number in its parts. -/
structure Numeral where
  negative : Bool
  whole : List Char
  fraction : Option (List Char)
  /-- Whether the exponent is negative, and its digits. -/
  exponent : Option (Bool × List Char)

namespace Numeral

/-- At least one character, and digits all of them. -/
def Digits (cs : List Char) : Prop := cs ≠ [] ∧ ∀ c ∈ cs, c.isDigit = true

/-- The parts are digits, and those in front of the point begin with a zero
only if that is the only one. -/
structure WellFormed (n : Numeral) : Prop where
  whole : Digits n.whole
  leading : ∀ d ds, n.whole = '0' :: d :: ds → False
  fraction : ∀ ds, n.fraction = some ds → Digits ds
  exponent : ∀ negative ds, n.exponent = some (negative, ds) → Digits ds

/-- The sign. -/
def signText (negative : Bool) : List Char := if negative then ['-'] else []

/-- The point and the digits behind it. -/
def fractionText : Option (List Char) → List Char
  | none => []
  | some ds => '.' :: ds

/-- The exponent, its sign always written. -/
def exponentText : Option (Bool × List Char) → List Char
  | none => []
  | some (negative, ds) => 'e' :: (if negative then '-' else '+') :: ds

/-- The text of a numeral. -/
def text (n : Numeral) : List Char :=
  signText n.negative ++ (n.whole ++ (fractionText n.fraction ++ exponentText n.exponent))

/-- The values of digits. -/
def values (cs : List Char) : List Nat := cs.map fun c => c.toNat - '0'.toNat

/-- The literal that a numeral spells. -/
def literal (n : Numeral) : Literal :=
  ⟨n.negative, values n.whole, n.fraction.map values,
    n.exponent.map fun e => (e.1, values e.2)⟩

end Numeral

open Numeral

variable {cs ds rest : List Char} {n : Numeral} {negative : Bool}

/-! ## Scanning -/

/-- What cannot go on a number. -/
def Stops (rest : List Char) : Prop :=
  ∀ c, rest.head? = some c → c.isDigit = false ∧ c ≠ '.' ∧ c ≠ 'e' ∧ c ≠ 'E'

/-- No digit in front. -/
def NoDigit (rest : List Char) : Prop := ∀ c, rest.head? = some c → c.isDigit = false

theorem Stops.noDigit (h : Stops rest) : NoDigit rest := fun c hc => (h c hc).1

theorem noDigit_cons {c : Char} (h : c.isDigit = false) : NoDigit (c :: cs) := by
  intro d hd
  cases hd
  exact h

/-- Digits are taken off as far as they go. -/
theorem digits_append (hcs : ∀ c ∈ cs, c.isDigit = true) (hrest : NoDigit rest) :
    digits (cs ++ rest) = (values cs, rest) := by
  have htake : rest.takeWhile Char.isDigit = [] := by
    cases rest with
    | nil => rfl
    | cons c rest => simp [hrest c rfl]
  have hdrop : rest.dropWhile Char.isDigit = rest := by
    cases rest with
    | nil => rfl
    | cons c rest => simp [hrest c rfl]
  rw [digits, List.takeWhile_append_of_pos hcs, List.dropWhile_append_of_pos hcs, htake, hdrop,
    List.append_nil]
  rfl

theorem someDigits_append (atEnd : Fault) (hcs : Digits cs) (hrest : NoDigit rest) :
    someDigits atEnd (cs ++ rest) = .ok (values cs, rest) := by
  obtain ⟨hne, hdigits⟩ := hcs
  rw [someDigits, digits_append hdigits hrest]
  cases cs with
  | nil => exact absurd rfl hne
  | cons c cs => rfl

/-- A digit whose value is zero is a zero. -/
theorem eq_zero_of_value {c : Char} (h : c.isDigit = true) (hc : c.toNat - '0'.toNat = 0) :
    c = '0' := by
  have hbounds := Char.isDigit_iff_toNat.1 h
  have hnat : c.toNat = '0'.toNat := by omega
  rw [← Char.ofNat_toNat c, hnat, Char.ofNat_toNat]

theorem scanWhole_append (atEnd : Fault) (hcs : Digits cs)
    (hleading : ∀ d ds, cs = '0' :: d :: ds → False) (hrest : NoDigit rest) :
    scanWhole atEnd (cs ++ rest) = .ok (values cs, rest) := by
  rw [scanWhole, someDigits_append atEnd hcs hrest]
  simp only [bind, Except.bind]
  split
  · rename_i v vs tail hvalues
    match cs, hcs, hleading with
    | c :: d :: ds, hcs, hleading =>
      injection hvalues with hvalues
      injection hvalues with hzero
      have hc := eq_zero_of_value (hcs.2 c (by simp)) hzero
      exact (hleading d ds (by rw [hc])).elim
    | [c], _, _ => simp [values] at hvalues
    | [], _, _ => simp [values] at hvalues
  · rfl

/-- A point cannot be taken for a digit, and what follows a number is no
point. -/
theorem scanFraction_append (atEnd : Fault) {fraction : Option (List Char)}
    (hfraction : ∀ ds, fraction = some ds → Digits ds) (hrest : NoDigit rest)
    (hpoint : ∀ c, rest.head? = some c → c ≠ '.') :
    scanFraction atEnd (fractionText fraction ++ rest) = .ok (fraction.map values, rest) := by
  cases fraction with
  | some ds =>
    rw [fractionText, List.cons_append, scanFraction, someDigits_append atEnd (hfraction ds rfl) hrest]
    rfl
  | none =>
    rw [fractionText, List.nil_append]
    unfold scanFraction
    split
    · exact absurd rfl (hpoint '.' rfl)
    · rfl

/-- A sign and digits behind the mark of an exponent. -/
theorem marked_append (atEnd : Fault) (hds : Digits ds) (hrest : NoDigit rest) :
    scanExponent.marked atEnd ((if negative then '-' else '+') :: (ds ++ rest)) =
      .ok (some (negative, values ds), rest) := by
  unfold scanExponent.marked
  cases negative with
  | true =>
    simp only [if_true]
    rw [someDigits_append atEnd hds hrest]
    rfl
  | false =>
    simp only [Bool.false_eq_true, if_false]
    rw [someDigits_append atEnd hds hrest]
    rfl

theorem scanExponent_append (atEnd : Fault) {exponent : Option (Bool × List Char)}
    (hexponent : ∀ negative ds, exponent = some (negative, ds) → Digits ds)
    (hrest : Stops rest) :
    scanExponent atEnd (exponentText exponent ++ rest) =
      .ok (exponent.map fun e => (e.1, values e.2), rest) := by
  cases exponent with
  | some e =>
    obtain ⟨negative, ds⟩ := e
    rw [exponentText, List.cons_append, List.cons_append, scanExponent,
      marked_append atEnd (hexponent negative ds rfl) hrest.noDigit]
    rfl
  | none =>
    rw [exponentText, List.nil_append]
    unfold scanExponent
    split
    · exact absurd rfl (hrest 'e' rfl).2.2.1
    · exact absurd rfl (hrest 'E' rfl).2.2.2
    · rfl

/-- What follows the digits in front of the point is no digit. -/
theorem noDigit_fraction (fraction : Option (List Char)) (exponent : Option (Bool × List Char))
    (hrest : Stops rest) :
    NoDigit (fractionText fraction ++ (exponentText exponent ++ rest)) := by
  cases fraction with
  | some ds => exact noDigit_cons (by decide)
  | none =>
    cases exponent with
    | some e => exact noDigit_cons (by decide)
    | none => exact hrest.noDigit

/-- **A numeral is scanned part by part**, in front of anything that cannot go
on a number. -/
theorem scan_text (atEnd : Fault) (hn : n.WellFormed) (hrest : Stops rest) :
    Literal.scan atEnd (n.text ++ rest) = .ok (n.literal, rest) := by
  obtain ⟨negative, whole, fraction, exponent⟩ := n
  have hexponent := scanExponent_append atEnd hn.exponent hrest
  have hafter : ∀ c, (exponentText exponent ++ rest).head? = some c →
      c.isDigit = false ∧ c ≠ '.' := by
    intro c hc
    cases exponent with
    | some e =>
      cases hc
      exact ⟨by decide, by decide⟩
    | none => exact ⟨(hrest c hc).1, (hrest c hc).2.1⟩
  have hfraction := scanFraction_append atEnd hn.fraction
    (fun c hc => (hafter c hc).1) (fun c hc => (hafter c hc).2)
  have hwhole := scanWhole_append atEnd hn.whole hn.leading
    (noDigit_fraction fraction exponent hrest)
  simp only [text, List.append_assoc]
  cases negative with
  | true =>
    simp only [signText, if_true, List.cons_append, List.nil_append, Literal.scan, hwhole,
      hfraction, hexponent, bind, Except.bind]
    rfl
  | false =>
    -- without a sign the text begins with a digit
    obtain ⟨c, cs, rfl⟩ := List.exists_cons_of_ne_nil hn.whole.1
    have hminus : c ≠ '-' := by
      rintro rfl
      exact absurd (hn.whole.2 '-' (by simp)) (by decide)
    simp only [signText, Bool.false_eq_true, if_false, List.nil_append]
    unfold Literal.scan
    split
    rename_i sign rest' hsign
    split at hsign
    · rename_i h
      cases h
      exact absurd rfl hminus
    · cases hsign
      simp only [hwhole, hfraction, hexponent, bind, Except.bind]
      rfl

/-- **A numeral is read as the number its literal stands for**, or refused for
its size. -/
theorem readNumber_text (hn : n.WellFormed) (hrest : Stops rest) :
    readNumber (n.text ++ rest) =
      match n.literal.value with
      | some x => .ok (x, rest)
      | none => .error (.malformed .numberOutOfRange) := by
  rw [readNumber, scan_text _ hn hrest]
  rfl

/-! ## Stored numbers -/

/-- The numeral of a decimal without an exponent. -/
def pointedNumeral (negative : Bool) (digits : List Char) : Int → Numeral
  | .ofNat zeros => ⟨negative, digits ++ List.replicate zeros '0', some ['0'], none⟩
  | .negSucc n =>
    let places := n + 1
    if places < digits.length then
      ⟨negative, digits.take (digits.length - places),
        some (digits.drop (digits.length - places)), none⟩
    else ⟨negative, ['0'], some (List.replicate (places - digits.length) '0' ++ digits), none⟩

/-- The numeral of a decimal with an exponent. -/
def scientificNumeral (negative : Bool) (digits : List Char) (exponent : Int) : Numeral :=
  ⟨negative, digits.take 1, if digits.drop 1 = [] then none else some (digits.drop 1),
    some (decide (exponent < 0), Nat.toDigits 10 exponent.natAbs)⟩

/-- The numeral of a decimal as it is stored. -/
def storedNumeral (negative : Bool) (d : Decimal.Scaled) : Numeral :=
  let digits := Nat.toDigits 10 d.significand
  let exponent := d.scale + (digits.length : Int) - 1
  if Decimal.stored.positional exponent then pointedNumeral negative digits d.scale
  else scientificNumeral negative digits exponent

theorem text_pointedNumeral (negative : Bool) (digits : List Char) (scale : Int) :
    (pointedNumeral negative digits scale).text =
      signText negative ++ Decimal.pointed ['.', '0'] digits scale := by
  cases scale with
  | ofNat zeros => simp [pointedNumeral, Decimal.pointed, text, fractionText, exponentText]
  | negSucc n =>
    simp only [pointedNumeral, Decimal.pointed]
    split <;> simp [text, fractionText, exponentText]

theorem text_scientificNumeral (negative : Bool) (digits : List Char) (exponent : Int) :
    (scientificNumeral negative digits exponent).text =
      signText negative ++ Decimal.scientific digits exponent := by
  simp only [scientificNumeral, Decimal.scientific]
  cases digits.drop 1 <;> simp [text, fractionText, exponentText]

/-- A decimal is stored as its numeral. -/
theorem text_storedNumeral (negative : Bool) (d : Decimal.Scaled) :
    (storedNumeral negative d).text = signText negative ++ Decimal.stored.decimal d := by
  simp only [storedNumeral, Decimal.Style.decimal]
  split
  · exact text_pointedNumeral negative _ d.scale
  · exact text_scientificNumeral negative _ _

/-! ### Stored numbers are well-formed -/

theorem digits_toDigits (n : Nat) : Digits (Nat.toDigits 10 n) :=
  ⟨Nat.toDigits_ne_nil, fun _ hc => Nat.isDigit_of_mem_toDigits (by decide) (by decide) hc⟩

theorem digits_replicate_append (count : Nat) (hds : Digits ds) :
    Digits (List.replicate count '0' ++ ds) := by
  refine ⟨by simp [hds.1], fun c hc => ?_⟩
  rcases List.mem_append.1 hc with hc | hc
  · rw [List.eq_of_mem_replicate hc]
    rfl
  · exact hds.2 c hc

/-- The digits of a number that is not zero do not begin with a zero. -/
theorem toDigits_ne_zero_cons {n : Nat} (hn : n ≠ 0) (ds : List Char) :
    Nat.toDigits 10 n ≠ '0' :: ds := by
  induction n using Nat.strongRecOn generalizing ds with
  | _ n ih =>
    by_cases hlt : n < 10
    · rw [Nat.toDigits_of_lt_base hlt]
      intro h
      injection h with h
      exact hn (Nat.digitChar_eq_zero.1 h)
    · rw [Nat.toDigits_of_base_le (by decide) (by omega)]
      intro h
      rcases hhead : Nat.toDigits 10 (n / 10) with _ | ⟨c, cs⟩
      · exact Nat.toDigits_ne_nil hhead
      · rw [hhead, List.cons_append] at h
        injection h with h
        subst h
        exact ih (n / 10) (by omega) (by omega) cs hhead

theorem wellFormed_pointedNumeral (negative : Bool) {digits : List Char} (scale : Int)
    (hdigits : Digits digits) (hcons : ∀ ds, digits = '0' :: ds → ds = [] ∧ scale = 0) :
    (pointedNumeral negative digits scale).WellFormed := by
  cases scale with
  | ofNat zeros =>
    refine ⟨⟨List.append_ne_nil_of_left_ne_nil hdigits.1 _, fun c hc => ?_⟩, ?_, ?_, nofun⟩
    · rcases List.mem_append.1 hc with hc | hc
      · exact hdigits.2 c hc
      · rw [List.eq_of_mem_replicate hc]
        rfl
    · intro d ds h
      obtain ⟨c, cs, rfl⟩ := List.exists_cons_of_ne_nil hdigits.1
      injection h with hc h
      obtain ⟨hcs, hzeros⟩ := hcons cs (by rw [hc])
      cases hzeros
      rw [hcs] at h
      cases h
    · rintro ds ⟨⟩
      exact ⟨by simp, by simp⟩
  | negSucc n =>
    simp only [pointedNumeral]
    split
    · rename_i hlt
      refine ⟨⟨?_, fun c hc => hdigits.2 c (List.mem_of_mem_take hc)⟩, ?_, ?_, nofun⟩
      · intro hnil
        have := congrArg List.length hnil
        simp only [List.length_take, List.length_nil] at this
        omega
      · intro d ds h
        obtain ⟨c, cs, rfl⟩ := List.exists_cons_of_ne_nil hdigits.1
        obtain ⟨k, hk⟩ := Nat.exists_eq_succ_of_ne_zero (Nat.sub_ne_zero_of_lt hlt)
        simp only [hk, List.take_succ_cons] at h
        injection h with hc
        exact absurd (hcons cs (by rw [hc])).2 (by simp)
      · rintro ds ⟨⟩
        refine ⟨?_, fun c hc => hdigits.2 c (List.mem_of_mem_drop hc)⟩
        intro hnil
        have := congrArg List.length hnil
        simp only [List.length_drop, List.length_nil] at this
        omega
    · refine ⟨⟨by simp, by simp⟩, by simp, ?_, nofun⟩
      rintro ds ⟨⟩
      exact digits_replicate_append _ hdigits

theorem wellFormed_scientificNumeral (negative : Bool) {digits : List Char} (exponent : Int)
    (hdigits : Digits digits) : (scientificNumeral negative digits exponent).WellFormed := by
  obtain ⟨c, cs, rfl⟩ := List.exists_cons_of_ne_nil hdigits.1
  refine ⟨⟨by simp [scientificNumeral], fun d hd => ?_⟩, by simp [scientificNumeral], ?_, ?_⟩
  · exact hdigits.2 d (List.mem_of_mem_take hd)
  · intro ds h
    simp only [scientificNumeral, List.drop_succ_cons, List.drop_zero] at h
    split at h
    · cases h
    · cases h
      rename_i hne
      exact ⟨hne, fun d hd => hdigits.2 d (List.mem_cons_of_mem _ hd)⟩
  · rintro sign ds ⟨⟩
    exact digits_toDigits _

/-- A decimal whose digits are a zero alone or do not begin with one. -/
theorem wellFormed_storedNumeral (negative : Bool) {d : Decimal.Scaled}
    (hd : d.significand = 0 → d.scale = 0) : (storedNumeral negative d).WellFormed := by
  have hdigits := digits_toDigits d.significand
  have hcons : ∀ ds, Nat.toDigits 10 d.significand = '0' :: ds → ds = [] ∧ d.scale = 0 := by
    intro ds h
    by_cases hzero : d.significand = 0
    · rw [hzero, Nat.toDigits_zero] at h
      cases h
      exact ⟨rfl, hd hzero⟩
    · exact absurd h (toDigits_ne_zero_cons hzero ds)
  simp only [storedNumeral]
  generalize Nat.toDigits 10 d.significand = digits at hdigits hcons
  split
  · exact wellFormed_pointedNumeral negative d.scale hdigits hcons
  · exact wellFormed_scientificNumeral negative _ hdigits

/-- The sign and the decimal in which a finite double is stored. -/
def storedDecimal? (x : Float) : Option (Bool × Decimal.Scaled) :=
  match Decimal.Parts.ofFloat x with
  | .nan => none
  | .infinite _ => none
  | .zero negative => some (negative, ⟨0, 0⟩)
  | .finite negative b => some (negative, Decimal.shortest .toEven b)

/-- A double that is not finite is stored as nothing. -/
theorem write_of_none {x : Float} (h : storedDecimal? x = none) :
    (Decimal.stored.write x).toList = "null".toList := by
  simp only [storedDecimal?] at h
  simp only [Decimal.Style.write]
  cases hparts : Decimal.Parts.ofFloat x <;> rw [hparts] at h
  · rfl
  · rfl
  · cases h
  · cases h

/-- **A finite double is stored as a well-formed numeral.** -/
theorem write_of_some {x : Float} {d : Decimal.Scaled} (h : storedDecimal? x = some (negative, d)) :
    (Decimal.stored.write x).toList = (storedNumeral negative d).text ∧
      (storedNumeral negative d).WellFormed := by
  simp only [storedDecimal?] at h
  rw [text_storedNumeral]
  simp only [Decimal.Style.write]
  cases hparts : Decimal.Parts.ofFloat x <;> rw [hparts] at h
  · cases h
  · cases h
  · cases h
    exact ⟨by rw [String.toList_ofList]; rfl, wellFormed_storedNumeral negative fun _ => rfl⟩
  · cases h
    rename_i b
    refine ⟨by rw [String.toList_ofList]; rfl, wellFormed_storedNumeral negative fun hzero => ?_⟩
    -- a decimal without digits would be zero, and no double of this kind is nearest to that
    have hcanonical := Decimal.canonical_of_ofFloat hparts
    have hrounds := Decimal.rounds_shortest .toEven hcanonical
    have hpos := Decimal.Binary.pos_of_rounds hcanonical.positive hrounds
    simp [Decimal.Scaled.value, hzero] at hpos

/-! ## Readers of numbers -/

open Reader

variable {expected : String} {x : Float}

/-- What follows a value cannot go on a number. -/
theorem stops_of_ends (h : Ends rest) : Stops rest := by
  intro c hc
  rcases h c hc with hblank | rfl | rfl | rfl
  · simp only [isBlank, Bool.or_eq_true, beq_iff_eq] at hblank
    rcases hblank with ((rfl | rfl) | rfl) | rfl <;> decide
  · decide
  · decide
  · decide

/-- A numeral begins with a minus or a digit. -/
theorem exists_text_eq_cons (hn : n.WellFormed) :
    ∃ c cs, n.text = c :: cs ∧ (c == '-' || c.isDigit) = true := by
  obtain ⟨negative, whole, fraction, exponent⟩ := n
  obtain ⟨c, cs, rfl⟩ := List.exists_cons_of_ne_nil hn.whole.1
  cases negative with
  | true => exact ⟨_, _, rfl, rfl⟩
  | false => exact ⟨_, _, rfl, by simp [hn.whole.2 c (by simp)]⟩

theorem isBlank_of_number {c : Char} (h : (c == '-' || c.isDigit) = true) : isBlank c = false := by
  rcases Bool.or_eq_true_iff.1 h with h | h
  · rw [beq_iff_eq.1 h]
    rfl
  · by_contra hblank
    simp only [isBlank, Bool.not_eq_false, Bool.or_eq_true, beq_iff_eq] at hblank
    rcases hblank with ((rfl | rfl) | rfl) | rfl <;> simp at h

theorem opens_text (hn : n.WellFormed) : Opens n.text := by
  obtain ⟨c, cs, htext, hc⟩ := exists_text_eq_cons hn
  refine ⟨c, cs, htext, isBlank_of_number hc, ?_, ?_, ?_⟩ <;>
  · rintro rfl
    simp at hc

/-- Where a numeral stands, a number is read. -/
theorem numberOr_text (expected : String) (hn : n.WellFormed) {gap : List Char}
    (hgap : Blank gap) (hrest : Ends rest) :
    Record.numberOr expected (gap ++ (n.text ++ rest)) =
      match n.literal.value with
      | some v => .ok (v, rest)
      | none => .error (.malformed .numberOutOfRange) := by
  rw [← readNumber_text hn (stops_of_ends hrest)]
  obtain ⟨c, cs, htext, hc⟩ := exists_text_eq_cons hn
  rw [Record.numberOr, htext, List.cons_append, bind_ok (peek_gap hgap (isBlank_of_number hc) _)]
  simp only [hc, if_true]
  rfl

/-! ### Indices -/

/-- An index as a numeral. -/
def indexNumeral (i : Nat) : Numeral := ⟨false, Nat.toDigits 10 i, none, none⟩

theorem wellFormed_indexNumeral (i : Nat) : (indexNumeral i).WellFormed := by
  refine ⟨digits_toDigits i, fun d ds h => ?_, nofun, nofun⟩
  by_cases hi : i = 0
  · subst hi
    simp [indexNumeral] at h
  · exact toDigits_ne_zero_cons hi _ h

theorem text_indexNumeral (i : Nat) : (indexNumeral i).text = Nat.toDigits 10 i := by
  simp [indexNumeral, text, signText, fractionText, exponentText]

/-- The number that digits stand for. -/
theorem ofDigits_values (cs : List Char) : ofDigits (values cs) = Nat.ofDigitChars 10 cs 0 := by
  rw [ofDigits, values, List.foldl_map, Nat.ofDigitChars_eq_foldl]
  congr 1
  funext a c
  rw [Nat.mul_comm]

theorem value_indexNumeral {i : Nat} (hi : i ≤ significandLimit) :
    (indexNumeral i).literal.value = some (.integer i) := by
  have hdigits : ofDigits (values (Nat.toDigits 10 i)) = i := by
    rw [ofDigits_values, Nat.ofDigitChars_ten_toDigits]
  simp [Literal.value, Literal.integer?, indexNumeral, literal, hdigits, hi]

/-- **An index of at most sixty-four bits is read as it was written.** -/
theorem reads_index {i : Nat} (hi : i ≤ significandLimit) :
    Reads Record.index (Nat.toDigits 10 i) i := by
  intro gap rest hgap hrest
  have hnumber := numberOr_text "usize" (wellFormed_indexNumeral i) hgap hrest
  rw [value_indexNumeral hi, text_indexNumeral] at hnumber
  rw [Record.index, bind_ok hnumber]
  rfl

/-! ### Doubles -/

/-- What the reader of numbers makes of the stored text of a double. -/
def reread? (x : Float) : Option Float :=
  match readNumber (Decimal.stored.write x).toList with
  | .ok (n, []) => some n.toFloat
  | _ => none

/-- A double that comes back from its stored text. -/
def Reproduced (x : Float) : Prop := reread? x = some x

instance (x : Float) : Decidable (Reproduced x) := inferInstanceAs (Decidable (_ = _))

/-- A finite double is read as what its literal stands for. -/
theorem reread?_of_some {d : Decimal.Scaled} (h : storedDecimal? x = some (negative, d)) :
    reread? x = (storedNumeral negative d).literal.value.map Number.toFloat := by
  obtain ⟨htext, hn⟩ := write_of_some h
  have hread := readNumber_text hn (stops_of_ends ends_nil)
  rw [List.append_nil] at hread
  rw [reread?, htext, hread]
  cases (storedNumeral negative d).literal.value <;> rfl

theorem reread?_of_none (h : storedDecimal? x = none) : reread? x = none := by
  rw [reread?, write_of_none h]
  rfl

/-- A double that is not finite is not read as a number. -/
theorem reread?_eq_none (h : x.isInf = true ∨ x.isNaN = true) : reread? x = none := by
  rw [Decimal.isInf_iff, Decimal.isNaN_iff] at h
  apply reread?_of_none
  rcases h with ⟨negative, h⟩ | h <;> rw [storedDecimal?, h]

/-- **A stored double is read wherever it stands as it is read alone.** -/
theorem reads_float {y : Float} (h : reread? x = some y) :
    Reads Record.float (Decimal.stored.write x).toList y := by
  intro gap rest hgap hrest
  rcases hstored : storedDecimal? x with _ | ⟨negative, d⟩
  · rw [reread?_of_none hstored] at h
    cases h
  rw [reread?_of_some hstored] at h
  obtain ⟨v, hv, rfl⟩ := Option.map_eq_some_iff.1 h
  obtain ⟨htext, hn⟩ := write_of_some hstored
  have hnumber := numberOr_text "f64" hn hgap hrest
  rw [hv] at hnumber
  rw [htext, Record.float, bind_ok hnumber]
  rfl

/-- **It is refused wherever it stands if it is refused alone**: for its size, or because it is
not stored as a number. -/
theorem refuses_float (h : reread? x = none) :
    Refuses Record.float (Decimal.stored.write x).toList := by
  intro gap rest hgap hrest
  rcases hstored : storedDecimal? x with _ | ⟨negative, d⟩
  · have hpeek : peek (gap ++ ("null".toList ++ rest)) = .ok (some 'n', "null".toList ++ rest) :=
      peek_gap hgap rfl _
    obtain ⟨f, hf⟩ : ∃ f, (unexpected "f64" : Reader Number) ("null".toList ++ rest) = .error f :=
      unexpected_error "f64" _
    have hnumber : Record.numberOr "f64" (gap ++ ("null".toList ++ rest)) = .error f := by
      rw [Record.numberOr, bind_ok hpeek]
      exact hf
    exact ⟨f, by rw [write_of_none hstored, Record.float, bind_error hnumber]⟩
  · rw [reread?_of_some hstored, Option.map_eq_none_iff] at h
    obtain ⟨htext, hn⟩ := write_of_some hstored
    have hnumber := numberOr_text "f64" hn hgap hrest
    rw [h] at hnumber
    exact ⟨.malformed .numberOutOfRange, by rw [htext, Record.float, bind_error hnumber]⟩

end Json

end DialogueScript
