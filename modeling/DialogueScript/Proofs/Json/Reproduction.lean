import DialogueScript.Proofs.Decimal.Rounding
import DialogueScript.Proofs.Json.Numerals
/-!
# Which doubles are reproduced

A stored number is read as its digits, rounded to a double, times a power of ten. The digits
are those of the shortest decimal that rounds to the number (`literal_storedNumeral`), so one
rounding would lead back to it, but there are two. With a power of ten that is itself a
double, what is read is known once both roundings are: `reproduced_iff_of_rounds` compares
the outcome with the double that was stored. Where the digits are a double, the first
rounding does nothing, and the number comes back (`reproduced_of_short`).
-/

namespace DialogueScript

namespace Json

open Decimal

/-! ## What a literal stands for -/

/-- The number that digits stand for behind others. -/
def extend (n : Nat) (ds : List Nat) : Nat := ds.foldl (fun n d => n * 10 + d) n

theorem le_extend (n : Nat) (ds : List Nat) : n ≤ extend n ds := by
  induction ds generalizing n with
  | nil => exact le_refl n
  | cons d ds ih => exact le_trans (by omega) (ih (n * 10 + d))

/-- Digits all fill the significand if the number is not too large. -/
theorem fill_eq (n : Nat) (ds : List Nat) (h : extend n ds ≤ significandLimit) :
    fill n ds = (extend n ds, 0) := by
  induction ds generalizing n with
  | nil => rfl
  | cons d ds ih =>
    have hfits : n * 10 + d ≤ significandLimit := le_trans (le_extend _ ds) h
    rw [fill, if_pos hfits]
    exact ih _ h

namespace Literal

variable {l : Literal}

/-- The digits of a literal, as one number. -/
def significand (l : Literal) : Nat := ofDigits (l.whole ++ l.fraction.getD [])

/-- The power of ten that the last digit of a literal counts. -/
def power (l : Literal) : Int :=
  (match l.exponent with
    | none => 0
    | some (negative, ds) => if negative then -(ofDigits ds : Int) else ofDigits ds) -
    ((l.fraction.getD []).length : Int)

/-- A literal whose digits fit is its digits, rounded, times a power of ten. -/
theorem magnitude_eq (hdigits : l.significand ≤ significandLimit)
    (hexponent : ∀ negative ds, l.exponent = some (negative, ds) → ofDigits ds ≤ exponentLimit) :
    l.magnitude = scale (roundNat l.significand) l.power := by
  obtain ⟨negative, whole, fraction, exponent⟩ := l
  have hall : significand ⟨negative, whole, fraction, exponent⟩ =
      extend (extend 0 whole) (fraction.getD []) := List.foldl_append ..
  rw [hall] at hdigits
  have hwhole := fill_eq 0 whole (le_trans (le_extend _ _) hdigits)
  have hfraction := fill_eq _ _ hdigits
  simp only [magnitude, hwhole, hfraction, hall, power]
  cases exponent with
  | none => simp
  | some e =>
    obtain ⟨minus, ds⟩ := e
    simp only [hexponent minus ds rfl, if_true]
    congr 1
    cases minus <;> simp <;> omega

end Literal

/-! ## What a stored number stands for -/

open Numeral

variable {negative : Bool} {d : Scaled}

theorem significand_literal (n : Numeral) :
    n.literal.significand = Nat.ofDigitChars 10 (n.whole ++ n.fraction.getD []) 0 := by
  rw [← ofDigits_values, Literal.significand]
  cases h : n.fraction <;> simp [literal, values, h]

theorem power_literal (n : Numeral) :
    n.literal.power = (match n.exponent with
      | none => 0
      | some (negative, ds) =>
        if negative then -(Nat.ofDigitChars 10 ds 0 : Int) else Nat.ofDigitChars 10 ds 0) -
      ((n.fraction.getD []).length : Int) := by
  obtain ⟨negative, whole, fraction, exponent⟩ := n
  rcases exponent with _ | ⟨minus, ds⟩ <;> cases fraction <;>
    simp [literal, Literal.power, values, ← ofDigits_values]

/-- With an exponent, the digits are those of the decimal. -/
theorem literal_scientificNumeral (negative : Bool) (n : Nat) (exponent : Int) :
    (scientificNumeral negative (Nat.toDigits 10 n) exponent).literal.significand = n ∧
      (scientificNumeral negative (Nat.toDigits 10 n) exponent).literal.power =
        exponent - ((Nat.toDigits 10 n).length : Int) + 1 := by
  have hfraction : ((scientificNumeral negative (Nat.toDigits 10 n) exponent).fraction.getD []) =
      (Nat.toDigits 10 n).drop 1 := by
    simp only [scientificNumeral]
    split
    · rename_i hnil
      rw [hnil]
      rfl
    · rfl
  have hlength := Nat.length_toDigits_pos (b := 10) (n := n)
  constructor
  · rw [significand_literal, hfraction]
    simp only [scientificNumeral, List.take_append_drop, Nat.ofDigitChars_ten_toDigits]
  · rw [power_literal, hfraction]
    simp only [scientificNumeral, Nat.ofDigitChars_ten_toDigits, decide_eq_true_eq,
      List.length_drop]
    split <;> omega

/-- With the point among or in front of them, the digits are those of the decimal. -/
theorem literal_pointedNumeral_negSucc (negative : Bool) (n k : Nat) :
    (pointedNumeral negative (Nat.toDigits 10 n) (.negSucc k)).literal.significand = n ∧
      (pointedNumeral negative (Nat.toDigits 10 n) (.negSucc k)).literal.power = .negSucc k := by
  simp only [pointedNumeral]
  split
  · refine ⟨?_, ?_⟩
    · simp [significand_literal]
    · rw [power_literal]
      simp only [Option.getD_some, List.length_drop]
      omega
  · refine ⟨?_, ?_⟩
    · simp [significand_literal, Nat.ofDigitChars_cons, Nat.ofDigitChars_append]
    · rw [power_literal]
      simp only [Option.getD_some, List.length_append, List.length_replicate]
      omega

/-- A whole number is written with its zeros and one more behind the point. -/
theorem literal_pointedNumeral_ofNat (negative : Bool) (n zeros : Nat) :
    (pointedNumeral negative (Nat.toDigits 10 n) (.ofNat zeros)).literal.significand =
        n * 10 ^ (zeros + 1) ∧
      (pointedNumeral negative (Nat.toDigits 10 n) (.ofNat zeros)).literal.power = -1 := by
  refine ⟨?_, ?_⟩
  · simp only [pointedNumeral, significand_literal, Option.getD_some, List.append_assoc,
      Nat.ofDigitChars_append, Nat.ofDigitChars_ten_toDigits, Nat.ofDigitChars_replicate_zero]
    simp [Nat.ofDigitChars_cons, pow_succ]
    ring
  · simp [pointedNumeral, power_literal]

/-- **The digits of a stored decimal and the power of ten they count**: those of the decimal,
or, for a whole number without an exponent, one zero more than it has. -/
theorem literal_storedNumeral (negative : Bool) (d : Scaled) :
    (0 ≤ d.scale → 16 < d.scale + ((Nat.toDigits 10 d.significand).length : Int)) ∧
        (storedNumeral negative d).literal.significand = d.significand ∧
        (storedNumeral negative d).literal.power = d.scale ∨
      ∃ zeros : Nat, d.scale = zeros ∧ zeros + (Nat.toDigits 10 d.significand).length ≤ 16 ∧
        (storedNumeral negative d).literal.significand = d.significand * 10 ^ (zeros + 1) ∧
        (storedNumeral negative d).literal.power = -1 := by
  obtain ⟨n, k⟩ := d
  simp only [storedNumeral]
  split
  · rename_i hpositional
    cases k with
    | ofNat zeros =>
      obtain ⟨hdigits, hpower⟩ := literal_pointedNumeral_ofNat negative n zeros
      refine .inr ⟨zeros, rfl, ?_, hdigits, hpower⟩
      simp only [stored, Bool.and_eq_true, decide_eq_true_eq, Int.ofNat_eq_natCast] at hpositional
      omega
    | negSucc k => exact .inl ⟨by omega, literal_pointedNumeral_negSucc negative n k⟩
  · rename_i hpositional
    obtain ⟨hdigits, hpower⟩ := literal_scientificNumeral negative n
      (k + ((Nat.toDigits 10 n).length : Int) - 1)
    have hlength := Nat.length_toDigits_pos (b := 10) (n := n)
    refine .inl ⟨fun hscale => ?_, hdigits, by rw [hpower]; ring⟩
    simp only [stored, Bool.and_eq_true, decide_eq_true_eq] at hpositional hscale ⊢
    omega

/-! ## Reading it -/

variable {x y : Float} {b c : Binary} {k : Int}

/-- A double is scaled by a power of ten that is a double in one rounding. -/
theorem scale_eq (hx : Parts.ofFloat x = .finite false c) (hc : 2 ^ 52 ≤ c.mantissa)
    (he : -52 ≤ c.exponent) (hk : k.natAbs ≤ 22) (hb : b.Canonical)
    (hv : b.Rounds (c.value * 10 ^ k)) :
    ∃ y, scale x k = some y ∧ Parts.ofFloat y = .finite false b := by
  obtain ⟨hpower, hshort⟩ := ofFloat_powerOfTen hk
  have hten : (Binary.ofNat (10 ^ k.natAbs)).value = 10 ^ k.natAbs := by
    rw [Binary.value_ofNat hshort]
    push_cast
    rfl
  have hfull := (Binary.full_ofNat (n := 10 ^ k.natAbs) (by positivity)).1
  -- a power of ten is multiplied by, and one with a negative exponent is divided by
  cases k with
  | ofNat j =>
    change Parts.ofFloat (powerOfTen j) = _ at hpower
    have hproduct : Parts.ofFloat (x * powerOfTen j) = .finite false b := by
      refine ofFloat_mul hx hpower (by nlinarith) hb ?_
      rw [hten]
      simpa using hv
    have hfinite : (x * powerOfTen j).isInf = false := by
      rw [← Bool.not_eq_true, isInf_iff, hproduct]
      nofun
    refine ⟨x * powerOfTen j, ?_, hproduct⟩
    have hlargest : j ≤ largestPower := le_trans hk (by decide)
    rw [scale, if_pos hlargest]
    simp only [hfinite, Bool.false_eq_true, if_false]
  | negSucc j =>
    change Parts.ofFloat (powerOfTen (j + 1)) = _ at hpower
    have hquotient : Parts.ofFloat (x / powerOfTen (j + 1)) = .finite false b := by
      refine ofFloat_div hx hpower hc hfull ?_ hb ?_
      · have hlog : (10 ^ (j + 1)).log2 < 74 := by
          refine (Nat.log2_lt (by positivity)).2 (lt_of_le_of_lt ?_ (by decide : 10 ^ 22 < 2 ^ 74))
          exact Nat.pow_le_pow_right (by decide) hk
        change -1021 ≤ c.exponent - (((10 ^ (j + 1)).log2 : Int) - 52)
        omega
      · rw [hten]
        rw [zpow_negSucc] at hv
        exact hv
    refine ⟨x / powerOfTen (j + 1), ?_, hquotient⟩
    have hlargest : j + 1 ≤ largestPower := le_trans hk (by decide)
    simp only [scale, shrink, hlargest, if_true]

/-- A stored number keeps its sign and has a point or an exponent, so it is not read as an
integer. -/
theorem value_storedNumeral (negative : Bool) (d : Scaled) :
    (storedNumeral negative d).literal.value =
      (storedNumeral negative d).literal.magnitude.map fun x =>
        .float (if negative then -x else x) := by
  have hparts : (storedNumeral negative d).literal.negative = negative ∧
      (storedNumeral negative d).literal.integer? = none := by
    simp only [storedNumeral]
    split
    · cases d.scale with
      | ofNat zeros => exact ⟨rfl, rfl⟩
      | negSucc n =>
        simp only [pointedNumeral]
        split <;> exact ⟨rfl, rfl⟩
    · simp only [scientificNumeral]
      split <;> exact ⟨rfl, rfl⟩
  rw [Literal.value, hparts.1, hparts.2]

/-- A finite double is reproduced if the magnitude that is read is its own. -/
theorem reproduced_iff_eq (hx : Parts.ofFloat x = .finite negative b)
    (hread : (storedNumeral negative (shortest .toEven b)).literal.magnitude = some y)
    (hy : Parts.ofFloat y = .finite false c) : Reproduced x ↔ c = b := by
  have hstored : storedDecimal? x = some (negative, shortest .toEven b) := by
    rw [storedDecimal?, hx]
  have hsign : Parts.ofFloat (if negative then -y else y) = .finite negative c := by
    cases negative with
    | true => exact ofFloat_neg hy
    | false => exact hy
  rw [Reproduced, reread?_of_some hstored, value_storedNumeral, hread]
  simp only [Option.map_some, Option.some.injEq, Number.toFloat]
  constructor
  · intro h
    rw [h, hx] at hsign
    cases hsign
    rfl
  · rintro rfl
    exact eq_of_parts (hsign.trans hx.symm)

/-- The exponent of a stored number is that of its leading digit. -/
theorem exponent_storedNumeral {minus : Bool} {ds : List Nat}
    (h : (storedNumeral negative d).literal.exponent = some (minus, ds)) :
    (storedNumeral negative d).literal.power = d.scale ∧
      ofDigits ds = (d.scale + ((Nat.toDigits 10 d.significand).length : Int) - 1).natAbs := by
  simp only [storedNumeral] at h ⊢
  split at h
  · cases hscale : d.scale with
    | ofNat zeros =>
      rw [hscale] at h
      cases h
    | negSucc n =>
      rw [hscale] at h
      simp only [pointedNumeral] at h
      split at h <;> cases h
  · rename_i hpositional
    rw [if_neg hpositional]
    refine ⟨?_, ?_⟩
    · rw [(literal_scientificNumeral negative d.significand _).2]
      ring
    · simp only [scientificNumeral, literal, Option.map_some, Option.some.injEq,
        Prod.mk.injEq] at h
      rw [← h.2, ofDigits_values, Nat.ofDigitChars_ten_toDigits]

/-- The digits of a stored number fit, and so does its exponent if the power of ten is
small. -/
theorem magnitude_storedNumeral (hd : d.significand ≤ 10 ^ 17)
    (hpower : (storedNumeral negative d).literal.power.natAbs ≤ 22) :
    (storedNumeral negative d).literal.significand < 2 ^ 64 ∧
      (storedNumeral negative d).literal.magnitude =
        scale (roundNat (storedNumeral negative d).literal.significand)
          (storedNumeral negative d).literal.power := by
  have hlength : (Nat.toDigits 10 d.significand).length ≤ 18 :=
    (Nat.length_toDigits_le_iff (by decide) (by decide)).2 (by omega)
  have hdigits : (storedNumeral negative d).literal.significand ≤ 10 ^ 17 := by
    rcases literal_storedNumeral negative d with ⟨-, hsame, -⟩ | ⟨zeros, -, hshort, hmore, -⟩
    · omega
    · have hlt : d.significand < 10 ^ (Nat.toDigits 10 d.significand).length :=
        (Nat.length_toDigits_le_iff (by decide) Nat.length_toDigits_pos).1 (le_refl _)
      -- at most sixteen digits with the zeros, and one zero more
      rw [hmore]
      calc d.significand * 10 ^ (zeros + 1)
          ≤ 10 ^ (Nat.toDigits 10 d.significand).length * 10 ^ (zeros + 1) :=
            Nat.mul_le_mul_right _ hlt.le
        _ = 10 ^ (zeros + (Nat.toDigits 10 d.significand).length + 1) := by
            rw [← pow_add]
            congr 1
            omega
        _ ≤ 10 ^ 17 := Nat.pow_le_pow_right (by decide) (by omega)
  refine ⟨by omega, Literal.magnitude_eq ?_ fun minus ds hexponent => ?_⟩
  · exact le_trans hdigits (by decide)
  · obtain ⟨hscale, hvalue⟩ := exponent_storedNumeral hexponent
    rw [hvalue, exponentLimit]
    omega

/-- The digits of a stored decimal, times the power of ten they count, are the decimal. -/
theorem value_literal (negative : Bool) (d : Scaled) :
    ((storedNumeral negative d).literal.significand : ℚ) *
      10 ^ (storedNumeral negative d).literal.power = d.value := by
  rcases literal_storedNumeral negative d with
    ⟨-, hdigits, hpower⟩ | ⟨zeros, hzeros, -, hdigits, hpower⟩
  · rw [hdigits, hpower]
    rfl
  · rw [hdigits, hpower, Scaled.value, hzeros, zpow_natCast]
    push_cast
    rw [pow_succ, zpow_neg_one]
    field_simp

/-- Both zeros are reproduced. -/
theorem reproduced_of_zero (hx : Parts.ofFloat x = .zero negative) : Reproduced x := by
  cases negative with
  | true =>
    obtain rfl : x = -0.0 := eq_of_parts (hx.trans (by decide))
    decide
  | false =>
    obtain rfl : x = 0.0 := eq_of_parts (hx.trans (by decide))
    decide

/-- A finite double is read by scaling its digits, rounded to a double. -/
theorem reproduced_iff_of_rounds {S : Nat} {read : Binary} (hx : Parts.ofFloat x = .finite negative b)
    (hdigits : (storedNumeral negative (shortest .toEven b)).literal.significand = S)
    (hpower : (storedNumeral negative (shortest .toEven b)).literal.power = k) (hk : k.natAbs ≤ 22)
    (hc : c.Canonical) (hfull : 2 ^ 52 ≤ c.mantissa) (he : -52 ≤ c.exponent) (hS : c.Rounds S)
    (hread : read.Canonical) (hv : read.Rounds (c.value * 10 ^ k)) :
    Reproduced x ↔ read = b := by
  have hb := canonical_of_ofFloat hx
  subst hpower hdigits
  obtain ⟨hlimit, hmagnitude⟩ :=
    magnitude_storedNumeral (significand_shortest_le .toEven hb) hk
  have hne : (storedNumeral negative (shortest .toEven b)).literal.significand ≠ 0 := by
    intro hzero
    rw [hzero] at hS
    exact absurd (Binary.pos_of_rounds hc.positive hS) (by simp)
  obtain ⟨y, hscale, hy⟩ := scale_eq (ofFloat_roundNat hne hlimit hc hS) hfull he hk hread hv
  exact reproduced_iff_eq hx (hmagnitude.trans hscale) hy

/-- **A number whose digits and power of ten are both doubles is reproduced.** -/
theorem reproduced_of_short {l : Literal}
    (hscan : Literal.scan (.unfinished .value) (stored.write x).toList = .ok (l, []))
    (hdigits : Short l.significand) (hpower : l.power.natAbs ≤ 22) : Reproduced x := by
  rcases hstored : storedDecimal? x with _ | ⟨negative, d⟩
  · rw [write_of_none hstored] at hscan
    cases hscan
  obtain ⟨htext, hwellFormed⟩ := write_of_some hstored
  have hliteral := scan_text (.unfinished .value) hwellFormed (stops_of_ends Reader.ends_nil)
  rw [List.append_nil, ← htext, hscan] at hliteral
  cases hliteral
  cases hparts : Parts.ofFloat x with
  | nan => simp [storedDecimal?, hparts] at hstored
  | infinite sign => simp [storedDecimal?, hparts] at hstored
  | zero sign => exact reproduced_of_zero hparts
  | finite sign b =>
    rw [storedDecimal?, hparts] at hstored
    cases hstored
    have hb := canonical_of_ofFloat hparts
    have hrounds := rounds_shortest .toEven hb
    rw [← value_literal negative] at hrounds
    have hne : (storedNumeral negative (shortest .toEven b)).literal.significand ≠ 0 := by
      intro hzero
      rw [hzero] at hrounds
      exact absurd (Binary.pos_of_rounds hb.positive hrounds) (by simp)
    have hlimit := (magnitude_storedNumeral (significand_shortest_le .toEven hb) hpower).1
    generalize hS : (storedNumeral negative (shortest .toEven b)).literal.significand = S
      at hdigits hrounds hne hlimit
    have hlog : S.log2 < 64 := (Nat.log2_lt hne).2 hlimit
    have hcanonical := Binary.canonical_ofNat hne (by omega)
    have hexact := Binary.rounds_value hcanonical.positive
    have hleast : -52 ≤ (Binary.ofNat S).exponent := by
      simp only [Binary.ofNat]
      omega
    -- the first rounding is exact, so the second starts at the shortest decimal itself
    rw [← Binary.value_ofNat hdigits] at hrounds
    rw [Binary.value_ofNat hdigits] at hexact
    exact (reproduced_iff_of_rounds hparts hS rfl hpower hcanonical (Binary.full_ofNat hne).1
      hleast hexact hb hrounds).2 rfl

end Json

end DialogueScript
