import DialogueScript.Proofs.Json.Reproduction
/-!
# Whole numbers that come back changed

Every whole number below `2 ^ 53` is a double, and it is stored as its digits with `.0`
behind them. The reader takes all digits for one number, ten times as large, rounds that to
a double and divides by ten. Up to `2 ^ 54` ten times the number is a double itself. Above,
the first rounding moves it by up to eight, and the second does not always bring it back:
`reproduced_ofInt_iff` says for which numbers it does.
-/

namespace DialogueScript

namespace Json

open Decimal

variable {x : Float} {n : Nat} {negative : Bool}

/-! ## Whole numbers as doubles -/

theorem short_of_lt (hn : n < 2 ^ 53) : Short n := by
  by_cases hzero : n = 0
  · subst hzero
    decide
  · have hlog : n.log2 < 53 := (Nat.log2_lt hzero).2 hn
    rw [Short, Nat.sub_eq_zero_of_le (by omega), pow_zero, Nat.mod_one]

theorem ofNat_eq (hn : n < 2 ^ 53) : Float.ofNat n = roundNat n * powerOfTen 0 := by
  change Float.ofScientific n false 0 = _
  rw [Float.ofScientific, dif_pos ⟨hn, by decide⟩]
  exact congrArg (roundNat n * ·) rfl

/-- A whole number below `2 ^ 53` is a double. -/
theorem ofFloat_ofNat (hzero : n ≠ 0) (hn : n < 2 ^ 53) :
    Parts.ofFloat (Float.ofNat n) = .finite false (Binary.ofNat n) := by
  have hround := ofFloat_roundNat_short hzero (by omega) (short_of_lt hn)
  obtain ⟨hpower, hshort⟩ := ofFloat_powerOfTen (n := 0) (by decide)
  have hcanonical := canonical_of_ofFloat hround
  have hfull := (Binary.full_ofNat hzero).1
  rw [ofNat_eq hn]
  refine ofFloat_mul hround hpower ?_ hcanonical ?_
  · exact le_trans hfull (Nat.le_mul_of_pos_right _ (canonical_of_ofFloat hpower).positive)
  · rw [Binary.value_ofNat hshort, pow_zero, Nat.cast_one, mul_one]
    exact Binary.rounds_value hcanonical.positive

/-- So is a negative one, with the same parts but for its sign. -/
theorem exists_ofFloat_ofInt {z : Int} (hzero : z ≠ 0) (hz : z.natAbs < 2 ^ 53) :
    ∃ negative, Parts.ofFloat (Float.ofInt z) = .finite negative (Binary.ofNat z.natAbs) := by
  cases z with
  | ofNat n => exact ⟨false, ofFloat_ofNat (fun h => hzero (by rw [h]; rfl)) hz⟩
  | negSucc n => exact ⟨true, ofFloat_neg (ofFloat_ofNat (Nat.succ_ne_zero n) hz)⟩

/-! ## Their stored form -/

/-- The double of a whole number has places behind the point left or none at all. -/
theorem unit_ofNat_le (hzero : n ≠ 0) (hn : n < 2 ^ 53) : (Binary.ofNat n).unit ≤ 1 := by
  have hlog : n.log2 < 53 := (Nat.log2_lt hzero).2 hn
  simp only [Binary.unit, Binary.ofNat]
  exact zpow_le_one_of_nonpos₀ (by norm_num) (by omega)

/-- A whole number below `2 ^ 53` is stored as its digits and one zero behind the point. -/
theorem literal_ofNat (negative : Bool) (hzero : n ≠ 0) (hn : n < 2 ^ 53) :
    (storedNumeral negative (shortest .toEven (Binary.ofNat n))).literal.significand = 10 * n ∧
      (storedNumeral negative (shortest .toEven (Binary.ofNat n))).literal.power = -1 := by
  have hlog : n.log2 < 53 := (Nat.log2_lt hzero).2 hn
  have hcanonical := Binary.canonical_ofNat hzero (by omega)
  obtain ⟨hvalue, hscale⟩ := shortest_natural .toEven hcanonical
    (Binary.value_ofNat (short_of_lt hn)) (unit_ofNat_le hzero hn) (by omega)
  generalize shortest .toEven (Binary.ofNat n) = d at hvalue hscale ⊢
  obtain ⟨zeros, hzeros⟩ := Int.eq_ofNat_of_zero_le hscale
  have hnumber : d.significand * 10 ^ zeros = n := by
    rw [Scaled.value, hzeros, zpow_natCast] at hvalue
    exact_mod_cast hvalue
  rcases literal_storedNumeral negative d with ⟨hlong, -⟩ | ⟨zeros', hzeros', -, hdigits, hpower⟩
  · -- an exponent would take seventeen digits
    exfalso
    have hlong' := hlong hscale
    have hpos : 0 < d.significand := Nat.pos_of_ne_zero fun h => hzero (by rw [← hnumber, h, zero_mul])
    have hleast : 10 ^ ((Nat.toDigits 10 d.significand).length - 1) ≤ d.significand :=
      (Binary.digitCount_bounds hpos).1
    have hlt : 10 ^ ((Nat.toDigits 10 d.significand).length - 1 + zeros) < 10 ^ 16 := by
      calc 10 ^ ((Nat.toDigits 10 d.significand).length - 1 + zeros)
          ≤ d.significand * 10 ^ zeros := by
            rw [pow_add]
            exact Nat.mul_le_mul_right _ hleast
        _ = n := hnumber
        _ < 10 ^ 16 := by omega
    have := (Nat.pow_lt_pow_iff_right (by decide)).1 hlt
    omega
  · refine ⟨?_, hpower⟩
    obtain rfl : zeros' = zeros := by omega
    rw [hdigits, pow_succ, ← mul_assoc, hnumber, mul_comm]

/-! ## Two roundings -/

/-- The whole numbers below `2 ^ 53` that are not reproduced. Ten times such a number has
two, three or four bits too many, and is rounded so far off that the tenth of it lies nearer
to a neighbour: an odd number where doubles lie a quarter apart, twice an odd one where they
lie half apart, and three of eight where they lie one apart. -/
def Lossy (n : Nat) : Prop :=
  2 ^ 54 < 10 * n ∧ n < 2 ^ 51 ∧ n % 2 = 1 ∨
    2 ^ 55 < 10 * n ∧ n < 2 ^ 52 ∧ n % 4 = 2 ∨
    2 ^ 56 < 10 * n ∧ (n % 8 = 1 ∨ n % 8 = 4 ∨ n % 8 = 7)

instance (n : Nat) : Decidable (Lossy n) := inferInstanceAs (Decidable (_ ∨ _))

/-- The first rounding: a natural number with `j` bits too many. -/
theorem rounds_whole {M j t : Nat} (hM : 0 < M) (hstart : 2 ^ 52 * 2 ^ j ≤ t)
    (hlow : 2 * M * 2 ^ j ≤ 2 * t + 2 ^ j) (hhigh : 2 * t ≤ 2 * M * 2 ^ j + 2 ^ j)
    (hodd : M % 2 = 1 → 2 * M * 2 ^ j < 2 * t + 2 ^ j ∧ 2 * t < 2 * M * 2 ^ j + 2 ^ j) :
    (⟨M, j⟩ : Binary).Rounds t := by
  have hunit : (⟨M, j⟩ : Binary).unit = 2 ^ j := zpow_natCast 2 j
  have hpos : (0 : ℚ) < 2 ^ j := by positivity
  have hlow' : 2 * (M : ℚ) * 2 ^ j ≤ 2 * t + 2 ^ j := by exact_mod_cast hlow
  have hhigh' : 2 * (t : ℚ) ≤ 2 * M * 2 ^ j + 2 ^ j := by exact_mod_cast hhigh
  rw [Binary.rounds_iff hM, hunit, le_div_iff₀ hpos, div_le_iff₀ hpos, lt_div_iff₀ hpos,
    div_lt_iff₀ hpos]
  refine ⟨⟨?_, by simp only; linarith⟩, fun hM1 => ?_⟩
  · by_cases hM52 : M = 2 ^ 52
    · have hreach := mul_pos (⟨M, j⟩ : Binary).reach_pos hpos
      have hvalue : (M : ℚ) * 2 ^ j ≤ t := by
        rw [hM52]
        exact_mod_cast hstart
      rw [sub_mul]
      linarith
    · rw [Binary.reach_of_ne hM52]
      simp only
      linarith
  · obtain ⟨hlow, hhigh⟩ := hodd hM1
    have hlow' : 2 * (M : ℚ) * 2 ^ j < 2 * t + 2 ^ j := by exact_mod_cast hlow
    have hhigh' : 2 * (t : ℚ) < 2 * M * 2 ^ j + 2 ^ j := by exact_mod_cast hhigh
    have hM52 : M ≠ 2 ^ 52 := by
      simp only at hM1
      omega
    rw [Binary.reach_of_ne hM52]
    simp only
    constructor <;> linarith

/-- The second rounding: a tenth of it. -/
theorem rounds_tenth {M K i j : Nat} (hK : 0 < K) (hlow : 10 * K < 2 ^ (i + j) * M + 5)
    (hhigh : 2 ^ (i + j) * M < 10 * K + 5) (hstart : K = 2 ^ 52 → 10 * K ≤ 2 ^ (i + j) * M) :
    (⟨K, -(i : Int)⟩ : Binary).Rounds ((⟨M, j⟩ : Binary).value * 10 ^ (-1 : Int)) := by
  have hunit := (⟨K, -(i : Int)⟩ : Binary).unit_pos
  have hlow' : 10 * (K : ℚ) < 2 ^ (i + j) * M + 5 := by exact_mod_cast hlow
  have hhigh' : 2 ^ (i + j) * (M : ℚ) < 10 * K + 5 := by exact_mod_cast hhigh
  have hvalue : (⟨M, j⟩ : Binary).value * 10 ^ (-1 : Int) =
      2 ^ (i + j) * M / 10 * (⟨K, -(i : Int)⟩ : Binary).unit := by
    simp only [Binary.value, Binary.unit, zpow_neg, zpow_natCast, zpow_one, pow_add]
    field_simp
  rw [hvalue]
  apply Binary.rounds_of_between hK
  · refine mul_lt_mul_of_pos_right ?_ hunit
    by_cases hK52 : K = 2 ^ 52
    · have hreach := (⟨K, -(i : Int)⟩ : Binary).reach_pos
      have hstart' : 10 * (K : ℚ) ≤ 2 ^ (i + j) * M := by exact_mod_cast hstart hK52
      simp only
      linarith
    · rw [Binary.reach_of_ne hK52]
      simp only
      linarith
  · refine mul_lt_mul_of_pos_right ?_ hunit
    simp only
    linarith

/-- The nearest multiple of a natural number, and the even one if there are two. -/
theorem exists_nearest (t : Nat) {p : Nat} (hp : 0 < p) :
    ∃ M, 2 * M * p ≤ 2 * t + p ∧ 2 * t ≤ 2 * M * p + p ∧
      (M % 2 = 1 → 2 * M * p < 2 * t + p ∧ 2 * t < 2 * M * p + p) := by
  have hsplit := Nat.div_add_mod t p
  have hrest := Nat.mod_lt t hp
  have hdown : 2 * (t / p) * p = 2 * (p * (t / p)) := by ring
  have hup : 2 * (t / p + 1) * p = 2 * (p * (t / p)) + 2 * p := by ring
  by_cases hnear : 2 * (t % p) < p ∨ 2 * (t % p) = p ∧ t / p % 2 = 0
  · refine ⟨t / p, ?_⟩
    rw [hdown]
    omega
  · refine ⟨t / p + 1, ?_⟩
    rw [hup]
    omega

variable {M K i j : Nat}

/-- A whole number is reproduced if the two roundings end at its own mantissa. -/
theorem reproduced_iff_of_roundings (hx : Parts.ofFloat x = .finite negative (Binary.ofNat n))
    (hzero : n ≠ 0) (hi : n.log2 + i = 52) (hj : j ≤ 971) (hM : 2 ^ 52 ≤ M ∧ M < 2 ^ 53)
    (hfirst : (⟨M, j⟩ : Binary).Rounds (10 * n : Nat)) (hK : 2 ^ 52 ≤ K ∧ K < 2 ^ 53)
    (hsecond : (⟨K, -(i : Int)⟩ : Binary).Rounds ((⟨M, j⟩ : Binary).value * 10 ^ (-1 : Int))) :
    Reproduced x ↔ K = 2 ^ i * n := by
  have hn : n < 2 ^ 53 := (Nat.log2_lt hzero).1 (by omega)
  obtain ⟨hdigits, hpower⟩ := literal_ofNat negative hzero hn
  have hrounded : (⟨M, j⟩ : Binary).Canonical :=
    ⟨by simp only; omega, hM.2, by simp only; omega, by simp only; omega, .inl hM.1⟩
  have hread : (⟨K, -(i : Int)⟩ : Binary).Canonical :=
    ⟨by simp only; omega, hK.2, by simp only; omega, by simp only; omega, .inl hK.1⟩
  have hown : Binary.ofNat n = ⟨2 ^ i * n, -(i : Int)⟩ := by
    have hshift : 52 - n.log2 = i := by omega
    have hnone : n.log2 - 52 = 0 := by omega
    have hexponent : (n.log2 : Int) - 52 = -i := by omega
    simp only [Binary.ofNat, hshift, hnone, hexponent, pow_zero, Nat.div_one, mul_comm]
  rw [reproduced_iff_of_rounds hx hdigits hpower (by decide) hrounded hM.1 (by simp only; omega)
    hfirst hread hsecond, hown]
  simp

/-- The two roundings of a whole number whose double has `i` places behind the point and which
has `j` bits too many when it is ten times as large. What they give is a question of
arithmetic: of the multiple `M` of `2 ^ j` nearest to `10 * n`, and of the number `K` nearest
to a tenth of that. -/
theorem reproduced_iff_of_nearest {P : Prop}
    (hx : Parts.ofFloat x = .finite negative (Binary.ofNat n)) (hzero : n ≠ 0)
    (hi : n.log2 + i = 52) (hj : 0 < j ∧ j ≤ 971) (hlow : 2 ^ 52 * 2 ^ j ≤ 10 * n)
    (harithmetic : ∀ M K, 2 * M * 2 ^ j ≤ 2 * (10 * n) + 2 ^ j →
      2 * (10 * n) ≤ 2 * M * 2 ^ j + 2 ^ j →
      (M % 2 = 1 →
        2 * M * 2 ^ j < 2 * (10 * n) + 2 ^ j ∧ 2 * (10 * n) < 2 * M * 2 ^ j + 2 ^ j) →
      10 * K < 2 ^ (i + j) * M + 5 → 2 ^ (i + j) * M < 10 * K + 5 →
      (2 ^ 52 ≤ M ∧ M < 2 ^ 53) ∧ (2 ^ 52 ≤ K ∧ K < 2 ^ 53) ∧
        (K = 2 ^ 52 → 10 * K ≤ 2 ^ (i + j) * M) ∧ (K = 2 ^ i * n ↔ P)) :
    Reproduced x ↔ P := by
  obtain ⟨M, hdown, hup, hodd⟩ := exists_nearest (10 * n) (Nat.two_pow_pos j)
  obtain ⟨K, hKlow, hKhigh⟩ :
      ∃ K, 10 * K < 2 ^ (i + j) * M + 5 ∧ 2 ^ (i + j) * M < 10 * K + 5 := by
    -- an even number does not lie half-way between two multiples of ten
    have heven : 2 ^ (i + j) * M = 2 * (2 ^ (i + j - 1) * M) := by
      rw [← mul_assoc, ← pow_succ']
      congr 2
      omega
    exact ⟨(2 ^ (i + j) * M + 5) / 10, by omega, by omega⟩
  obtain ⟨hM, hK, hstart, hiff⟩ := harithmetic M K hdown hup hodd hKlow hKhigh
  rw [← hiff]
  exact reproduced_iff_of_roundings hx hzero hi hj.2 hM
    (rounds_whole (by omega) hlow hdown hup hodd) hK
    (rounds_tenth (by omega) hKlow hKhigh hstart)

/-- Ten times the number has two bits too many. -/
theorem reproduced_iff_two (hx : Parts.ofFloat x = .finite negative (Binary.ofNat n))
    (hlow : 2 ^ 54 < 10 * n) (hhigh : 10 * n < 2 ^ 55) : Reproduced x ↔ ¬ Lossy n := by
  have hzero : n ≠ 0 := by omega
  rcases Nat.lt_or_ge n (2 ^ 51) with hn | hn
  · have hlog : n.log2 = 50 := (Nat.log2_eq_iff hzero).2 ⟨by omega, by omega⟩
    refine reproduced_iff_of_nearest (i := 2) (j := 2) hx hzero (by omega) (by decide)
      (by omega) fun M K hdown hup hodd hKlow hKhigh => ?_
    rw [Lossy]
    omega
  · have hlog : n.log2 = 51 := (Nat.log2_eq_iff hzero).2 ⟨by omega, by omega⟩
    refine reproduced_iff_of_nearest (i := 1) (j := 2) hx hzero (by omega) (by decide)
      (by omega) fun M K hdown hup hodd hKlow hKhigh => ?_
    rw [Lossy]
    omega

/-- It has three. -/
theorem reproduced_iff_three (hx : Parts.ofFloat x = .finite negative (Binary.ofNat n))
    (hlow : 2 ^ 55 < 10 * n) (hhigh : 10 * n < 2 ^ 56) : Reproduced x ↔ ¬ Lossy n := by
  have hzero : n ≠ 0 := by omega
  rcases Nat.lt_or_ge n (2 ^ 52) with hn | hn
  · have hlog : n.log2 = 51 := (Nat.log2_eq_iff hzero).2 ⟨by omega, by omega⟩
    refine reproduced_iff_of_nearest (i := 1) (j := 3) hx hzero (by omega) (by decide)
      (by omega) fun M K hdown hup hodd hKlow hKhigh => ?_
    have hmod : n % 4 = 0 ∨ n % 4 = 1 ∨ n % 4 = 2 ∨ n % 4 = 3 := by omega
    rw [Lossy]
    rcases hmod with h | h | h | h <;> omega
  · have hlog : n.log2 = 52 := (Nat.log2_eq_iff hzero).2 ⟨by omega, by omega⟩
    refine reproduced_iff_of_nearest (i := 0) (j := 3) hx hzero (by omega) (by decide)
      (by omega) fun M K hdown hup hodd hKlow hKhigh => ?_
    rw [Lossy]
    omega

/-- It has four. -/
theorem reproduced_iff_four (hx : Parts.ofFloat x = .finite negative (Binary.ofNat n))
    (hlow : 2 ^ 56 < 10 * n) (hn : n < 2 ^ 53) : Reproduced x ↔ ¬ Lossy n := by
  have hzero : n ≠ 0 := by omega
  have hlog : n.log2 = 52 := (Nat.log2_eq_iff hzero).2 ⟨by omega, hn⟩
  refine reproduced_iff_of_nearest (i := 0) (j := 4) hx hzero (by omega) (by decide)
    (by omega) fun M K hdown hup hodd hKlow hKhigh => ?_
  have hmod : n % 8 = 0 ∨ n % 8 = 1 ∨ n % 8 = 2 ∨ n % 8 = 3 ∨ n % 8 = 4 ∨ n % 8 = 5 ∨
    n % 8 = 6 ∨ n % 8 = 7 := by omega
  rw [Lossy]
  -- the rest by eight decides where both roundings go, and linear arithmetic does what is left
  rcases hmod with h | h | h | h | h | h | h | h <;> omega

/-- It has none, and is divided exactly. -/
theorem reproduced_of_none (hx : Parts.ofFloat x = .finite negative (Binary.ofNat n))
    (hzero : n ≠ 0) (hn : 10 * n < 2 ^ 54) : Reproduced x := by
  obtain ⟨hdigits, hpower⟩ := literal_ofNat negative hzero (by omega)
  have hten : 10 * n ≠ 0 := by omega
  have hlog : (10 * n).log2 < 54 := (Nat.log2_lt hten).2 hn
  have hshort : Short (10 * n) := by
    have hbits : (10 * n).log2 - 52 = 0 ∨ (10 * n).log2 - 52 = 1 := by omega
    rw [Short]
    rcases hbits with hbits | hbits <;> rw [hbits] <;> omega
  have hcanonical := Binary.canonical_ofNat hten (by omega)
  have hexact := Binary.rounds_value hcanonical.positive
  have hown := canonical_of_ofFloat hx
  have hrounds := Binary.rounds_value hown.positive
  have hleast : -52 ≤ (Binary.ofNat (10 * n)).exponent := by
    simp only [Binary.ofNat]
    omega
  have htenth : (Binary.ofNat (10 * n)).value * 10 ^ (-1 : Int) = (Binary.ofNat n).value := by
    rw [Binary.value_ofNat hshort, Binary.value_ofNat (short_of_lt (by omega))]
    push_cast
    ring
  rw [Binary.value_ofNat hshort] at hexact
  rw [← htenth] at hrounds
  exact (reproduced_iff_of_rounds hx hdigits hpower (by decide) hcanonical
    (Binary.full_ofNat hten).1 hleast hexact hown hrounds).2 rfl

/-- **Which whole numbers below `2 ^ 53` are reproduced.** -/
theorem reproduced_ofInt_iff (z : Int) (hz : z.natAbs < 2 ^ 53) :
    Reproduced (Float.ofInt z) ↔ ¬ Lossy z.natAbs := by
  by_cases hzero : z = 0
  · subst hzero
    decide
  obtain ⟨negative, hx⟩ := exists_ofFloat_ofInt hzero hz
  have hne : z.natAbs ≠ 0 := Int.natAbs_ne_zero.2 hzero
  generalize z.natAbs = n at hx hz hne ⊢
  rcases Nat.lt_or_ge (10 * n) (2 ^ 54) with hn | hn
  · have hfine : ¬ Lossy n := by
      rw [Lossy]
      omega
    exact iff_of_true (reproduced_of_none hx hne hn) hfine
  rcases Nat.lt_or_ge (10 * n) (2 ^ 55) with hn' | hn'
  · exact reproduced_iff_two hx (by omega) hn'
  rcases Nat.lt_or_ge (10 * n) (2 ^ 56) with hn'' | hn''
  · exact reproduced_iff_three hx (by omega) hn''
  · exact reproduced_iff_four hx (by omega) hz

end Json

end DialogueScript
