import DialogueScript.Proofs.Decimal.Doubles
import DialogueScript.Proofs.Decimal.Interval
import Mathlib.Tactic.NormNum
/-!
# The shortest decimal is found

The search tries one digit more at a time, up to seventeen. On the grid of seventeen
digits the nearer of the two points next to a double always lies in its rounding
interval, so the search ends with a decimal that rounds back (`rounds_shortest`), of at
most so many digits (`significand_shortest_le`). For a natural number below `2 ^ 53` it
ends at the number itself (`shortest_natural`): no other lies so near.
-/

namespace DialogueScript

namespace Decimal

variable {b : Binary} {d : Scaled} {tie : Tie} {k : Int} {length : Nat}

namespace Binary

/-! ## The leading digit -/

theorem digitCount_bounds {n : Nat} (hn : 0 < n) :
    10 ^ (digitCount n - 1) ≤ n ∧ n < 10 ^ digitCount n := by
  have hpos : 0 < digitCount n := Nat.length_toDigits_pos
  have hlt : n < 10 ^ digitCount n := (Nat.length_toDigits_le_iff (by decide) hpos).1 (le_refl _)
  refine ⟨?_, hlt⟩
  by_contra hless
  have hsmall : n < 10 ^ (digitCount n - 1) := by omega
  by_cases hone : digitCount n - 1 = 0
  · rw [hone] at hsmall
    omega
  · have hshort := (Nat.length_toDigits_le_iff (by decide) (Nat.pos_of_ne_zero hone)).2 hsmall
    change digitCount n ≤ digitCount n - 1 at hshort
    omega

/-- A double as a quotient of natural numbers. -/
theorem value_eq_div (b : Binary) :
    b.value = ((b.mantissa * 2 ^ b.exponent.toNat : Nat) : ℚ) / (2 ^ (-b.exponent).toNat : Nat) := by
  have hpow := pow_toNat_eq (a := 2) (by norm_num) b.exponent
  rw [value, unit]
  push_cast
  rw [hpow]
  field_simp

/-- The leading digit of a quotient that is at least one. -/
theorem leading_of_le {n d : Nat} (hd : 0 < d) (hle : d ≤ n) :
    (10 : ℚ) ^ ((digitCount (n / d) : Int) - 1) ≤ (n : ℚ) / d ∧
      (n : ℚ) / d < 10 ^ (digitCount (n / d) : Int) := by
  have hd' : (0 : ℚ) < d := by exact_mod_cast hd
  obtain ⟨hleast, hmost⟩ := digitCount_bounds (Nat.div_pos hle hd)
  have hpos : 0 < digitCount (n / d) := Nat.length_toDigits_pos
  constructor
  · have hexp : (digitCount (n / d) : Int) - 1 = ((digitCount (n / d) - 1 : Nat) : Int) := by omega
    rw [hexp, zpow_natCast, le_div_iff₀ hd']
    exact_mod_cast (Nat.le_div_iff_mul_le hd).1 hleast
  · rw [zpow_natCast, div_lt_iff₀ hd']
    exact_mod_cast (Nat.div_lt_iff_lt_mul hd).1 hmost

/-- The power of ten of the leading digit is what it is called. -/
theorem magnitude_bounds (hb : 0 < b.mantissa) :
    (10 : ℚ) ^ b.magnitude ≤ b.value ∧ b.value < 10 ^ (b.magnitude + 1) := by
  rw [value_eq_div]
  simp only [magnitude, Nat.pow_eq]
  have hn : 0 < b.mantissa * 2 ^ b.exponent.toNat := Nat.mul_pos hb (Nat.two_pow_pos _)
  have hd : 0 < 2 ^ (-b.exponent).toNat := Nat.two_pow_pos _
  generalize b.mantissa * 2 ^ b.exponent.toNat = n at hn ⊢
  generalize 2 ^ (-b.exponent).toNat = d at hd ⊢
  have hn' : (0 : ℚ) < n := by exact_mod_cast hn
  have hd' : (0 : ℚ) < d := by exact_mod_cast hd
  split
  · rename_i hle
    have hleading := leading_of_le hd hle
    rwa [sub_add_cancel]
  · rename_i hlt
    -- below one, the leading digit is found in the inverse
    obtain ⟨hleast, hmost⟩ := leading_of_le (n := d) hn (by omega)
    have hinverse : (n : ℚ) / d = ((d : ℚ) / n)⁻¹ := (inv_div _ _).symm
    have hpos : 0 < digitCount (d / n) := Nat.length_toDigits_pos
    generalize digitCount (d / n) = k at hleast hmost hpos ⊢
    split
    · rename_i hexact
      have hvalue : (n : ℚ) / d = 10 ^ (1 - (k : Int)) := by
        have hexp : (1 : Int) - k = -((k - 1 : Nat) : Int) := by omega
        rw [← hexact, hexp, zpow_neg, zpow_natCast]
        push_cast
        field_simp
      rw [hvalue]
      exact ⟨le_refl _, zpow_lt_zpow_right₀ (by norm_num) (by omega)⟩
    · rename_i hexact
      rw [hinverse]
      constructor
      · rw [zpow_neg]
        exact inv_anti₀ (by positivity) hmost.le
      · have hstrict : (10 : ℚ) ^ ((k : Int) - 1) < d / n := by
          refine lt_of_le_of_ne hleast fun heq => hexact ?_
          have hexp : (k : Int) - 1 = ((k - 1 : Nat) : Int) := by omega
          rw [hexp, zpow_natCast, eq_div_iff hn'.ne', mul_comm] at heq
          exact_mod_cast heq
        have hexp : -(k : Int) + 1 = -((k : Int) - 1) := by ring
        rw [hexp, zpow_neg]
        exact inv_strictAnti₀ (by positivity) hstrict

/-! ## The grid of seventeen digits -/

/-- A double lies between the two points of a grid next to it. -/
theorem below_bounds (b : Binary) (k : Int) :
    (b.below k : ℚ) * 10 ^ k ≤ b.value ∧ b.value < (b.below k + 1) * 10 ^ k := by
  have hgrain := b.grain_pos k
  have hexact : ((4 * b.mantissa * (b.perStep k).1 : Nat) : ℚ) = b.value * b.grain k := by
    rw [cast_quarters, value]
    push_cast
    ring
  have hpos := b.perStep_pos k
  constructor
  · have hle : b.below k * (b.perStep k).2 ≤ 4 * b.mantissa * (b.perStep k).1 :=
      Nat.div_mul_le_self _ _
    rw [← @Nat.cast_le ℚ, cast_steps, hexact] at hle
    exact le_of_mul_le_mul_right hle hgrain
  · have hlt : 4 * b.mantissa * (b.perStep k).1 < (b.below k + 1) * (b.perStep k).2 :=
      (Nat.div_lt_iff_lt_mul hpos).1 (Nat.lt_succ_self _)
    rw [← @Nat.cast_lt ℚ, cast_steps, hexact] at hlt
    push_cast at hlt
    exact lt_of_mul_lt_mul_right hlt hgrain.le

/-- A point is found on a grid if one of the two next to the double lies in the interval. -/
theorem isSome_onGrid? (tie : Tie)
    (h : b.Rounds (b.below (b.gridScale length) * 10 ^ b.gridScale length) ∨
      b.Rounds ((b.below (b.gridScale length) + 1 : Nat) * 10 ^ b.gridScale length)) :
    (b.onGrid? tie length).isSome = true := by
  obtain ⟨goesUp, hgrid⟩ := b.exists_onGrid?_eq tie length
  rw [← contains_iff, ← contains_iff] at h
  rw [hgrid]
  dsimp only
  split
  · rfl
  · rename_i hdown
    rcases h with h | h
    · cases hup : b.contains (b.gridScale length) (b.below (b.gridScale length) + 1)
      · simp [h, hup] at hdown
      · rfl
    · rw [if_pos h]
      rfl

/-- **Seventeen digits suffice.** -/
theorem isSome_onGrid?_seventeen (tie : Tie) (hb : b.Canonical) :
    (b.onGrid? tie 17).isSome = true := by
  obtain ⟨hdown, hup⟩ := b.below_bounds (b.gridScale 17)
  have hmagnitude := (magnitude_bounds hb.positive).1
  have hscale : b.magnitude = b.gridScale 17 + (16 : Nat) := by
    simp only [gridScale]
    omega
  rw [hscale, zpow_add₀ (by norm_num), zpow_natCast] at hmagnitude
  have hunit := b.unit_pos
  have hshort : (b.mantissa : ℚ) < 2 ^ 53 := by exact_mod_cast hb.short
  apply isSome_onGrid?
  push_cast
  -- only the step and the two points next to the double matter from here on
  generalize (10 : ℚ) ^ b.gridScale 17 = step at hdown hup hmagnitude ⊢
  generalize (b.below (b.gridScale 17) : ℚ) = count at hdown hup ⊢
  rw [value] at hdown hup hmagnitude
  cases hstart : b.isRangeStart with
  | true =>
    -- the interval is narrower below, but a step is small against a power of two
    have hmantissa : (b.mantissa : ℚ) = 2 ^ 52 := by
      have := (Bool.and_eq_true_iff.1 hstart).1
      exact_mod_cast beq_iff_eq.1 this
    have hreach : b.reach = 1 / 4 := by simp [reach, hstart]
    right
    refine rounds_of_between hb.positive (by rw [hreach]; nlinarith) ?_
    rw [hmantissa] at hmagnitude hup hdown ⊢
    nlinarith
  | false =>
    have hreach : b.reach = 1 / 2 := by simp [reach, hstart]
    have hstep : step < b.unit := by nlinarith
    by_cases hnear : 2 * (b.mantissa * b.unit - count * step) ≤ step
    · left
      exact rounds_of_between hb.positive (by rw [hreach]; nlinarith) (by nlinarith)
    · right
      exact rounds_of_between hb.positive (by rw [hreach]; nlinarith) (by nlinarith)

/-- A decimal found with so many digits has no more of them. -/
theorem significand_le_of_onGrid? (hb : 0 < b.mantissa) (h : b.onGrid? tie length = some d) :
    d.significand ≤ 10 ^ length := by
  obtain ⟨hscale, hle, -⟩ := onGrid?_cases h
  have hdown := (b.below_bounds d.scale).1
  have hmagnitude := (magnitude_bounds hb).2
  have hexp : b.magnitude + 1 = (length : Int) + d.scale := by
    rw [hscale, gridScale]
    ring
  rw [hexp, zpow_add₀ (by norm_num), zpow_natCast] at hmagnitude
  have hlt : (b.below d.scale : ℚ) < 10 ^ length :=
    lt_of_mul_lt_mul_right (lt_of_le_of_lt hdown hmagnitude) (zpow_pos (by norm_num) _).le
  have hlt' : b.below d.scale < 10 ^ length := by exact_mod_cast hlt
  omega

end Binary

/-! ## The search -/

/-- A search through numbers ends at the first that gives something. -/
theorem exists_first {α : Type} {f : Nat → Option α} {a : α} {n : Nat}
    (h : (List.range n).findSome? f = some a) : ∃ i < n, f i = some a ∧ ∀ j < i, f j = none := by
  induction n with
  | zero => cases h
  | succ n ih =>
    rw [List.range_succ, List.findSome?_append] at h
    cases hrest : (List.range n).findSome? f with
    | some c =>
      rw [hrest, Option.some_or] at h
      obtain ⟨i, hi, hfound⟩ := ih (by rw [hrest, h])
      exact ⟨i, by omega, hfound⟩
    | none =>
      rw [hrest, Option.none_or] at h
      refine ⟨n, by omega, by simpa using h, fun j hj => ?_⟩
      exact List.findSome?_eq_none_iff.1 hrest j (List.mem_range.2 hj)

/-- The shortest decimal is one found on a grid, its zeros dropped, and none is found on a
grid with fewer digits. -/
theorem exists_shortest_eq (tie : Tie) (hb : b.Canonical) :
    ∃ i < 17, ∃ d, shortest tie b = d.trim ∧ b.onGrid? tie (i + 1) = some d ∧
      ∀ j < i, b.onGrid? tie (j + 1) = none := by
  cases h : (List.range 17).findSome? fun i => b.onGrid? tie (i + 1) with
  | none =>
    have hnone := List.findSome?_eq_none_iff.1 h 16 (by decide)
    have hsome := Binary.isSome_onGrid?_seventeen tie hb
    rw [hnone] at hsome
    cases hsome
  | some d =>
    obtain ⟨i, hi, hfound, hfirst⟩ := exists_first h
    exact ⟨i, hi, d, by rw [shortest, h]; rfl, hfound, hfirst⟩

/-- **The shortest decimal of a double rounds back to it.** -/
theorem rounds_shortest (tie : Tie) (hb : b.Canonical) : b.Rounds (shortest tie b).value := by
  obtain ⟨i, -, d, hshortest, hfound, -⟩ := exists_shortest_eq tie hb
  rw [hshortest, Scaled.value_trim]
  exact (Binary.onGrid?_cases hfound).2.2

theorem significand_trim_go_le (fuel : Nat) (d : Scaled) :
    (Scaled.trim.go fuel d).significand ≤ d.significand ∧
      d.scale ≤ (Scaled.trim.go fuel d).scale := by
  induction fuel generalizing d with
  | zero => exact ⟨le_refl _, le_refl _⟩
  | succ fuel ih =>
    rw [Scaled.trim.go]
    split
    · obtain ⟨hsignificand, hscale⟩ := ih ⟨d.significand / 10, d.scale + 1⟩
      have hnext : d.scale ≤ d.scale + 1 := by omega
      exact ⟨hsignificand.trans (Nat.div_le_self _ _), hnext.trans hscale⟩
    · exact ⟨le_refl _, le_refl _⟩

/-- **The shortest decimal of a double has at most seventeen digits**, or is a one with zeros
behind it. -/
theorem significand_shortest_le (tie : Tie) (hb : b.Canonical) :
    (shortest tie b).significand ≤ 10 ^ 17 := by
  obtain ⟨i, hi, d, hshortest, hfound, -⟩ := exists_shortest_eq tie hb
  rw [hshortest]
  calc d.trim.significand ≤ d.significand := (significand_trim_go_le _ d).1
    _ ≤ 10 ^ (i + 1) := Binary.significand_le_of_onGrid? hb.positive hfound
    _ ≤ 10 ^ 17 := Nat.pow_le_pow_right (by decide) (by omega)

/-! ## Natural numbers -/

variable {n : Nat}

/-- Where doubles lie at most one apart, no other natural number is in the rounding interval
of one. -/
theorem eq_of_rounds (hb : 0 < b.mantissa) (hn : b.value = n) (hunit : b.unit ≤ 1) {m : Nat}
    (hm : b.Rounds m) : m = n := by
  obtain ⟨⟨hlow, hhigh⟩, -⟩ := (Binary.rounds_iff hb).1 hm
  have hreach := b.reach_le
  have hpos := b.unit_pos
  rw [le_div_iff₀ hpos] at hlow
  rw [div_le_iff₀ hpos] at hhigh
  rw [Binary.value] at hn
  have hless : (m : ℚ) < n + 1 := by nlinarith
  have hmore : (n : ℚ) < m + 1 := by nlinarith
  have hless' : m < n + 1 := by exact_mod_cast hless
  have hmore' : n < m + 1 := by exact_mod_cast hmore
  omega

/-- A natural number is found on the grid of its own digits. -/
theorem isSome_onGrid?_natural (tie : Tie) (hb : 0 < b.mantissa) (hn : b.value = n)
    (hlength : b.gridScale length = 0) : (b.onGrid? tie length).isSome = true := by
  obtain ⟨hdown, hup⟩ := b.below_bounds 0
  rw [zpow_zero, mul_one, hn] at hdown hup
  have hdown' : b.below 0 ≤ n := by exact_mod_cast hdown
  have hup' : n < b.below 0 + 1 := by exact_mod_cast hup
  have hbelow : b.below 0 = n := by omega
  apply Binary.isSome_onGrid?
  left
  rw [hlength, hbelow, zpow_zero, mul_one, ← hn]
  exact Binary.rounds_value hb

/-- **The shortest decimal of a natural number is the number**, where doubles lie at most
one apart. -/
theorem shortest_natural (tie : Tie) (hb : b.Canonical) (hn : b.value = n)
    (hunit : b.unit ≤ 1) (hlimit : n < 10 ^ 16) :
    (shortest tie b).value = n ∧ 0 ≤ (shortest tie b).scale := by
  obtain ⟨hleast, hmost⟩ := Binary.magnitude_bounds hb.positive
  rw [hn] at hleast hmost
  have hone : 1 ≤ n := by
    have hpos : 0 < b.value := mul_pos (by exact_mod_cast hb.positive) b.unit_pos
    rw [hn] at hpos
    exact_mod_cast hpos
  have hmagnitude : 0 ≤ b.magnitude ∧ b.magnitude < 16 := by
    have hone' : (10 : ℚ) ^ (0 : Int) ≤ n := by
      rw [zpow_zero]
      exact_mod_cast hone
    have hlimit' : (n : ℚ) < 10 ^ (16 : Int) := by exact_mod_cast hlimit
    have hfirst := (zpow_lt_zpow_iff_right₀ (by norm_num)).1 (lt_of_le_of_lt hone' hmost)
    have hsecond := (zpow_lt_zpow_iff_right₀ (by norm_num)).1 (lt_of_le_of_lt hleast hlimit')
    omega
  obtain ⟨i, -, d, hshortest, hfound, hfirst⟩ := exists_shortest_eq tie hb
  have hown : b.gridScale (b.magnitude.toNat + 1) = 0 := by
    simp only [Binary.gridScale]
    omega
  -- the search has ended when it comes to the digits of the number, so its grid is of whole ones
  have hi : i ≤ b.magnitude.toNat := by
    by_contra hlater
    have hsome := isSome_onGrid?_natural tie hb.positive hn hown
    rw [hfirst _ (by omega)] at hsome
    cases hsome
  obtain ⟨hscale, -, hrounds⟩ := Binary.onGrid?_cases hfound
  have hnonneg : 0 ≤ d.scale := by
    rw [hscale, Binary.gridScale]
    omega
  have hvalue : d.value = n := by
    have hnatural : d.value = (d.significand * 10 ^ d.scale.toNat : Nat) := by
      rw [Scaled.value]
      push_cast
      rw [← zpow_natCast, Int.toNat_of_nonneg hnonneg]
    rw [hnatural] at hrounds ⊢
    rw [eq_of_rounds hb.positive hn hunit hrounds]
  rw [hshortest, Scaled.value_trim]
  exact ⟨hvalue, hnonneg.trans (significand_trim_go_le _ d).2⟩

end Decimal

end DialogueScript
