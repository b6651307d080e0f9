import DialogueScript.Decimal.Shortest
import Mathlib.Algebra.Order.Field.Power
import Mathlib.Data.Rat.Cast.Order
import Mathlib.Tactic.FieldSimp
import Mathlib.Tactic.Linarith
import Mathlib.Tactic.Positivity
import Mathlib.Tactic.Ring
/-!
# The rounding interval of a double

A double is the nearest one for every number of its rounding interval. The
search for its shortest decimal works with natural numbers over common
denominators; here its tests are read as statements about rational numbers
(`contains_iff`), and every decimal it gives lies in the interval
(`onGrid?_cases`), also when its zeros are dropped (`value_trim`).
-/

namespace DialogueScript

namespace Decimal

variable {b : Binary} {d : Scaled} {tie : Tie} {k : Int} {count length : Nat} {v : ℚ}

/-! ## Values -/

/-- The number a decimal stands for. -/
def Scaled.value (d : Scaled) : ℚ := d.significand * 10 ^ d.scale

namespace Binary

/-- The last place of a double. -/
def unit (b : Binary) : ℚ := 2 ^ b.exponent

/-- The number a double stands for. -/
def value (b : Binary) : ℚ := b.mantissa * b.unit

theorem unit_pos (b : Binary) : 0 < b.unit := zpow_pos (by norm_num) _

/-- The numbers a double is the nearest one for. The ends of the interval
belong to it when the mantissa is even. -/
def Rounds (b : Binary) (v : ℚ) : Prop :=
  if b.mantissa % 2 = 0 then b.ends.1 * (b.unit / 4) ≤ v ∧ v ≤ b.ends.2 * (b.unit / 4)
  else b.ends.1 * (b.unit / 4) < v ∧ v < b.ends.2 * (b.unit / 4)

/-! ## The interval over a common denominator -/

/-- A power with an integer exponent, as a quotient of two with natural ones. -/
theorem pow_toNat_eq {a : ℚ} (ha : a ≠ 0) (z : Int) :
    a ^ z.toNat = a ^ z * a ^ (-z).toNat := by
  rcases Int.eq_nat_or_neg z with ⟨n, rfl | rfl⟩
  · simp
  · simp [ha]

theorem perStep_pos (b : Binary) (k : Int) : 0 < (b.perStep k).2 :=
  Nat.mul_pos (Nat.pow_pos (by decide)) (Nat.pow_pos (by decide))

/-- The two numbers of `perStep` are as a quarter of the last place to a step. -/
theorem perStep_ratio (b : Binary) (k : Int) :
    ((b.perStep k).1 : ℚ) * 10 ^ k = (b.perStep k).2 * (b.unit / 4) := by
  have htwo := pow_toNat_eq (a := 2) (by norm_num) (b.exponent - 2)
  have hten := pow_toNat_eq (a := 10) (by norm_num) k
  have hunit : b.unit / 4 = 2 ^ (b.exponent - 2) := by
    rw [unit, zpow_sub₀ (by norm_num)]
    norm_num
  rw [neg_sub] at htwo
  simp only [perStep, quarter, Nat.cast_mul, Nat.pow_eq, Nat.cast_pow, Nat.cast_ofNat]
  rw [hunit, htwo, hten]
  ring

/-- By what a number is multiplied when it is put over the common denominator. -/
def grain (b : Binary) (k : Int) : ℚ := (b.perStep k).2 / 10 ^ k

theorem grain_pos (b : Binary) (k : Int) : 0 < b.grain k :=
  div_pos (by exact_mod_cast b.perStep_pos k) (zpow_pos (by norm_num) _)

theorem cast_quarters (b : Binary) (k : Int) (q : Nat) :
    ((q * (b.perStep k).1 : Nat) : ℚ) = q * (b.unit / 4) * b.grain k := by
  have hten : (10 : ℚ) ^ k ≠ 0 := zpow_ne_zero _ (by norm_num)
  have hratio := b.perStep_ratio k
  rw [Nat.cast_mul, grain, eq_div_of_mul_eq hten hratio]
  ring

theorem cast_steps (b : Binary) (k : Int) (count : Nat) :
    ((count * (b.perStep k).2 : Nat) : ℚ) = count * 10 ^ k * b.grain k := by
  have hten : (10 : ℚ) ^ k ≠ 0 := zpow_ne_zero _ (by norm_num)
  rw [Nat.cast_mul, grain]
  field_simp

/-- Quarters of the last place against steps, over the common denominator. -/
theorem quarters_le_steps_iff (b : Binary) (k : Int) (q count : Nat) :
    q * (b.perStep k).1 ≤ count * (b.perStep k).2 ↔ (q : ℚ) * (b.unit / 4) ≤ count * 10 ^ k := by
  rw [← @Nat.cast_le ℚ, cast_quarters, cast_steps, mul_le_mul_iff_left₀ (b.grain_pos k)]

theorem steps_le_quarters_iff (b : Binary) (k : Int) (q count : Nat) :
    count * (b.perStep k).2 ≤ q * (b.perStep k).1 ↔ (count : ℚ) * 10 ^ k ≤ q * (b.unit / 4) := by
  rw [← @Nat.cast_le ℚ, cast_quarters, cast_steps, mul_le_mul_iff_left₀ (b.grain_pos k)]

/-- **The test for the rounding interval**, as a statement about numbers. -/
theorem contains_iff (b : Binary) (k : Int) (count : Nat) :
    b.contains k count = true ↔ b.Rounds (count * 10 ^ k) := by
  -- both bounds are compared over the common denominator, and only their strictness differs
  change (if b.mantissa % 2 = 0 then
      (decide (b.ends.1 * (b.perStep k).1 ≤ count * (b.perStep k).2) &&
        decide (count * (b.perStep k).2 ≤ b.ends.2 * (b.perStep k).1))
    else
      (decide (b.ends.1 * (b.perStep k).1 < count * (b.perStep k).2) &&
        decide (count * (b.perStep k).2 < b.ends.2 * (b.perStep k).1))) = true ↔ _
  rw [Rounds]
  split
  · rw [Bool.and_eq_true, decide_eq_true_eq, decide_eq_true_eq, quarters_le_steps_iff,
      steps_le_quarters_iff]
  · rw [Bool.and_eq_true, decide_eq_true_eq, decide_eq_true_eq, ← not_le, ← not_le,
      steps_le_quarters_iff, quarters_le_steps_iff, not_le, not_le]

/-! ## The interval in the last place -/

/-- How far the rounding interval reaches below a double, in its last place. -/
def reach (b : Binary) : ℚ := if b.isRangeStart then 1 / 4 else 1 / 2

theorem reach_le (b : Binary) : b.reach ≤ 1 / 2 := by
  rw [reach]
  split <;> norm_num

theorem reach_pos (b : Binary) : 0 < b.reach := by
  rw [reach]
  split <;> norm_num

theorem reach_of_ne (h : b.mantissa ≠ 2 ^ 52) : b.reach = 1 / 2 := by
  have hstart : b.isRangeStart = false := by
    rw [isRangeStart, Nat.pow_eq, beq_false_of_ne h, Bool.false_and]
  rw [reach, hstart]
  rfl

theorem lower_end (hb : 0 < b.mantissa) :
    (b.ends.1 : ℚ) * (b.unit / 4) = (b.mantissa - b.reach) * b.unit := by
  simp only [ends, reach]
  split <;> rw [Nat.cast_sub (by omega)] <;> push_cast <;> ring

theorem upper_end (b : Binary) :
    (b.ends.2 : ℚ) * (b.unit / 4) = (b.mantissa + 1 / 2) * b.unit := by
  simp only [ends]
  push_cast
  ring

/-- The rounding interval, counted in the last place of the double. -/
theorem rounds_iff (hb : 0 < b.mantissa) :
    b.Rounds v ↔
      ((b.mantissa : ℚ) - b.reach ≤ v / b.unit ∧ v / b.unit ≤ b.mantissa + 1 / 2) ∧
      (b.mantissa % 2 = 1 →
        (b.mantissa : ℚ) - b.reach < v / b.unit ∧ v / b.unit < b.mantissa + 1 / 2) := by
  have hunit := b.unit_pos
  rw [Rounds, lower_end hb, upper_end, le_div_iff₀ hunit, div_le_iff₀ hunit, lt_div_iff₀ hunit,
    div_lt_iff₀ hunit]
  split
  · rename_i heven
    exact ⟨fun h => ⟨h, fun hodd => by omega⟩, fun h => h.1⟩
  · rename_i hodd
    exact ⟨fun h => ⟨⟨h.1.le, h.2.le⟩, fun _ => h⟩, fun h => h.2 (by omega)⟩

/-- What lies between the ends belongs to the interval, whatever the mantissa. -/
theorem rounds_of_between (hb : 0 < b.mantissa) (hlow : (b.mantissa - b.reach) * b.unit < v)
    (hhigh : v < (b.mantissa + 1 / 2) * b.unit) : b.Rounds v := by
  rw [← lt_div_iff₀ b.unit_pos] at hlow
  rw [← div_lt_iff₀ b.unit_pos] at hhigh
  exact (rounds_iff hb).2 ⟨⟨hlow.le, hhigh.le⟩, fun _ => ⟨hlow, hhigh⟩⟩

/-- A double is the nearest one for itself. -/
theorem rounds_value (hb : 0 < b.mantissa) : b.Rounds b.value := by
  have hreach := b.reach_pos
  have hunit := b.unit_pos
  apply rounds_of_between hb <;> rw [value] <;> nlinarith

/-! ## What the search gives -/

/-- A double with something in its mantissa is not the nearest one for zero. -/
theorem pos_of_rounds (hb : 0 < b.mantissa) (h : b.Rounds v) : 0 < v := by
  have hlow := ((rounds_iff hb).1 h).1.1
  have hone : (1 : ℚ) ≤ b.mantissa := by exact_mod_cast hb
  have hreach := b.reach_le
  exact (div_pos_iff_of_pos_right b.unit_pos).1 (by linarith)

/-- The power of ten that the steps of the grid with so many digits count. -/
def gridScale (b : Binary) (length : Nat) : Int := b.magnitude - (length : Int) + 1

/-- The last point of a grid that does not lie above a double. -/
def below (b : Binary) (k : Int) : Nat := 4 * b.mantissa * (b.perStep k).1 / (b.perStep k).2

/-- One of the two points next to the double is taken, as far as they lie in the rounding
interval; which of two is nearer is left open. -/
theorem exists_onGrid?_eq (b : Binary) (tie : Tie) (length : Nat) :
    ∃ goesUp : Bool, b.onGrid? tie length =
      let k := b.gridScale length
      if b.contains k (b.below k) && (!b.contains k (b.below k + 1) || !goesUp) then
        some ⟨b.below k, k⟩
      else if b.contains k (b.below k + 1) then some ⟨b.below k + 1, k⟩
      else none :=
  ⟨_, rfl⟩

/-- What is found on a grid is one of the two points, and lies in the rounding interval. -/
theorem onGrid?_cases (h : b.onGrid? tie length = some d) :
    d.scale = b.gridScale length ∧ d.significand ≤ b.below d.scale + 1 ∧ b.Rounds d.value := by
  obtain ⟨goesUp, hgrid⟩ := b.exists_onGrid?_eq tie length
  rw [hgrid] at h
  dsimp only at h
  split at h
  · rename_i hfits
    cases h
    exact ⟨rfl, Nat.le_succ _, (contains_iff ..).1 (Bool.and_eq_true_iff.1 hfits).1⟩
  · split at h
    · rename_i hfits
      cases h
      exact ⟨rfl, le_refl _, (contains_iff ..).1 hfits⟩
    · cases h

end Binary

/-! ## Zeros behind a decimal -/

namespace Scaled

theorem value_trim_go (fuel : Nat) (d : Scaled) : (trim.go fuel d).value = d.value := by
  induction fuel generalizing d with
  | zero => rfl
  | succ fuel ih =>
    rw [trim.go]
    split
    · rename_i hten
      have hdiv : (d.significand : ℚ) = ((d.significand / 10 : Nat) : ℚ) * 10 := by
        exact_mod_cast (Nat.div_mul_cancel (Nat.dvd_of_mod_eq_zero hten.2)).symm
      rw [ih, value, value, hdiv, zpow_add₀ (by norm_num), zpow_one]
      ring
    · rfl

/-- A decimal keeps its value when zeros are dropped. -/
theorem value_trim (d : Scaled) : d.trim.value = d.value := value_trim_go _ d

end Scaled

end Decimal

end DialogueScript
