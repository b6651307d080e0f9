import DialogueScript.Proofs.Decimal.Doubles
import DialogueScript.Proofs.Decimal.Interval
import DialogueScript.Json.Number
/-!
# Doubles are rounded to the nearest

The operations on doubles are exact up to a last step, in which a mantissa with too many
bits is cut to fifty-three. `Represents` says what is known of a number when some of its
places have been cut off; a cut keeps it (`Represents.shiftRight`), and it is enough to
find the nearest mantissa (`Represents.nearest`). So a number is rounded to the double
whose rounding interval it lies in (`roundWithAccuracy_eq`), and from this follows what
rounding a natural number, multiplication and division give: the nearest double of the
exact result, wherever that lies in a known rounding interval.
-/

namespace DialogueScript

namespace Decimal

open Float.Model Float.Model.UnpackedFloat

variable {em : ExtendedMantissa} {w v : ℚ} {b : Binary} {r s : Nat}

/-! ## Bits that are cut off -/

/-- What a mantissa with its two residual bits says about a number, counted in its last
place: half a place or more lies behind it if the first is set, more than that or more than
nothing if the second is. -/
def Represents : ExtendedMantissa → ℚ → Prop
  | ⟨m, false, false⟩, w => w = m
  | ⟨m, false, true⟩, w => (m : ℚ) < w ∧ w < m + 1 / 2
  | ⟨m, true, false⟩, w => w = m + 1 / 2
  | ⟨m, true, true⟩, w => (m : ℚ) + 1 / 2 < w ∧ w < m + 1

/-- A natural number is the nearest one to a number, and even if another is as near. -/
structure Nearest (r : Nat) (w : ℚ) : Prop where
  low : (r : ℚ) - 1 / 2 ≤ w
  high : w ≤ r + 1 / 2
  strict : r % 2 = 1 → (r : ℚ) - 1 / 2 < w ∧ w < r + 1 / 2

/-- The mantissa is what is left when the places behind it are cut off. -/
theorem Represents.bounds (h : Represents em w) : (em.mantissa : ℚ) ≤ w ∧ w < em.mantissa + 1 := by
  obtain ⟨m, round, sticky⟩ := em
  cases round <;> cases sticky <;> simp only [Represents] at h ⊢ <;> constructor <;> linarith

theorem shiftRightOne_even (k : Nat) (round sticky : Bool) :
    ExtendedMantissa.shiftRightOne ⟨2 * k, round, sticky⟩ = ⟨k, false, round || sticky⟩ := by
  simp [ExtendedMantissa.shiftRightOne]

theorem shiftRightOne_odd (k : Nat) (round sticky : Bool) :
    ExtendedMantissa.shiftRightOne ⟨2 * k + 1, round, sticky⟩ = ⟨k, true, round || sticky⟩ := by
  have hdiv : (2 * k + 1) / 2 = k := by omega
  simp [ExtendedMantissa.shiftRightOne, hdiv]

/-- A bit that is cut off is kept in the residual bits. -/
theorem Represents.shiftRightOne (h : Represents em w) : Represents em.shiftRightOne (w / 2) := by
  obtain ⟨m, round, sticky⟩ := em
  rcases Nat.even_or_odd' m with ⟨k, rfl | rfl⟩
  · rw [shiftRightOne_even]
    cases round <;> cases sticky <;> simp [Represents] at h ⊢ <;>
      first
      | linarith
      | (constructor <;> linarith)
  · rw [shiftRightOne_odd]
    cases round <;> cases sticky <;> simp [Represents] at h ⊢ <;>
      first
      | linarith
      | (constructor <;> linarith)

/-- So are all bits that are cut off. -/
theorem Represents.shiftRight (h : Represents em w) (n : Nat) :
    Represents (em >>> n) (w / 2 ^ n) := by
  change Represents (n.repeat ExtendedMantissa.shiftRightOne em) _
  induction n with
  | zero => simpa [Nat.repeat] using h
  | succ n ih =>
    rw [Nat.repeat, pow_succ, ← div_div]
    exact ih.shiftRightOne

/-- The residual bits tell which natural number is the nearest. -/
theorem Represents.nearest (h : Represents em w) : Nearest em.roundedMantissa w := by
  obtain ⟨m, round, sticky⟩ := em
  cases round <;> cases sticky <;> simp only [Represents] at h
  · change Nearest m w
    exact ⟨by linarith, by linarith, fun _ => ⟨by linarith, by linarith⟩⟩
  · change Nearest m w
    exact ⟨by linarith, by linarith, fun _ => ⟨by linarith, by linarith⟩⟩
  · -- half a place is left, and the even neighbour is taken
    change Nearest (m + m % 2) w
    rcases Nat.mod_two_eq_zero_or_one m with hm | hm
    · rw [hm]
      exact ⟨by push_cast; linarith, by push_cast; linarith, fun hodd => by omega⟩
    · rw [hm]
      exact ⟨by push_cast; linarith, by push_cast; linarith, fun hodd => by omega⟩
  · change Nearest (m + 1) w
    refine ⟨?_, ?_, fun _ => ⟨?_, ?_⟩⟩ <;> push_cast <;> linarith

/-- Two natural numbers that are both nearest would lie next to each other, one of them odd. -/
theorem Nearest.not_of_lt (hr : Nearest r w) (hlt : r < s) : ¬ Nearest s w := by
  intro hs
  have hnext : s = r + 1 := by
    have : (s : ℚ) ≤ r + 1 := by linarith [hr.high, hs.low]
    exact Nat.le_antisymm (by exact_mod_cast this) hlt
  subst hnext
  have hlow := hs.low
  push_cast at hlow
  rcases Nat.mod_two_eq_zero_or_one r with heven | hodd
  · have hstrict := (hs.strict (by omega)).1
    push_cast at hstrict
    linarith [hr.high]
  · linarith [(hr.strict hodd).2]

/-- There is only one nearest natural number. -/
theorem Nearest.unique (hr : Nearest r w) (hs : Nearest s w) : r = s := by
  rcases lt_trichotomy r s with hlt | heq | hlt
  · exact absurd hs (hr.not_of_lt hlt)
  · exact heq
  · exact absurd hr (hs.not_of_lt hlt)

/-- A number in the rounding interval of a double is nearest to its mantissa. -/
theorem nearest_of_rounds (hb : 0 < b.mantissa) (hv : b.Rounds v) :
    Nearest b.mantissa (v / b.unit) := by
  obtain ⟨⟨hlow, hhigh⟩, hstrict⟩ := (Binary.rounds_iff hb).1 hv
  have hreach := b.reach_le
  exact ⟨by linarith, hhigh, fun hodd => ⟨by linarith [(hstrict hodd).1], (hstrict hodd).2⟩⟩

/-! ## Rounding to a double -/

variable {m : Nat} {e : Int} {accuracy : Accuracy} {sign : Sign}

theorem targetExponent_eq (t : Int) :
    Format.binary64.targetExponent t = max (t - 53) (-1074) := rfl

/-- A mantissa that is not shifted. -/
theorem shiftToTarget_eq (ht : Format.binary64.targetExponent (totalExponent m e) ≤ e) :
    shiftToTargetExponent Format.binary64 m e .exact = (⟨m, false, false⟩, e) := by
  rw [shiftToTargetExponent, shiftToExponent, Int.toNat_of_nonpos (by omega)]
  simp only [Int.ofNat_zero, Int.add_zero]
  rfl

/-- A mantissa that has been rounded up to one bit too many. -/
theorem shiftToTarget_carry (he : -1074 ≤ e) :
    shiftToTargetExponent Format.binary64 (2 ^ 53) e .exact = (⟨2 ^ 52, false, false⟩, e + 1) := by
  have hlog : (2 ^ 53 : Nat).log2 = 53 := by rw [Nat.log2_two_pow]
  have htarget : Format.binary64.targetExponent (totalExponent (2 ^ 53) e) = e + 1 := by
    rw [targetExponent_eq, totalExponent, hlog]
    omega
  have hone : (e + 1 - e).toNat = 1 := by omega
  rw [shiftToTargetExponent, htarget, shiftToExponent, hone]
  rfl

/-- The first shift goes to the target exponent and keeps what is known. -/
theorem shiftToTarget_represents (hrep : Represents (.ofMantissaAndAccuracy m accuracy) (v / 2 ^ e))
    {t : Int} (ht : t = Format.binary64.targetExponent (totalExponent m e)) (he : e ≤ t) :
    ∃ em, shiftToTargetExponent Format.binary64 m e accuracy = (em, t) ∧
      Represents em (v / 2 ^ t) := by
  have hexponent : e + ((t - e).toNat : Int) = t := by omega
  have hshifted := hrep.shiftRight (t - e).toNat
  have hpower : v / 2 ^ e / 2 ^ (t - e).toNat = v / 2 ^ t := by
    rw [div_div, ← zpow_natCast, ← zpow_add₀ (by norm_num), hexponent]
  rw [hpower] at hshifted
  refine ⟨_, ?_, hshifted⟩
  rw [shiftToTargetExponent, ← ht, shiftToExponent, hexponent]

/-- Powers of two are compared by their exponents. -/
theorem add_lt_add_of_pow_lt {i j : Nat} {s t : Int} (h : (2 : ℚ) ^ i * 2 ^ s < 2 ^ j * 2 ^ t) :
    (i : Int) + s < j + t := by
  rw [← zpow_natCast, ← zpow_natCast, ← zpow_add₀ (by norm_num), ← zpow_add₀ (by norm_num)] at h
  exact (zpow_lt_zpow_iff_right₀ (by norm_num)).1 h

theorem pow_mul_le_of_add_le {i j : Nat} {s t : Int} (h : (i : Int) + s ≤ j + t) :
    (2 : ℚ) ^ i * 2 ^ s ≤ 2 ^ j * 2 ^ t := by
  rw [← zpow_natCast, ← zpow_natCast, ← zpow_add₀ (by norm_num), ← zpow_add₀ (by norm_num)]
  exact zpow_le_zpow_right₀ (by norm_num) h

/-- At the target exponent a number has fifty-three bits, unless that is the least one. -/
theorem target_bounds (hm : m ≠ 0) (hlow : (m : ℚ) ≤ v / 2 ^ e) (hhigh : v / 2 ^ e < m + 1)
    {t : Int} (ht : t = Format.binary64.targetExponent (totalExponent m e)) :
    v < 2 ^ 53 * 2 ^ t ∧ (t = -1074 ∨ 2 ^ 52 * 2 ^ t ≤ v) := by
  have hpow : (0 : ℚ) < 2 ^ e := zpow_pos (by norm_num) _
  rw [targetExponent_eq, totalExponent] at ht
  constructor
  · have hlog : (m : ℚ) + 1 ≤ 2 ^ (m.log2 + 1) := by exact_mod_cast Nat.lt_log2_self
    calc v < (m + 1) * 2 ^ e := (div_lt_iff₀ hpow).1 hhigh
      _ ≤ 2 ^ (m.log2 + 1) * 2 ^ e := by gcongr
      _ ≤ 2 ^ 53 * 2 ^ t := pow_mul_le_of_add_le (by omega)
  · by_cases hmin : t = -1074
    · exact .inl hmin
    have hlog : (2 : ℚ) ^ m.log2 ≤ m := by exact_mod_cast Nat.log2_self_le hm
    right
    calc (2 : ℚ) ^ 52 * 2 ^ t ≤ 2 ^ m.log2 * 2 ^ e := pow_mul_le_of_add_le (by omega)
      _ ≤ m * 2 ^ e := by gcongr
      _ ≤ v := (le_div_iff₀ hpow).1 hlow

/-- The target exponent is that of the double a number is rounded to. The exception is a
number just below a power of two, which is rounded up to it. -/
theorem target_cases {t : Int} (hb : b.Canonical) (hv : b.Rounds v) (ht : -1074 ≤ t)
    (hhigh : v < 2 ^ 53 * 2 ^ t) (hlow : t = -1074 ∨ 2 ^ 52 * 2 ^ t ≤ v) :
    t = b.exponent ∨
      t + 1 = b.exponent ∧ b.mantissa = 2 ^ 52 ∧ 2 ^ 53 - 1 / 2 ≤ v / 2 ^ t := by
  obtain ⟨⟨hleast, hmost⟩, -⟩ := (Binary.rounds_iff hb.positive).1 hv
  have hunit := b.unit_pos
  have hreach := b.reach_le
  rw [le_div_iff₀ hunit] at hleast
  rw [div_le_iff₀ hunit] at hmost
  -- the number is too large for a double with a smaller exponent
  have habove : t ≤ b.exponent := by
    rcases hlow with rfl | hlow
    · exact hb.least
    · have hshort : (b.mantissa : ℚ) + 1 ≤ 2 ^ 53 := by exact_mod_cast hb.short
      have hlt : (2 : ℚ) ^ 52 * 2 ^ t < 2 ^ 53 * b.unit := by nlinarith
      have := add_lt_add_of_pow_lt hlt
      omega
  by_cases heq : t = b.exponent
  · exact .inl heq
  -- and too small for one with a larger exponent, but for the first of the next range
  have hfull : 2 ^ 52 ≤ b.mantissa := hb.full.resolve_right (by omega)
  have hfull' : (2 : ℚ) ^ 52 ≤ b.mantissa := by exact_mod_cast hfull
  have hbelow : t + 1 = b.exponent := by
    have hlt : (2 : ℚ) ^ 51 * b.unit < 2 ^ 53 * 2 ^ t := by nlinarith
    have := add_lt_add_of_pow_lt hlt
    omega
  have htwice : b.unit = 2 * 2 ^ t := by
    rw [Binary.unit, ← hbelow, zpow_add₀ (by norm_num), zpow_one, mul_comm]
  have hstart : b.mantissa = 2 ^ 52 := by
    have hlt : (b.mantissa : ℚ) < 2 ^ 52 + 1 := by nlinarith
    have hlt' : b.mantissa < 2 ^ 52 + 1 := by exact_mod_cast hlt
    omega
  have hquarter : b.reach = 1 / 4 := by
    have hexp : -1074 < b.exponent := by omega
    simp [Binary.reach, Binary.isRangeStart, hstart, hexp]
  refine .inr ⟨hbelow, hstart, ?_⟩
  rw [le_div_iff₀ (zpow_pos (by norm_num) _)]
  rw [hstart, hquarter, htwice] at hleast
  push_cast at hleast
  linarith

/-- Rounding is two shifts, with the nearest mantissa taken in between. -/
theorem roundWithAccuracy_of_shifts (sign : Sign) {em : ExtendedMantissa} {t : Int}
    (hb : 0 < b.mantissa)
    (hfirst : shiftToTargetExponent Format.binary64 m e accuracy = (em, t))
    (hsecond : shiftToTargetExponent Format.binary64 em.roundedMantissa t .exact =
      (⟨b.mantissa, false, false⟩, b.exponent)) :
    roundWithAccuracy Format.binary64 sign m e accuracy =
      .finite sign b.mantissa b.exponent hb := by
  simp only [roundWithAccuracy, hfirst, hsecond, Nat.ne_of_gt hb, dif_neg, not_false_eq_true]

/-- **A number is rounded to the double whose rounding interval it lies in.** The number is
given by a mantissa and what is known of the places behind it. -/
theorem roundWithAccuracy_eq (sign : Sign) (hm : m ≠ 0)
    (hrep : Represents (.ofMantissaAndAccuracy m accuracy) (v / 2 ^ e))
    (he : e ≤ Format.binary64.targetExponent (totalExponent m e)) (hb : b.Canonical)
    (hv : b.Rounds v) :
    roundWithAccuracy Format.binary64 sign m e accuracy =
      .finite sign b.mantissa b.exponent hb.positive := by
  obtain ⟨t, ht⟩ : ∃ t, t = Format.binary64.targetExponent (totalExponent m e) := ⟨_, rfl⟩
  obtain ⟨em, hshift, hem⟩ := shiftToTarget_represents hrep ht (ht ▸ he)
  have hmantissa : (ExtendedMantissa.ofMantissaAndAccuracy m accuracy).mantissa = m := by
    rcases accuracy with _ | (_ | _ | _) <;> rfl
  have hbounds := hrep.bounds
  rw [hmantissa] at hbounds
  obtain ⟨hhigh, hlow⟩ := target_bounds hm hbounds.1 hbounds.2 ht
  have hmin : -1074 ≤ t := by
    rw [ht, targetExponent_eq]
    exact le_max_right _ _
  refine roundWithAccuracy_of_shifts sign hb.positive hshift ?_
  rcases target_cases hb hv hmin hhigh hlow with rfl | ⟨hnext, hstart, htop⟩
  · -- the nearest mantissa is that of the double, and the second shift does nothing
    have hr : em.roundedMantissa = b.mantissa :=
      hem.nearest.unique (nearest_of_rounds hb.positive hv)
    have hlog : b.mantissa.log2 < 53 := (Nat.log2_lt (Nat.ne_of_gt hb.positive)).2 hb.short
    rw [hr]
    apply shiftToTarget_eq
    rw [targetExponent_eq, totalExponent]
    omega
  · -- the nearest mantissa has one bit too many, which the second shift takes off
    have hr : em.roundedMantissa = 2 ^ 53 := by
      refine hem.nearest.unique ⟨by push_cast; exact htop, ?_, fun hodd => absurd hodd (by decide)⟩
      rw [div_le_iff₀ (zpow_pos (by norm_num) _)]
      push_cast
      nlinarith [zpow_pos (show (0 : ℚ) < 2 by norm_num) t]
    rw [hr, shiftToTarget_carry hmin, hstart, hnext]

variable {c d : Binary} {x y : Float} {n : Nat}

/-! ## Operations -/

/-- An exact mantissa says all about a number. -/
theorem represents_exact (m : Nat) : Represents (.ofMantissaAndAccuracy m .exact) m := rfl

theorem log2_mul_pow (hm : m ≠ 0) (k : Nat) : (m * 2 ^ k).log2 = m.log2 + k := by
  have hpow : 0 < 2 ^ k := Nat.two_pow_pos k
  refine (Nat.log2_eq_iff (Nat.mul_ne_zero hm hpow.ne')).2 ⟨?_, ?_⟩
  · rw [pow_add]
    exact Nat.mul_le_mul_right _ (Nat.log2_self_le hm)
  · rw [Nat.add_right_comm, pow_add]
    exact Nat.mul_lt_mul_of_pos_right Nat.lt_log2_self hpow

/-- A number with a mantissa of any size is rounded to the nearest double. -/
theorem round_eq (sign : Sign) (hm : m ≠ 0) (hb : b.Canonical) (hv : b.Rounds (m * 2 ^ e)) :
    UnpackedFloat.round Format.binary64 sign m e =
      .finite sign b.mantissa b.exponent hb.positive := by
  obtain ⟨t, ht⟩ : ∃ t, t = Format.binary64.targetExponent (totalExponent m e) := ⟨_, rfl⟩
  obtain ⟨k, hk⟩ : ∃ k, k = (e - t).toNat := ⟨_, rfl⟩
  have htotal : totalExponent (m * 2 ^ k) (e - k) = totalExponent m e := by
    rw [totalExponent, totalExponent, log2_mul_pow hm]
    omega
  have hvalue : (m : ℚ) * 2 ^ e / 2 ^ (e - (k : Int)) = (m * 2 ^ k : Nat) := by
    rw [zpow_sub₀ (by norm_num), zpow_natCast]
    push_cast
    field_simp
  -- a mantissa with few bits is first written with `k` zeros behind it
  simp only [UnpackedFloat.round, decreaseExponent, ← ht, ← hk, Nat.shiftLeft_eq]
  refine roundWithAccuracy_eq sign (by positivity) ?_ ?_ hb hv
  · rw [hvalue]
    exact represents_exact _
  · rw [htotal, ← ht]
    omega

/-- The unpacked form of a positive double. -/
theorem unpack_eq (hx : Parts.ofFloat x = .finite false b) :
    x.toModel.unpack =
      .finite .positive b.mantissa b.exponent (canonical_of_ofFloat hx).positive := by
  have hcopy := hx
  rw [ofFloat_eq_ofUnpacked] at hcopy
  match x.toModel.unpack, hcopy with
  | .finite .positive m e hm, hcopy =>
    cases hcopy
    rfl

/-- The double of a natural number of at most sixty-four bits. -/
theorem ofFloat_roundNat (hn : n ≠ 0) (hlimit : n < 2 ^ 64) (hb : b.Canonical)
    (hv : b.Rounds n) : Parts.ofFloat (Json.roundNat n) = .finite false b := by
  have hnat : (UInt64.ofNat n).toNat = n := by
    rw [UInt64.toNat_ofNat']
    exact Nat.mod_eq_of_lt hlimit
  have hround : UnpackedFloat.ofNat Format.binary64 n =
      .finite .positive b.mantissa b.exponent hb.positive := by
    have hcompare : compare (n : Int) 0 = .gt := by
      rw [Int.compare_eq_gt]
      omega
    rw [UnpackedFloat.ofNat, UnpackedFloat.ofInt, UnpackedFloat.normalize, hcompare]
    exact round_eq .positive hn hb (by simpa using hv)
  change Parts.ofFloat (.ofModel (.pack (UnpackedFloat.ofNat Format.binary64
    (UInt64.ofNat n).toNat))) = _
  rw [hnat, hround]
  exact ofFloat_pack .positive hb

/-- The product of two positive doubles. -/
theorem ofFloat_mul (hx : Parts.ofFloat x = .finite false b)
    (hy : Parts.ofFloat y = .finite false c) (hfull : 2 ^ 52 ≤ b.mantissa * c.mantissa)
    (hd : d.Canonical) (hv : d.Rounds (b.value * c.value)) :
    Parts.ofFloat (x * y) = .finite false d := by
  have hvalue : b.value * c.value / 2 ^ (b.exponent + c.exponent) =
      (b.mantissa * c.mantissa : Nat) := by
    rw [zpow_add₀ (by norm_num), Binary.value, Binary.value, Binary.unit, Binary.unit]
    push_cast
    field_simp
  have hlog : 52 ≤ (b.mantissa * c.mantissa).log2 := (Nat.le_log2 (by omega)).2 hfull
  have hround : UnpackedFloat.mul Format.binary64 x.toModel.unpack y.toModel.unpack =
      .finite .positive d.mantissa d.exponent hd.positive := by
    rw [unpack_eq hx, unpack_eq hy]
    refine roundWithAccuracy_eq .positive (by omega) ?_ ?_ hd hv
    · rw [hvalue]
      exact represents_exact _
    · rw [targetExponent_eq, totalExponent]
      omega
  change Parts.ofFloat (.ofModel (.pack (UnpackedFloat.mul Format.binary64 x.toModel.unpack
    y.toModel.unpack))) = _
  rw [hround]
  exact ofFloat_pack .positive hd

/-- What a division leaves is known by how it compares to half the divisor. -/
theorem represents_div (p : Nat) {q : Nat} (hq : 0 < q) :
    Represents (.ofMantissaAndAccuracy (p / q) (accuracyOfFraction (p % q) q)) ((p : ℚ) / q) := by
  have hq' : (0 : ℚ) < q := by exact_mod_cast hq
  have hsplit : (p : ℚ) / q = (p / q : Nat) + ((p % q : Nat) : ℚ) / q := by
    have hdiv : ((q * (p / q) + p % q : Nat) : ℚ) = p := by rw [Nat.div_add_mod]
    rw [← hdiv]
    push_cast
    field_simp
  have hlt : ((p % q : Nat) : ℚ) / q < 1 := by
    rw [div_lt_one hq']
    exact_mod_cast Nat.mod_lt p hq
  rw [hsplit, accuracyOfFraction]
  split
  · rename_i hzero
    rw [hzero]
    simp [Represents, ExtendedMantissa.ofMantissaAndAccuracy]
  · rename_i hne
    have hpos : 0 < ((p % q : Nat) : ℚ) / q := by
      apply div_pos _ hq'
      exact_mod_cast Nat.pos_of_ne_zero hne
    cases hcompare : compare (2 * (p % q)) q with
    | lt =>
      have hhalf : ((p % q : Nat) : ℚ) / q < 1 / 2 := by
        rw [div_lt_div_iff₀ hq' (by norm_num)]
        have : ((2 * (p % q) : Nat) : ℚ) < q := by exact_mod_cast Nat.compare_eq_lt.1 hcompare
        push_cast at this
        linarith
      exact ⟨by linarith, by linarith⟩
    | eq =>
      have hhalf : ((p % q : Nat) : ℚ) / q = 1 / 2 := by
        rw [div_eq_div_iff hq'.ne' (by norm_num)]
        have : ((2 * (p % q) : Nat) : ℚ) = q := by exact_mod_cast Nat.compare_eq_eq.1 hcompare
        push_cast at this
        linarith
      change _ = _
      rw [hhalf]
    | gt =>
      have hhalf : 1 / 2 < ((p % q : Nat) : ℚ) / q := by
        rw [div_lt_div_iff₀ (by norm_num) hq']
        have : (q : ℚ) < (2 * (p % q) : Nat) := by exact_mod_cast Nat.compare_eq_gt.1 hcompare
        push_cast at this
        linarith
      exact ⟨by linarith, by linarith⟩

/-- Mantissas with all their bits in use are divided with fifty-three places more. -/
theorem divCore_eq {m₁ m₂ : Nat} {e₁ e₂ : Int} (h₁ : m₁.log2 = 52) (h₂ : m₂.log2 = 52)
    (he : -1021 ≤ e₁ - e₂) :
    divCore Format.binary64 m₁ e₁ m₂ e₂ =
      (m₁ * 2 ^ 53 / m₂, e₁ - e₂ - 53, accuracyOfFraction (m₁ * 2 ^ 53 % m₂) m₂) := by
  have htarget : min (e₁ - e₂) (Format.binary64.targetExponent
      (totalExponent m₁ e₁ - totalExponent m₂ e₂)) = e₁ - e₂ - 53 := by
    rw [targetExponent_eq, totalExponent, totalExponent, h₁, h₂]
    omega
  have hshift : (e₁ - e₂ - (e₁ - e₂ - 53)).toNat = 53 := by omega
  simp only [divCore, htarget, hshift, Nat.shiftLeft_eq]

/-- The quotient of two positive doubles that are not among the smallest. -/
theorem ofFloat_div (hx : Parts.ofFloat x = .finite false b)
    (hy : Parts.ofFloat y = .finite false c) (hb : 2 ^ 52 ≤ b.mantissa) (hc : 2 ^ 52 ≤ c.mantissa)
    (he : -1021 ≤ b.exponent - c.exponent) (hd : d.Canonical) (hv : d.Rounds (b.value / c.value)) :
    Parts.ofFloat (x / y) = .finite false d := by
  have hbshort := (canonical_of_ofFloat hx).short
  have hcshort := (canonical_of_ofFloat hy).short
  have hcpos : 0 < c.mantissa := by omega
  have hblog : b.mantissa.log2 = 52 := (Nat.log2_eq_iff (by omega)).2 ⟨hb, hbshort⟩
  have hclog : c.mantissa.log2 = 52 := (Nat.log2_eq_iff (by omega)).2 ⟨hc, hcshort⟩
  have hquotient : 2 ^ 52 ≤ b.mantissa * 2 ^ 53 / c.mantissa := by
    rw [Nat.le_div_iff_mul_le hcpos]
    nlinarith
  have hvalue : b.value / c.value / 2 ^ (b.exponent - c.exponent - 53) =
      (b.mantissa * 2 ^ 53 : Nat) / c.mantissa := by
    rw [zpow_sub₀ (by norm_num), zpow_sub₀ (by norm_num), Binary.value, Binary.value, Binary.unit,
      Binary.unit]
    push_cast
    field_simp
  have hlog : 52 ≤ (b.mantissa * 2 ^ 53 / c.mantissa).log2 := (Nat.le_log2 (by omega)).2 hquotient
  have hround : UnpackedFloat.div Format.binary64 x.toModel.unpack y.toModel.unpack =
      .finite .positive d.mantissa d.exponent hd.positive := by
    rw [unpack_eq hx, unpack_eq hy]
    simp only [UnpackedFloat.div, divCore_eq hblog hclog he]
    refine roundWithAccuracy_eq .positive (by omega) ?_ ?_ hd hv
    · rw [hvalue]
      exact represents_div _ hcpos
    · rw [targetExponent_eq, totalExponent]
      omega
  change Parts.ofFloat (.ofModel (.pack (UnpackedFloat.div Format.binary64 x.toModel.unpack
    y.toModel.unpack))) = _
  rw [hround]
  exact ofFloat_pack .positive hd

/-! ## Exact numbers -/

/-- A natural number of at most fifty-three bits, apart from zeros behind them. -/
def Short (n : Nat) : Prop := n % 2 ^ (n.log2 - 52) = 0

instance (n : Nat) : Decidable (Short n) := inferInstanceAs (Decidable (_ = _))

/-- The double of a short natural number. -/
def Binary.ofNat (n : Nat) : Binary :=
  ⟨n * 2 ^ (52 - n.log2) / 2 ^ (n.log2 - 52), (n.log2 : Int) - 52⟩

namespace Binary

/-- All bits of its mantissa are in use. -/
theorem full_ofNat (hn : n ≠ 0) :
    2 ^ 52 ≤ (ofNat n).mantissa ∧ (ofNat n).mantissa < 2 ^ 53 := by
  have hleast : 2 ^ n.log2 ≤ n := Nat.log2_self_le hn
  have hmost : n < 2 ^ (n.log2 + 1) := Nat.lt_log2_self
  simp only [ofNat]
  rcases Nat.le_total n.log2 52 with hlog | hlog
  · have hsplit : 2 ^ n.log2 * 2 ^ (52 - n.log2) = 2 ^ 52 := by rw [← pow_add]; congr 1; omega
    rw [Nat.sub_eq_zero_of_le hlog, pow_zero, Nat.div_one]
    rw [pow_succ] at hmost
    have hpos := Nat.two_pow_pos (52 - n.log2)
    constructor <;> nlinarith
  · have hsplit : 2 ^ 52 * 2 ^ (n.log2 - 52) = 2 ^ n.log2 := by rw [← pow_add]; congr 1; omega
    have hpos := Nat.two_pow_pos (n.log2 - 52)
    rw [Nat.sub_eq_zero_of_le hlog, pow_zero, Nat.mul_one, Nat.le_div_iff_mul_le hpos,
      Nat.div_lt_iff_lt_mul hpos]
    rw [pow_succ] at hmost
    constructor
    · omega
    · calc n < 2 ^ n.log2 * 2 := hmost
        _ = 2 ^ 53 * 2 ^ (n.log2 - 52) := by rw [← hsplit]; ring

theorem value_ofNat (hn : Short n) : (ofNat n).value = n := by
  simp only [value, unit, ofNat]
  rcases Nat.le_total n.log2 52 with hlog | hlog
  · rw [Nat.sub_eq_zero_of_le hlog, pow_zero, Nat.div_one]
    have hexp : (n.log2 : Int) - 52 = -((52 - n.log2 : Nat) : Int) := by omega
    rw [hexp, zpow_neg, zpow_natCast]
    push_cast
    field_simp
  · have hdiv : n / 2 ^ (n.log2 - 52) * 2 ^ (n.log2 - 52) = n :=
      Nat.div_mul_cancel (Nat.dvd_of_mod_eq_zero hn)
    have hexp : (n.log2 : Int) - 52 = ((n.log2 - 52 : Nat) : Int) := by omega
    rw [Nat.sub_eq_zero_of_le hlog, pow_zero, Nat.mul_one, hexp, zpow_natCast]
    exact_mod_cast hdiv

theorem canonical_ofNat (hn : n ≠ 0) (hlog : n.log2 < 1024) : (ofNat n).Canonical := by
  obtain ⟨hleast, hmost⟩ := full_ofNat hn
  refine ⟨by omega, hmost, ?_, ?_, .inl hleast⟩ <;> simp only [ofNat] <;> omega

end Binary

/-- **A short natural number is read as itself.** -/
theorem ofFloat_roundNat_short (hn : n ≠ 0) (hlimit : n < 2 ^ 64) (hshort : Short n) :
    Parts.ofFloat (Json.roundNat n) = .finite false (Binary.ofNat n) := by
  have hpos := (Binary.full_ofNat hn).1
  have hlog : n.log2 < 64 := (Nat.log2_lt hn).2 hlimit
  refine ofFloat_roundNat hn hlimit (Binary.canonical_ofNat hn (by omega)) ?_
  have hrounds := Binary.rounds_value (b := Binary.ofNat n) (by omega)
  rwa [Binary.value_ofNat hshort] at hrounds

/-- The powers of ten that are doubles. -/
theorem ofFloat_powerOfTen (hn : n ≤ 22) :
    Parts.ofFloat (Json.powerOfTen n) = .finite false (Binary.ofNat (10 ^ n)) ∧ Short (10 ^ n) := by
  revert n
  decide

end Decimal

end DialogueScript
