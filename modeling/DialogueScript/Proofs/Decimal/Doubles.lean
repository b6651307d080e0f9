import DialogueScript.Decimal.Shortest
import Mathlib
/-!
# Doubles by their parts

`Parts.ofFloat` reads the bits of a double. This is the form in which doubles are
packed, so the parts of a double are those of its unpacked form
(`ofFloat_eq_ofUnpacked`), a finite number in the range of doubles is packed
without loss (`ofFloat_pack`), and a double is known by its parts
(`eq_of_parts`).
-/

namespace DialogueScript

namespace Decimal

open Float.Model Float.Model.UnpackedFloat

variable {x y : Float} {b : Binary} {negative : Bool}

/-! ## Fields of the bits -/

theorem toNat_unpackMantissa (bits : BitVec 64) :
    (@unpackMantissa Format.binary64 bits).toNat = bits.toNat % 2 ^ 52 := by
  simp [unpackMantissa]

theorem toNat_unpackExponent (bits : BitVec 64) :
    (@unpackExponent Format.binary64 bits).toNat = bits.toNat / 2 ^ 52 % 2 ^ 11 := by
  simp [unpackExponent, Nat.shiftRight_eq_div_pow]

theorem toNat_unpackSign (bits : BitVec 64) :
    (@unpackSign Format.binary64 bits).toNat = bits.toNat / 2 ^ 63 % 2 := by
  simp [unpackSign, Nat.shiftRight_eq_div_pow]

/-- The leading one that is left out of the bits. -/
theorem toNat_leading (fraction : BitVec 52) :
    (1#1 ++ fraction).toNat = 2 ^ 52 + fraction.toNat := by
  rw [BitVec.toNat_append, ← Nat.shiftLeft_add_eq_or_of_lt fraction.isLt]
  simp [Nat.shiftLeft_eq]

/-- Whether a sign is a minus. -/
def isMinus : Sign → Bool
  | .negative => true
  | .positive => false

theorem isMinus_ofBitVec (s : BitVec 1) : isMinus (Sign.ofBitVec s) = (s.toNat == 1) := by
  rw [Sign.ofBitVec]
  split
  · rename_i h
    subst h
    rfl
  · rename_i h
    have : s.toNat ≠ 0 := fun h0 => h (BitVec.eq_of_toNat_eq h0)
    have := s.isLt
    simp only [isMinus]
    symm
    rw [beq_iff_eq]
    omega

/-- What an unpacked double stands for. -/
def Parts.ofUnpacked : UnpackedFloat → Parts
  | .notANumber => .nan
  | .infinity s => .infinite (isMinus s)
  | .zero s => .zero (isMinus s)
  | .finite s m e _ => .finite (isMinus s) ⟨m, e⟩

/-- All ones in the exponent. -/
theorem eq_neg_one_iff (e : BitVec 11) : e = -1#11 ↔ e.toNat = 2047 :=
  ⟨fun h => by rw [h]; rfl, fun h => BitVec.eq_of_toNat_eq h⟩

theorem eq_zero_iff {w : Nat} (m : BitVec w) : m = 0#w ↔ m.toNat = 0 :=
  ⟨fun h => by rw [h]; rfl, fun h => BitVec.eq_of_toNat_eq h⟩

/-- What a sign, an exponent and a mantissa in the bits of a double stand for. -/
def Parts.ofFields (s : Sign) (e : BitVec 11) (m : BitVec 52) : Parts :=
  if e.toNat = 2047 then if m.toNat = 0 then .infinite (isMinus s) else .nan
  else if e.toNat = 0 then
    if m.toNat = 0 then .zero (isMinus s) else .finite (isMinus s) ⟨m.toNat, -1074⟩
  else .finite (isMinus s) ⟨2 ^ 52 + m.toNat, (e.toNat : Int) - 1075⟩

/-- What the bits of a double stand for. -/
def Parts.ofBits (bits : BitVec 64) : Parts :=
  .ofFields (.ofBitVec (@unpackSign Format.binary64 bits)) (@unpackExponent Format.binary64 bits)
    (@unpackMantissa Format.binary64 bits)

theorem ofFloat_eq_ofBits (x : Float) : Parts.ofFloat x = Parts.ofBits x.toBits.toBitVec := by
  rw [Parts.ofBits, Parts.ofFields, isMinus_ofBitVec, toNat_unpackSign, toNat_unpackExponent,
    toNat_unpackMantissa]
  rfl

theorem ofUnpacked_unpack (bits : BitVec 64) :
    Parts.ofUnpacked (UnpackedFloat.unpack Format.binary64 bits) = Parts.ofBits bits := by
  simp only [UnpackedFloat.unpack, Parts.ofBits, Parts.ofFields, ← eq_neg_one_iff, ← eq_zero_iff]
  split
  · split <;> rfl
  split
  · split
    · rfl
    · rename_i he hm
      simp only [Parts.ofUnpacked, he]
      rfl
  · simp only [Parts.ofUnpacked]
    congr 2
    exact toNat_leading _

/-- **The parts of a double are those of its unpacked form.** -/
theorem ofFloat_eq_ofUnpacked (x : Float) :
    Parts.ofFloat x = Parts.ofUnpacked x.toModel.unpack :=
  (ofFloat_eq_ofBits x).trans (ofUnpacked_unpack _).symm

theorem isInf_iff (x : Float) : x.isInf = true ↔ ∃ negative, Parts.ofFloat x = .infinite negative := by
  rw [ofFloat_eq_ofUnpacked]
  change x.toModel.unpack.isInf = true ↔ _
  cases x.toModel.unpack <;> simp [Parts.ofUnpacked, UnpackedFloat.isInf]

theorem isNaN_iff (x : Float) : x.isNaN = true ↔ Parts.ofFloat x = .nan := by
  rw [ofFloat_eq_ofUnpacked]
  change x.toModel.unpack.isNaN = true ↔ _
  cases x.toModel.unpack <;> simp [Parts.ofUnpacked, UnpackedFloat.isNaN]

/-! ## Finite numbers in the range of doubles -/

/-- A number that is a double: fifty-three bits of mantissa, all of them in use
unless the exponent is the least. -/
structure Binary.Canonical (b : Binary) : Prop where
  positive : 0 < b.mantissa
  short : b.mantissa < 2 ^ 53
  least : -1074 ≤ b.exponent
  greatest : b.exponent ≤ 971
  full : 2 ^ 52 ≤ b.mantissa ∨ b.exponent = -1074

theorem canonical_of_ofFloat (h : Parts.ofFloat x = .finite negative b) : b.Canonical := by
  have hfraction : x.toBits.toNat % 2 ^ 52 < 2 ^ 52 := Nat.mod_lt _ (by decide)
  have hexponent : x.toBits.toNat / 2 ^ 52 % 2 ^ 11 < 2 ^ 11 := Nat.mod_lt _ (by decide)
  simp only [Parts.ofFloat, Nat.pow_eq] at h
  generalize x.toBits.toNat / 2 ^ 52 % 2 ^ 11 = exponent at *
  generalize x.toBits.toNat % 2 ^ 52 = fraction at *
  split at h
  · split at h <;> cases h
  split at h
  · split at h
    · cases h
    · cases h
      exact ⟨by simp only; omega, by simp only; omega, by simp only; omega, by simp only; omega,
        .inr rfl⟩
  · cases h
    exact ⟨by simp only; omega, by simp only; omega, by simp only; omega, by simp only; omega,
      .inl (by simp only; omega)⟩

/-- The parts of a double whose bits are put together of three fields. -/
theorem ofFloat_of_fields {u : UnpackedFloat} {s : Sign} {e : BitVec 11} {m : BitVec 52}
    (h : u.pack Format.binary64 = packComponents Format.binary64 s e m) :
    Parts.ofFloat (.ofModel (.pack u)) = Parts.ofFields s e m := by
  rw [ofFloat_eq_ofUnpacked]
  change Parts.ofUnpacked (UnpackedFloat.unpack Format.binary64 (u.pack Format.binary64)) = _
  rw [h, ofUnpacked_unpack, Parts.ofBits, unpackSign_packComponents,
    unpackExponent_packComponents, unpackMantissa_packComponents, Sign.ofBitVec_toBitVec]

/-- **A number in the range of doubles is packed without loss.** -/
theorem ofFloat_pack (s : Sign) (hb : b.Canonical) :
    Parts.ofFloat (.ofModel (.pack (.finite s b.mantissa b.exponent hb.positive))) =
      .finite (isMinus s) b := by
  obtain ⟨m, e⟩ := b
  obtain ⟨hpos, hshort, hleast, hgreatest, hfull⟩ := hb
  simp only at hpos hshort hleast hgreatest hfull
  have hbias : (e + (Format.binary64.exponentBias : Int) +
      (Format.binary64.mantissaBitsWithoutImplicit : Int)).toNat = (e + 1075).toNat := by
    change (e + 1023 + 52).toNat = _
    congr 1
    omega
  have hbound : ¬ 2 ^ Format.binary64.exponentBits ≤ (e + 1075).toNat + 1 := by
    change ¬ 2 ^ 11 ≤ _
    omega
  by_cases hnormal : 2 ^ 52 ≤ m
  · -- the leading bit is in use and is left out of the fields
    have hlog : m.log2 + 1 = Format.binary64.mantissaBits := by
      have : m.log2 = 52 := (Nat.log2_eq_iff (Nat.ne_of_gt hpos)).2 ⟨hnormal, hshort⟩
      rw [this]
      rfl
    have hfields : UnpackedFloat.pack Format.binary64 (.finite s m e hpos) =
        packComponents Format.binary64 s (BitVec.ofNat 11 (e + 1075).toNat) (BitVec.ofNat 52 m) := by
      simp only [UnpackedFloat.pack, hbias, hbound, hlog, if_false, if_true]
    rw [ofFloat_of_fields hfields]
    simp only [Parts.ofFields, BitVec.toNat_ofNat]
    have hexp : (e + 1075).toNat % 2 ^ 11 = (e + 1075).toNat := Nat.mod_eq_of_lt (by omega)
    rw [hexp, if_neg (by omega), if_neg (by omega)]
    congr 2
    · omega
    · omega
  · -- it is not, which is told by an exponent of all zeros
    have hleastExp : e = -1074 := hfull.resolve_left hnormal
    have hlog : ¬ m.log2 + 1 = Format.binary64.mantissaBits := by
      have : m.log2 < 52 := (Nat.log2_lt (Nat.ne_of_gt hpos)).2 (by omega)
      change ¬ _ = 53
      omega
    have hfields : UnpackedFloat.pack Format.binary64 (.finite s m e hpos) =
        packComponents Format.binary64 s 0#11 (BitVec.ofNat 52 m) := by
      simp only [UnpackedFloat.pack, hbias, hbound, hlog, if_false]
    rw [ofFloat_of_fields hfields]
    simp only [Parts.ofFields, BitVec.toNat_ofNat]
    rw [if_neg (by decide), if_pos (by decide), if_neg (by omega), hleastExp]
    congr 2
    omega

/-! ## A double is known by its parts -/

theorem isMinus_injective : Function.Injective isMinus := by
  intro s s' h
  cases s <;> cases s' <;> first | rfl | cases h

/-- Unpacked doubles with the same parts are the same. -/
theorem ofUnpacked_injective : Function.Injective Parts.ofUnpacked := by
  intro u u' h
  cases u with
  | notANumber =>
    cases u' <;> cases h
    rfl
  | infinity s =>
    cases u' <;> simp only [Parts.ofUnpacked, reduceCtorEq, Parts.infinite.injEq] at h
    rw [isMinus_injective h]
  | zero s =>
    cases u' <;> simp only [Parts.ofUnpacked, reduceCtorEq, Parts.zero.injEq] at h
    rw [isMinus_injective h]
  | finite s m e hm =>
    cases u' <;> simp only [Parts.ofUnpacked, reduceCtorEq, Parts.finite.injEq, Binary.mk.injEq] at h
    obtain ⟨hsign, rfl, rfl⟩ := h
    rw [isMinus_injective hsign]

/-- **Doubles with the same parts are the same.** -/
theorem eq_of_parts (h : Parts.ofFloat x = Parts.ofFloat y) : x = y := by
  rw [ofFloat_eq_ofUnpacked, ofFloat_eq_ofUnpacked] at h
  have hbits := (unpack_inj_of_valid x.toModel.valid y.toModel.valid).1 (ofUnpacked_injective h)
  exact Float.toBits_inj.1 (UInt64.toBitVec_inj.1 hbits)

/-! ## Signs -/

/-- A finite double keeps its value when its sign is changed. -/
theorem ofFloat_neg (h : Parts.ofFloat x = .finite negative b) :
    Parts.ofFloat (-x) = .finite (!negative) b := by
  have hb := canonical_of_ofFloat h
  rw [ofFloat_eq_ofUnpacked] at h
  change Parts.ofFloat (.ofModel (.pack x.toModel.unpack.neg)) = _
  match x.toModel.unpack, h with
  | .finite s m e hm, h =>
    cases h
    rw [UnpackedFloat.neg]
    rw [show Parts.ofFloat _ = _ from ofFloat_pack (-s) hb]
    cases s <;> rfl

end Decimal

end DialogueScript
