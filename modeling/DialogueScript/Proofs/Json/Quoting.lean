import DialogueScript.Json.Quote
import Mathlib.Data.List.Basic
/-!
# Strings are read back as they were written

A written string is read back in front of any text, since its closing
quote says where it ends. The one step is `stringBody_writtenChar`: what
is written for a character is read as that character, whether it stands
for itself, is escaped by a letter or by its number.
-/

namespace DialogueScript

namespace Json

/-! ## Characters by number -/

/-- A hexadecimal digit is read as its value. -/
theorem hexDigit?_hexChar {n : Nat} (h : n < 16) : hexDigit? (hexChar n) = some n := by
  have hall : ∀ n < 16, hexDigit? (hexChar n) = some n := by decide
  exact hall n h

/-- A control is read back from its number. -/
theorem unicodeEscape_control {c : Char} (h : isControl c = true) (rest : List Char) :
    unicodeEscape ('0' :: '0' :: hexChar (c.toNat / 16) :: hexChar c.toNat :: rest) =
      .ok (c, rest) := by
  have hc : c.toNat < 0x20 := by simpa [isControl] using h
  have hhigh : hexDigit? (hexChar (c.toNat / 16)) = some (c.toNat / 16) :=
    hexDigit?_hexChar (by omega)
  have hlow : hexDigit? (hexChar c.toNat) = some (c.toNat % 16) := by
    rw [← hexDigit?_hexChar (Nat.mod_lt c.toNat (by decide : 0 < 16))]
    simp [hexChar]
  have hzero : hexDigit? '0' = some 0 := rfl
  have hunit : hexUnit ('0' :: '0' :: hexChar (c.toNat / 16) :: hexChar c.toNat :: rest) =
      .ok (c.toNat, rest) := by
    simp only [hexUnit, hhigh, hlow, hzero]
    congr 2
    omega
  have htrailing : isTrailing c.toNat = false := by
    simp only [isTrailing, Bool.and_eq_false_iff, decide_eq_false_iff_not]
    omega
  have hleading : isLeading c.toNat = false := by
    simp only [isLeading, Bool.and_eq_false_iff, decide_eq_false_iff_not]
    omega
  simp [unicodeEscape, hunit, htrailing, hleading, bind, Except.bind]

/-! ## Characters and strings -/

/-- **What is written for a character is read as that character.** -/
theorem stringBody_writtenChar (fuel : Nat) (read : List Char) (c : Char) (rest : List Char) :
    stringBody (fuel + 1) read (writtenChar c ++ rest) = stringBody fuel (c :: read) rest := by
  unfold writtenChar
  split
  -- seven characters are escaped by a letter, any other by its number or not at all
  case h_8 _ hquote hbackslash _ _ _ _ _ =>
    split
    · rename_i hcontrol
      simp only [List.cons_append, List.nil_append]
      rw [stringBody]
      simp [escape, unicodeEscape_control hcontrol, bind, Except.bind]
    · rename_i hcontrol
      simp only [List.cons_append, List.nil_append]
      rw [stringBody.eq_5 read fuel c rest hquote hbackslash, if_neg hcontrol]
  all_goals rfl

/-- What is written for characters takes as many steps to read as there are
characters. -/
theorem stringBody_written (cs : List Char) (fuel : Nat) (read rest : List Char)
    (h : cs.length < fuel) :
    stringBody fuel read (cs.flatMap writtenChar ++ '"' :: rest) =
      .ok (String.ofList (read.reverse ++ cs), rest) := by
  induction cs generalizing fuel read with
  | nil =>
    obtain ⟨fuel, rfl⟩ := Nat.exists_eq_succ_of_ne_zero (Nat.ne_zero_of_lt h)
    simp [stringBody]
  | cons c cs ih =>
    obtain ⟨fuel, rfl⟩ := Nat.exists_eq_succ_of_ne_zero (Nat.ne_zero_of_lt h)
    rw [List.flatMap_cons, List.append_assoc, stringBody_writtenChar,
      ih fuel (c :: read) (by simpa using h)]
    simp

/-- Nothing is written for no character. -/
theorem length_le_length_written (cs : List Char) :
    cs.length ≤ (cs.flatMap writtenChar).length := by
  have hpos : ∀ c, 1 ≤ (writtenChar c).length := by
    intro c
    unfold writtenChar
    split <;> try split
    all_goals simp
  induction cs with
  | nil => simp
  | cons c cs ih =>
    have := hpos c
    simp only [List.flatMap_cons, List.length_append, List.length_cons]
    omega

/-- **A written string is read back**, and what is behind it is left. -/
theorem readString_written (s : String) (rest : List Char) :
    readString (s.toList.flatMap writtenChar ++ '"' :: rest) = .ok (s, rest) := by
  have hlength := length_le_length_written s.toList
  rw [readString, stringBody_written]
  · simp
  · simp only [List.length_append, List.length_cons]
    omega

end Json

end DialogueScript
