import DialogueScript.Proofs.Json.Tagging
/-!
# Pieces of a text

A reader takes a piece off the front of a text and leaves the rest. This module
goes the way back: from what was read to the piece it was read from, and on to
other texts that begin with that piece. A string ends by itself, with its
closing quote, so the piece is read alike in front of anything (`Closes`). A
number ends where nothing goes on it, so it is read alike in front of
everything that cannot (`exists_of_scan`). Together they say of every scalar
that it is read again in front of what can follow a value
(`exists_of_scalar?`).
-/

namespace DialogueScript

namespace Json

open Numeral

namespace Reader

variable {α β : Type} {r : Reader α} {f : α → Reader β} {a : α} {b : β}
variable {text rest gap mid cs : List Char} {c : Char}

/-! ## Steps taken back -/

/-- A reader behind another began where the first one ended. -/
theorem exists_of_bind (h : (r >>= f) cs = .ok (b, rest)) :
    ∃ a mid, r cs = .ok (a, mid) ∧ f a mid = .ok (b, rest) := by
  rcases hread : r cs with e | ⟨a, mid⟩
  · rw [bind_error hread] at h
    cases h
  · rw [bind_ok hread] at h
    exact ⟨a, mid, rfl, h⟩

theorem exists_of_map {g : α → β} (h : (g <$> r) cs = .ok (b, rest)) :
    ∃ a, r cs = .ok (a, rest) ∧ g a = b := by
  rcases hread : r cs with e | ⟨a, mid⟩
  · rw [map_error hread] at h
    cases h
  · rw [map_ok hread] at h
    cases h
    exact ⟨a, rfl, rfl⟩

/-- A text is blanks and what a look past them finds. -/
theorem exists_gap (cs : List Char) :
    ∃ gap mid, Blank gap ∧ cs = gap ++ mid ∧ peek cs = .ok (mid.head?, mid) ∧
      ∀ c, mid.head? = some c → isBlank c = false := by
  refine ⟨cs.takeWhile isBlank, cs.dropWhile isBlank, fun c hc => ?_, ?_, rfl, fun c hc => ?_⟩
  · exact List.mem_takeWhile_imp hc
  · exact List.takeWhile_append_dropWhile.symm
  · have hnot := List.head?_dropWhile_not isBlank cs
    rw [hc] at hnot
    simpa using hnot

/-- Blanks in front make no difference to a look past them. -/
theorem peek_append (hgap : Blank gap) (cs : List Char) : peek (gap ++ cs) = peek cs := by
  unfold peek
  rw [List.dropWhile_append_of_pos hgap]

/-- Nor to a reader that begins with one. -/
theorem peek_bind_append {f : Option Char → Reader β} (hgap : Blank gap) (cs : List Char) :
    (peek >>= f) (gap ++ cs) = (peek >>= f) cs := by
  change Except.bind (peek (gap ++ cs)) (fun p => f p.1 p.2) =
    Except.bind (peek cs) (fun p => f p.1 p.2)
  rw [peek_append hgap]

/-- A comma or a closing bracket, with blanks in front of it or none, can follow a value. -/
theorem ends_gap (hgap : Blank gap) (hc : c = ',' ∨ c = ']' ∨ c = '\x7d') (cs : List Char) :
    Ends (gap ++ c :: cs) := by
  intro d hd
  cases gap with
  | nil =>
    cases hd
    exact .inr hc
  | cons b bs =>
    cases hd
    exact .inl (hgap d (by simp))

/-! ## Pieces that end by themselves -/

/-- What a reader takes off a text it takes off every text that begins so. -/
def Closes (r : Reader α) : Prop :=
  ∀ cs a rest, r cs = .ok (a, rest) →
    ∃ text, text ≠ [] ∧ cs = text ++ rest ∧ ∀ rest', r (text ++ rest') = .ok (a, rest')

/-- The letters of a word are what is read off. -/
theorem eq_append_of_word {w : List Char} {u : Unit} (h : word w cs = .ok (u, rest)) :
    cs = w ++ rest := by
  induction w generalizing cs with
  | nil =>
    cases h
    rfl
  | cons c w ih =>
    cases cs with
    | nil => cases h
    | cons d cs =>
      change (if d = c then word w cs else _) = _ at h
      split at h
      · rename_i hd
        rw [hd, ih h]
        rfl
      · cases h

theorem closes_hexUnit : Closes (hexUnit : Reader Nat) := by
  intro cs n rest h
  match cs with
  | a :: b :: c :: d :: cs =>
    simp only [hexUnit] at h
    split at h
    · rename_i ha hb hc hd
      cases h
      exact ⟨[a, b, c, d], by simp, rfl, fun rest' => by simp [hexUnit, ha, hb, hc, hd]⟩
    · cases h
  | [] | [_] | [_, _] | [_, _, _] =>
    simp only [hexUnit] at h
    split at h <;> cases h

theorem closes_trailingUnit : Closes (trailingUnit : Reader Nat) := by
  intro cs n rest h
  unfold trailingUnit at h
  split at h
  · cases h
  · cases h
  · obtain ⟨⟨m, mid⟩, hunit, hm⟩ := exists_of_bind_ok h
    obtain ⟨text, -, rfl, hclosed⟩ := closes_hexUnit _ _ _ hunit
    dsimp only at hm
    split at hm
    · rename_i htrailing
      cases hm
      refine ⟨'\\' :: 'u' :: text, by simp, rfl, fun rest' => ?_⟩
      have hunit' : hexUnit (text ++ rest') = .ok (n, rest') := hclosed rest'
      simp [trailingUnit, hunit', htrailing, bind, Except.bind]
    · cases hm
  · cases h

theorem closes_unicodeEscape : Closes (unicodeEscape : Reader Char) := by
  intro cs c rest h
  obtain ⟨⟨n, mid⟩, hunit, hn⟩ := exists_of_bind_ok h
  obtain ⟨text, hne, rfl, hclosed⟩ := closes_hexUnit _ _ _ hunit
  have hunit' : ∀ rest', hexUnit (text ++ rest') = .ok (n, rest') := hclosed
  dsimp only at hn
  split at hn
  · cases hn
  rename_i htrailing
  split at hn
  · -- a pair takes a second piece
    rename_i hleading
    obtain ⟨⟨m, mid'⟩, htrail, hm⟩ := exists_of_bind_ok hn
    injection hm with hm
    injection hm with hchar hmid
    subst hchar hmid
    obtain ⟨text', -, rfl, hclosed'⟩ := closes_trailingUnit _ _ _ htrail
    have htrail' : ∀ rest', trailingUnit (text' ++ rest') = .ok (m, rest') := hclosed'
    refine ⟨text ++ text', by simp [hne], by simp, fun rest' => ?_⟩
    rw [List.append_assoc]
    simp [unicodeEscape, hunit', htrail', htrailing, hleading, bind, Except.bind]
  · rename_i hleading
    cases hn
    refine ⟨text, hne, rfl, fun rest' => ?_⟩
    simp [unicodeEscape, hunit', htrailing, hleading, bind, Except.bind]

theorem closes_escape : Closes (escape : Reader Char) := by
  intro cs c rest h
  unfold escape at h
  split at h
  · cases h
  · obtain ⟨text, -, rfl, hclosed⟩ := closes_unicodeEscape _ _ _ h
    exact ⟨'u' :: text, by simp, rfl, hclosed⟩
  · rename_i d cs hu
    split at h
    · rename_i e he
      cases h
      refine ⟨[d], by simp, rfl, fun rest' => ?_⟩
      change escape (d :: rest') = _
      unfold escape
      split
      · cases ‹_ = []›
      · rename_i heq
        cases heq
        exact absurd rfl hu
      · rename_i heq
        cases heq
        rw [he]
    · cases h

/-- A string is read from its characters and its closing quote, if there is a round for each. -/
theorem exists_of_stringBody {fuel : Nat} {read : List Char} {s : String}
    (h : stringBody fuel read cs = .ok (s, rest)) :
    ∃ text, text ≠ [] ∧ cs = text ++ rest ∧
      ∀ rest' fuel', text.length ≤ fuel' →
        stringBody fuel' read (text ++ rest') = .ok (s, rest') := by
  induction fuel generalizing read cs with
  | zero => cases h
  | succ fuel ih =>
    unfold stringBody at h
    split at h
    · cases h
    · cases h
      refine ⟨['"'], by simp, rfl, fun rest' fuel' hfuel => ?_⟩
      obtain ⟨k, rfl⟩ := Nat.exists_eq_add_of_le' hfuel
      rfl
    · obtain ⟨⟨d, mid⟩, hescape, hrest⟩ := exists_of_bind_ok h
      obtain ⟨piece, hpiece, rfl, hclosed⟩ := closes_escape _ _ _ hescape
      have hescape' : ∀ rest', escape (piece ++ rest') = .ok (d, rest') := hclosed
      obtain ⟨text, hne, rfl, hbody⟩ := ih hrest
      refine ⟨'\\' :: (piece ++ text), by simp, by simp, fun rest' fuel' hfuel => ?_⟩
      have hlength := List.length_pos_iff.2 hpiece
      simp only [List.length_cons, List.length_append] at hfuel
      obtain ⟨k, rfl⟩ := Nat.exists_eq_add_of_le' (show 1 ≤ fuel' by omega)
      rw [List.cons_append, List.append_assoc, stringBody, hescape']
      exact hbody rest' k (by omega)
    · rename_i d tail hquote hbackslash
      split at h
      · cases h
      · rename_i hcontrol
        obtain ⟨text, hne, rfl, hbody⟩ := ih h
        refine ⟨d :: text, by simp, by simp, fun rest' fuel' hfuel => ?_⟩
        simp only [List.length_cons] at hfuel
        obtain ⟨k, rfl⟩ := Nat.exists_eq_add_of_le' (show 1 ≤ fuel' by omega)
        rw [List.cons_append, stringBody.eq_5 read k d _ hquote hbackslash, if_neg hcontrol]
        exact hbody rest' k (by omega)

theorem closes_readString : Closes (readString : Reader String) := by
  intro cs s rest h
  obtain ⟨text, hne, rfl, hbody⟩ := exists_of_stringBody h
  exact ⟨text, hne, rfl, fun rest' => hbody rest' _ (by simp)⟩

/-- A string stands between its quotes, the first of which opens it. -/
theorem exists_of_string {s : String} (h : string ('"' :: cs) = .ok (s, rest)) :
    ∃ text, cs = text ++ rest ∧ ∀ rest', string ('"' :: (text ++ rest')) = .ok (s, rest') := by
  obtain ⟨text, -, rfl, hclosed⟩ := closes_readString cs s rest h
  exact ⟨text, rfl, hclosed⟩

end Reader

/-! ## Numbers -/

section Numbers

variable {cs rest : List Char} {atEnd : Fault}

theorem exists_of_someDigits {ds : List Nat} (h : someDigits atEnd cs = .ok (ds, rest)) :
    ∃ text, Digits text ∧ ds = values text ∧ cs = text ++ rest := by
  have hsplit : cs = cs.takeWhile Char.isDigit ++ cs.dropWhile Char.isDigit :=
    List.takeWhile_append_dropWhile.symm
  have hdigits : ∀ c ∈ cs.takeWhile Char.isDigit, c.isDigit = true :=
    fun c hc => List.mem_takeWhile_imp hc
  unfold someDigits digits at h
  cases htake : cs.takeWhile Char.isDigit with
  | nil =>
    rw [htake] at h
    cases hdrop : cs.dropWhile Char.isDigit <;> rw [hdrop] at h <;> cases h
  | cons c text =>
    rw [htake] at h hsplit hdigits
    cases h
    exact ⟨c :: text, ⟨by simp, hdigits⟩, rfl, hsplit⟩

theorem exists_of_scanWhole {ds : List Nat} (h : scanWhole atEnd cs = .ok (ds, rest)) :
    ∃ text, Digits text ∧ (∀ d ds, text = '0' :: d :: ds → False) ∧ ds = values text ∧
      cs = text ++ rest := by
  obtain ⟨⟨ds', mid⟩, hsome, h⟩ := exists_of_bind_ok h
  obtain ⟨text, htext, rfl, hcs⟩ := exists_of_someDigits hsome
  split at h
  · cases h
  · rename_i hleading
    cases h
    refine ⟨text, htext, fun d ds htext => ?_, rfl, hcs⟩
    rw [htext] at hleading
    exact hleading _ _ _ rfl

theorem exists_of_scanFraction {fraction : Option (List Nat)}
    (h : scanFraction atEnd cs = .ok (fraction, rest)) :
    ∃ text : Option (List Char), (∀ ds, text = some ds → Digits ds) ∧
      fraction = text.map values ∧ cs = fractionText text ++ rest := by
  unfold scanFraction at h
  split at h
  · obtain ⟨⟨ds, mid⟩, hsome, hds⟩ := exists_of_bind_ok h
    obtain ⟨text, htext, rfl, rfl⟩ := exists_of_someDigits hsome
    cases hds
    refine ⟨some text, ?_, rfl, rfl⟩
    rintro ds ⟨⟩
    exact htext
  · cases h
    exact ⟨none, nofun, rfl, rfl⟩

/-- An exponent is nothing or begins with its mark, and is scanned again in front of what cannot go
on a number. -/
theorem exists_of_scanExponent {exponent : Option (Bool × List Nat)}
    (h : scanExponent atEnd cs = .ok (exponent, rest)) :
    ∃ text, (∀ c, text.head? = some c → c.isDigit = false ∧ c ≠ '.') ∧ cs = text ++ rest ∧
      ∀ rest', Stops rest' → scanExponent atEnd (text ++ rest') = .ok (exponent, rest') := by
  -- a sign, if there is one, and digits
  have hmarked : ∀ {cs}, scanExponent.marked atEnd cs = .ok (exponent, rest) →
      ∃ text, cs = text ++ rest ∧ ∀ rest', Stops rest' →
        scanExponent.marked atEnd (text ++ rest') = .ok (exponent, rest') := by
    intro cs h
    unfold scanExponent.marked at h
    split at h
    rename_i negative mid hsign
    obtain ⟨⟨ds, tail⟩, hsome, hds⟩ := exists_of_bind_ok h
    obtain ⟨text, htext, rfl, rfl⟩ := exists_of_someDigits hsome
    cases hds
    split at hsign
    · cases hsign
      refine ⟨'+' :: text, rfl, fun rest' hrest' => ?_⟩
      exact @marked_append _ _ false atEnd htext hrest'.noDigit
    · cases hsign
      refine ⟨'-' :: text, rfl, fun rest' hrest' => ?_⟩
      exact @marked_append _ _ true atEnd htext hrest'.noDigit
    · cases hsign
      refine ⟨text, rfl, fun rest' hrest' => ?_⟩
      obtain ⟨c, ds, rfl⟩ := List.exists_cons_of_ne_nil htext.1
      have hdigit := htext.2 c (by simp)
      have hsome := someDigits_append atEnd htext hrest'.noDigit
      unfold scanExponent.marked
      split
      rename_i sign mid hmid
      split at hmid
      · rename_i heq
        cases heq
        simp at hdigit
      · rename_i heq
        cases heq
        simp at hdigit
      · cases hmid
        rw [hsome]
        rfl
  unfold scanExponent at h
  split at h
  · obtain ⟨text, rfl, hscan⟩ := hmarked h
    refine ⟨'e' :: text, ?_, rfl, hscan⟩
    rintro c ⟨⟩
    exact ⟨by decide, by decide⟩
  · obtain ⟨text, rfl, hscan⟩ := hmarked h
    refine ⟨'E' :: text, ?_, rfl, hscan⟩
    rintro c ⟨⟩
    exact ⟨by decide, by decide⟩
  · cases h
    exact ⟨[], nofun, rfl, fun rest' hrest' =>
      @scanExponent_append rest' atEnd none nofun hrest'⟩

/-- **A literal is scanned again in front of anything that cannot go on a number.** -/
theorem exists_of_scan {l : Literal} (h : Literal.scan atEnd cs = .ok (l, rest)) :
    ∃ text, text ≠ [] ∧ cs = text ++ rest ∧
      ∀ rest', Stops rest' → Literal.scan atEnd (text ++ rest') = .ok (l, rest') := by
  unfold Literal.scan at h
  split at h
  rename_i negative unsigned hsign
  obtain ⟨⟨whole, cs₁⟩, hwhole, h⟩ := exists_of_bind_ok h
  obtain ⟨⟨fraction, cs₂⟩, hfraction, h⟩ := exists_of_bind_ok h
  obtain ⟨⟨exponent, cs₃⟩, hexponent, h⟩ := exists_of_bind_ok h
  cases h
  obtain ⟨wholeText, hdigits, hleading, rfl, rfl⟩ := exists_of_scanWhole hwhole
  obtain ⟨fractionPart, hpart, rfl, rfl⟩ := exists_of_scanFraction hfraction
  obtain ⟨exponentPart, hmark, rfl, hscan⟩ := exists_of_scanExponent hexponent
  -- each part is followed by the next one, or by what cannot go on a number
  have hbehind : ∀ rest', Stops rest' → ∀ c, (exponentPart ++ rest').head? = some c →
      c.isDigit = false ∧ c ≠ '.' := by
    intro rest' hrest' c hc
    cases exponentPart with
    | nil => exact ⟨(hrest' c hc).1, (hrest' c hc).2.1⟩
    | cons d ds => exact hmark c hc
  have hfraction' : ∀ rest', Stops rest' →
      scanFraction atEnd (fractionText fractionPart ++ (exponentPart ++ rest')) =
        .ok (fractionPart.map values, exponentPart ++ rest') := fun rest' hrest' =>
    scanFraction_append atEnd hpart (fun c hc => (hbehind rest' hrest' c hc).1)
      fun c hc => (hbehind rest' hrest' c hc).2
  have hwhole' : ∀ rest', Stops rest' →
      scanWhole atEnd (wholeText ++ (fractionText fractionPart ++ (exponentPart ++ rest'))) =
        .ok (values wholeText, fractionText fractionPart ++ (exponentPart ++ rest')) := by
    intro rest' hrest'
    refine scanWhole_append atEnd hdigits hleading ?_
    cases fractionPart with
    | some ds => exact noDigit_cons (by decide)
    | none => exact fun c hc => (hbehind rest' hrest' c hc).1
  split at hsign
  · cases hsign
    refine ⟨'-' :: (wholeText ++ (fractionText fractionPart ++ exponentPart)), by simp, by simp, ?_⟩
    intro rest' hrest'
    simp only [List.cons_append, List.append_assoc, Literal.scan, hwhole' rest' hrest',
      hfraction' rest' hrest', hscan rest' hrest', bind, Except.bind]
  · cases hsign
    refine ⟨wholeText ++ (fractionText fractionPart ++ exponentPart), by simp [hdigits.1],
      by simp, ?_⟩
    intro rest' hrest'
    obtain ⟨c, ds, rfl⟩ := List.exists_cons_of_ne_nil hdigits.1
    have hdigit := hdigits.2 c (by simp)
    simp only [List.append_assoc]
    unfold Literal.scan
    split
    rename_i sign mid hmid
    split at hmid
    · rename_i heq
      cases heq
      simp at hdigit
    · cases hmid
      simp only [hwhole' rest' hrest', hfraction' rest' hrest', hscan rest' hrest', bind,
        Except.bind]

theorem exists_of_readNumber {n : Number} (h : readNumber cs = .ok (n, rest)) :
    ∃ text, text ≠ [] ∧ cs = text ++ rest ∧
      ∀ rest', Stops rest' → readNumber (text ++ rest') = .ok (n, rest') := by
  obtain ⟨⟨l, mid⟩, hscan, hl⟩ := exists_of_bind_ok h
  obtain ⟨text, hne, rfl, hagain⟩ := exists_of_scan hscan
  dsimp only at hl
  split at hl
  · rename_i hvalue
    cases hl
    refine ⟨text, hne, rfl, fun rest' hrest' => ?_⟩
    rw [readNumber, hagain rest' hrest', ok_bind]
    dsimp only
    rw [hvalue]
  · cases hl

end Numbers

/-! ## Scalars -/

namespace Reader

variable {α : Type} {a : α} {text rest cs : List Char} {c : Char}

/-- A word behind its first letter is what was read off. -/
theorem exists_of_word_then {w : List Char} {a' : α}
    (h : (do advance; word w; return a : Reader α) (c :: cs) = .ok (a', rest)) :
    a' = a ∧ cs = w ++ rest := by
  obtain ⟨_, mid, hadvance, h⟩ := exists_of_bind h
  cases hadvance
  obtain ⟨_, mid, hword, h⟩ := exists_of_bind h
  cases h
  exact ⟨rfl, eq_append_of_word hword⟩

/-- **A scalar is read again in front of anything that can follow a value.** -/
theorem exists_of_scalar? {s : Scalar} (h : scalar? c (c :: cs) = .ok (some s, rest)) :
    ∃ text, cs = text ++ rest ∧
      ∀ rest', Ends rest' → scalar? c (c :: (text ++ rest')) = .ok (some s, rest') := by
  unfold scalar? at h
  split at h
  · obtain ⟨hs, rfl⟩ := exists_of_word_then h
    rw [hs]
    exact ⟨_, rfl, fun rest' _ => word_then _ _ _ rest'⟩
  · obtain ⟨hs, rfl⟩ := exists_of_word_then h
    rw [hs]
    exact ⟨_, rfl, fun rest' _ => word_then _ _ _ rest'⟩
  · obtain ⟨hs, rfl⟩ := exists_of_word_then h
    rw [hs]
    exact ⟨_, rfl, fun rest' _ => word_then _ _ _ rest'⟩
  · obtain ⟨t, mid, hstring, hs⟩ := exists_of_bind h
    cases hs
    obtain ⟨text, rfl, hagain⟩ := exists_of_string hstring
    exact ⟨text, rfl, fun rest' _ => bind_ok (hagain rest')⟩
  · split at h
    · rename_i hc
      obtain ⟨n, mid, hnumber, hs⟩ := exists_of_bind h
      cases hs
      obtain ⟨text, hne, hcs, hagain⟩ := exists_of_readNumber hnumber
      obtain ⟨d, text, rfl⟩ := List.exists_cons_of_ne_nil hne
      cases hcs
      exact ⟨text, rfl, fun rest' hrest' => scalar?_number hc (hagain rest' (stops_of_ends hrest'))⟩
    · cases h

/-- What begins a scalar cannot follow a value. -/
theorem opens_of_scalar? {s : Scalar} (hc : isBlank c = false)
    (h : scalar? c (c :: cs) = .ok (some s, rest)) (text : List Char) : Opens (c :: text) := by
  refine ⟨c, text, rfl, hc, ?_, ?_, ?_⟩ <;>
  · rintro rfl
    cases h

end Reader

end Json

end DialogueScript
