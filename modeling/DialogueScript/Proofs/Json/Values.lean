import DialogueScript.Proofs.Json.Reproduction
import DialogueScript.Proofs.Json.Spelling
/-!
# Values as they are read

Two facts about the reader of free values. What it gives nests no deeper than
it may (`yields_value`), and it gives back every value that nests no deeper,
whichever way it is spelt, if each number in it is kept (`reads_value`).

The first is a postcondition of a reader, `Yields`, put together as the reader
is: one lemma for a step behind another, one for each loop, and one for each
form of a record.
-/

namespace DialogueScript

namespace Json

namespace Reader

variable {α β σ : Type} {r : Reader α} {f : α → Reader β} {P : α → Prop} {Q : β → Prop}

/-! ## What a reader gives -/

/-- Everything a reader gives has a property. -/
def Yields (r : Reader α) (P : α → Prop) : Prop :=
  ∀ cs a cs', r cs = .ok (a, cs') → P a

theorem yields_of_forall (h : ∀ a, P a) : Yields r P := fun _ a _ _ => h a

theorem yields_pure {a : α} (h : P a) : Yields (pure a) P := by
  rintro cs b cs' hb
  cases hb
  exact h

theorem yields_fail (e : Fault) : Yields (fail e : Reader α) P := nofun

theorem yields_of_error (h : ∀ cs, ∃ e, r cs = .error e) : Yields r P := by
  intro cs a cs' ha
  obtain ⟨e, he⟩ := h cs
  rw [he] at ha
  cases ha

/-- A reader that goes on behind another may use what the first one gives. -/
theorem yields_bind (hr : Yields r P) (hf : ∀ a, P a → Yields (f a) Q) : Yields (r >>= f) Q := by
  intro cs b cs' hb
  rcases hread : r cs with e | ⟨a, cs₁⟩
  · rw [bind_error hread] at hb
    cases hb
  · rw [bind_ok hread] at hb
    exact hf a (hr cs a cs₁ hread) cs₁ b cs' hb

/-- The same behind a reader of which nothing is known. -/
theorem yields_then (hf : ∀ a, Yields (f a) Q) : Yields (r >>= f) Q :=
  yields_bind (P := fun _ => True) (yields_of_forall fun _ => trivial) fun a _ => hf a

theorem yields_map {g : α → β} (hr : Yields r fun a => Q (g a)) : Yields (g <$> r) Q := by
  intro cs b cs' hb
  rcases hread : r cs with e | ⟨a, cs₁⟩
  · rw [map_error hread] at hb
    cases hb
  · rw [map_ok hread] at hb
    cases hb
    exact hr cs a _ hread

theorem yields_withFuel {loop : Nat → Reader α} (h : ∀ n, Yields (loop n) P) :
    Yields (withFuel loop) P :=
  fun cs a cs' ha => h cs.length cs a cs' ha

theorem yields_item? {first : Bool} (hr : Yields r P) :
    Yields (item? first r) fun a? => ∀ a, a? = some a → P a := by
  refine yields_then fun more => ?_
  cases more with
  | true =>
    refine yields_map ?_
    rintro cs a cs' ha b ⟨⟩
    exact hr cs a cs' ha
  | false => exact yields_pure nofun

/-- The items of a list all have the property of an item. -/
theorem yields_items (hr : Yields r P) (fuel : Nat) (first : Bool) (read : List α)
    (hread : ∀ a ∈ read, P a) : Yields (items r fuel first read) fun as => ∀ a ∈ as, P a := by
  induction fuel generalizing first read with
  | zero => exact yields_fail _
  | succ fuel ih =>
    refine yields_bind (yields_item? hr) fun a? ha? => ?_
    cases a? with
    | none => exact yields_pure fun a ha => hread a (List.mem_reverse.1 ha)
    | some a => exact ih false (a :: read) (List.forall_mem_cons.2 ⟨ha? a rfl, hread⟩)

theorem yields_list (hr : Yields r P) : Yields (list r) fun as => ∀ a ∈ as, P a :=
  yields_then fun _ => yields_bind
    (yields_withFuel fun n => yields_items hr (n + 1) true [] nofun)
    fun _ has => yields_then fun _ => yields_pure has

variable {step : σ → String → Reader σ} {s : σ} {I : σ → Prop}

/-- What a step over one field preserves, the loop over all of them does. -/
theorem yields_fields (hstep : ∀ s k, I s → Yields (step s k) I) (fuel : Nat) (first : Bool)
    (hs : I s) : Yields (fields step fuel first s) I := by
  induction fuel generalizing first s with
  | zero => exact yields_fail _
  | succ fuel ih =>
    refine yields_then fun k? => ?_
    cases k? with
    | none => exact yields_pure hs
    | some k => exact yields_bind (hstep s k hs) fun s' hs' => ih false hs'

theorem yields_object {finish : σ → Reader α} (hstep : ∀ s k, I s → Yields (step s k) I)
    (hs : I s) (hfinish : ∀ s, I s → Yields (finish s) P) : Yields (object step s finish) P :=
  yields_then fun _ => yields_bind
    (yields_withFuel fun n => yields_fields hstep (n + 1) true hs)
    fun s' hs' => yields_bind (hfinish s' hs') fun _ ha => yields_then fun _ => yields_pure ha

/-! ### Records -/

theorem yields_optional (hr : Yields r P) :
    Yields (Record.optional r) fun a? => ∀ a, a? = some a → P a := by
  refine yields_then fun c? => ?_
  split
  · refine yields_then fun _ => yields_then fun _ => yields_pure ?_
    intro a ha
    cases ha
  · refine yields_map ?_
    rintro cs a cs' ha b ⟨⟩
    exact hr cs a cs' ha

theorem yields_sequence (hr : Yields r P) : Yields (Record.list r) fun as => ∀ a ∈ as, P a := by
  refine yields_then fun c? => ?_
  split
  · exact yields_list hr
  · exact yields_of_error (unexpected_error _)

theorem yields_slot {name : String} {current : Option α} (hr : Yields r P) :
    Yields (Record.slot name current r) fun a? => ∀ a, a? = some a → P a := by
  have hfill : Yields (do colon; some <$> r) fun a? => ∀ a, a? = some a → P a := by
    refine yields_then fun _ => yields_map ?_
    rintro cs a cs' ha b ⟨⟩
    exact hr cs a cs' ha
  cases current with
  | none => exact hfill
  | some _ => exact yields_then fun _ => hfill

theorem yields_itemAt {number : Nat} {expected : String} (hr : Yields r P) :
    Yields (Record.itemAt number expected r) P := by
  refine yields_bind (yields_item? hr) fun a? ha? => ?_
  cases a? with
  | none => exact yields_fail _
  | some a => exact yields_pure (ha? a rfl)

/-- What both forms of a record give. -/
theorem yields_record {expected : String} {fromObject fromList : Reader α}
    (hobject : Yields fromObject P) (hlist : Yields fromList P) :
    Yields (Record.record expected fromObject fromList) P := by
  refine yields_then fun c? => ?_
  split
  · exact yields_then fun _ => yields_bind hlist fun _ ha => yields_then fun _ => yields_pure ha
  · exact hobject
  · exact yields_of_error (unexpected_error expected)

/-- A whole number that is read as one fits sixty-four bits. -/
theorem yields_number :
    Yields Reader.number fun n => ∀ k : Nat, n = .integer k → k ≤ significandLimit := by
  intro cs n cs' hn k hk
  have hread : readNumber cs = .ok (n, cs') := hn
  rcases hscan : Literal.scan (.unfinished .value) cs with e | ⟨l, rest⟩
  · rw [readNumber, hscan] at hread
    cases hread
  · rw [readNumber, hscan] at hread
    have hvalue : l.value = some n := by
      simp only [bind, Except.bind] at hread
      split at hread
      · rename_i n' hn'
        cases hread
        exact hn'
      · cases hread
    subst hk
    cases hinteger : l.integer? with
    | none => simp [Literal.value, hinteger] at hvalue
    | some i =>
      obtain rfl : i = k := by simpa [Literal.value, hinteger] using hvalue
      unfold Literal.integer? at hinteger
      split at hinteger
      · dsimp only at hinteger
        split at hinteger
        · split at hinteger
          · -- a number with a sign is below zero
            rename_i _ hpos
            have hnegative := Option.some.inj hinteger
            omega
          · cases hinteger
        · split at hinteger
          · rename_i hle
            have hequal := Option.some.inj hinteger
            omega
          · cases hinteger
      · cases hinteger

theorem yields_index : Yields Record.index (· ≤ significandLimit) := by
  have hnumber : Yields (Record.numberOr "usize") fun n =>
      ∀ k : Nat, n = .integer k → k ≤ significandLimit := by
    refine yields_then fun c? => ?_
    split
    · split
      · exact yields_number
      · exact yields_of_error (unexpected_error _)
    · exact yields_of_error (unexpected_error _)
  refine yields_bind hnumber fun n hn => ?_
  split
  · exact yields_pure (hn _ rfl)
  · exact yields_fail _
  · exact yields_fail _

/-- What a whole text is read as has the property. -/
theorem run_of_yields {a : α} {text : String} (hr : Yields r P) (h : r.run text = .ok a) : P a := by
  unfold run at h
  split at h
  · cases h
  · rename_i b rest hread
    split at h
    · cases h
      exact hr _ a rest hread
    · cases h

end Reader

open Reader

/-! ## How deep values nest -/

theorem depthItems_le_iff {items : List Json} {d : Nat} :
    depthItems items ≤ d ↔ ∀ v ∈ items, v.depth ≤ d := by
  induction items with
  | nil => simp [depthItems]
  | cons v vs ih => simp [depthItems, ih]

theorem depthFields_le_iff {fields : List (String × Json)} {d : Nat} :
    depthFields fields ≤ d ↔ ∀ f ∈ fields, f.2.depth ≤ d := by
  induction fields with
  | nil => simp [depthFields]
  | cons f fs ih =>
    obtain ⟨k, v⟩ := f
    simp [depthFields, ih]

theorem depth_ofScalar (s : Scalar) : (ofScalar s).depth = 0 := by
  cases s <;> rfl

/-- Reading a field of an object adds its value. -/
theorem yields_keyed {item : Reader Json} {d : Nat} (hitem : Yields item fun v => v.depth ≤ d)
    (read : List (String × Json)) (k : String) (hread : ∀ f ∈ read, f.2.depth ≤ d) :
    Yields (keyed item read k) fun read => ∀ f ∈ read, f.2.depth ≤ d :=
  yields_then fun _ => yields_bind hitem fun _ hv =>
    yields_pure (List.forall_mem_cons.2 ⟨hv, hread⟩)

/-- A value nests one level deeper than what is read inside it. -/
theorem yields_valueWith {item : Reader Json} {d : Nat}
    (hitem : Yields item fun v => v.depth ≤ d) :
    Yields (valueWith (some item)) fun v => v.depth ≤ d + 1 := by
  refine yields_then fun c? => ?_
  split
  · exact yields_fail _
  · refine yields_bind (yields_list hitem) fun items hitems => yields_pure ?_
    have := depthItems_le_iff.2 hitems
    rw [depth]
    omega
  · refine yields_bind (yields_object (yields_keyed hitem) nofun fun read hread =>
      yields_pure (P := fun fields => ∀ f ∈ fields, f.2.depth ≤ d) fun f hf =>
        hread f (List.mem_reverse.1 hf)) fun fields hfields => yields_pure ?_
    have := depthFields_le_iff.2 hfields
    rw [depth]
    omega
  · refine yields_then fun s? => ?_
    cases s? with
    | none => exact yields_fail _
    | some s => exact yields_pure (by rw [depth_ofScalar]; omega)

/-- **What is read nests no deeper than allowed.** -/
theorem yields_value (d : Nat) : Yields (value d) fun v => v.depth ≤ d := by
  induction d with
  | zero =>
    refine yields_then fun c? => ?_
    split
    · exact yields_fail _
    · exact yields_fail _
    · exact yields_fail _
    · refine yields_then fun s? => ?_
      cases s? with
      | none => exact yields_fail _
      | some s => exact yields_pure (depth_ofScalar s).le
  | succ d ih => exact yields_valueWith ih

/-! ## Numbers that are kept -/

/-- An integer as a numeral. -/
def integerNumeral (i : Int) : Numeral := ⟨decide (i < 0), Nat.toDigits 10 i.natAbs, none, none⟩

theorem wellFormed_integerNumeral (i : Int) : (integerNumeral i).WellFormed := by
  obtain ⟨hwhole, hleading, -, -⟩ := wellFormed_indexNumeral i.natAbs
  exact ⟨hwhole, hleading, nofun, nofun⟩

theorem text_integerNumeral (i : Int) :
    (integerNumeral i).text = (Number.integer i).written.toList := by
  cases i with
  | ofNat n => exact (text_indexNumeral n).trans Nat.toList_repr.symm
  | negSucc n =>
    have hwritten : (Number.integer (.negSucc n)).written = "-" ++ Nat.repr (n + 1) := rfl
    rw [hwritten, String.toList_append, Nat.toList_repr]
    simp [integerNumeral, Numeral.text, Numeral.signText, Numeral.fractionText,
      Numeral.exponentText, Int.negSucc_lt_zero]

/-- A number that is read as itself: an integer of the size that is kept, or a double that is
reproduced. -/
def Number.Kept : Number → Prop
  | .integer i => -9223372036854775808 ≤ i ∧ i ≤ significandLimit
  | .float x => Reproduced x

theorem value_integerNumeral {i : Int} (hi : (Number.integer i).Kept) :
    (integerNumeral i).literal.value = some (.integer i) := by
  obtain ⟨hlow, hhigh⟩ := hi
  cases i with
  | ofNat n => exact value_indexNumeral (Int.ofNat_le.1 hhigh)
  | negSucc n =>
    have hfits : 0 < n + 1 ∧ n + 1 ≤ 9223372036854775808 := by omega
    have hdigits : ofDigits (Numeral.values (Nat.toDigits 10 (n + 1))) = n + 1 := by
      rw [ofDigits_values, Nat.ofDigitChars_ten_toDigits]
    simp only [integerNumeral, Numeral.literal, Literal.value, Literal.integer?, Option.map_none,
      Int.negSucc_lt_zero, decide_true, if_true, Int.natAbs_negSucc, Nat.succ_eq_add_one, hdigits,
      if_pos hfits]
    rfl

/-- A number that is kept is written as a numeral that stands for it. -/
theorem exists_numeral_of_kept {n : Number} (hn : n.Kept) :
    ∃ m : Numeral, m.WellFormed ∧ n.written.toList = m.text ∧ m.literal.value = some n := by
  cases n with
  | integer i =>
    exact ⟨integerNumeral i, wellFormed_integerNumeral i, (text_integerNumeral i).symm,
      value_integerNumeral hn⟩
  | float x =>
    rcases hstored : storedDecimal? x with _ | ⟨negative, d⟩
    · have hnone := reread?_of_none hstored
      rw [show reread? x = some x from hn] at hnone
      cases hnone
    · obtain ⟨htext, hwell⟩ := write_of_some hstored
      refine ⟨storedNumeral negative d, hwell, htext, ?_⟩
      -- the literal stands for a double, which is the one that is reread
      have hreread : reread? x = some x := hn
      rw [reread?_of_some hstored, value_storedNumeral, Option.map_map,
        Option.map_eq_some_iff] at hreread
      obtain ⟨y, hy, rfl⟩ := hreread
      rw [value_storedNumeral, hy]
      rfl

/-- A double that is reproduced is equal to itself, which what is not a number is not. -/
theorem beq_self_of_reproduced {x : Float} (h : Reproduced x) : (x == x) = true := by
  have hnan : ¬ x.isNaN = true := by
    intro hnan
    rw [Reproduced, reread?_eq_none (.inr hnan)] at h
    cases h
  change ¬ x.toModel.unpack.isNaN = true at hnan
  change (x.toModel.unpack.compare x.toModel.unpack == some .eq) = true
  cases hx : x.toModel.unpack with
  | notANumber => exact absurd (by rw [hx]; rfl) hnan
  | infinity sign => cases sign <;> rfl
  | zero sign => rfl
  | finite sign m e =>
    cases sign <;> simp [Float.Model.UnpackedFloat.compare]

mutual

/-- The numbers in a value. -/
def numbers : Json → List Number
  | .number n => [n]
  | .array items => numbersItems items
  | .object fields => numbersFields fields
  | _ => []

/-- The numbers in the items of a list. -/
def numbersItems : List Json → List Number
  | [] => []
  | v :: vs => numbers v ++ numbersItems vs

/-- The numbers in the fields of an object. -/
def numbersFields : List (String × Json) → List Number
  | [] => []
  | (_, v) :: fs => numbers v ++ numbersFields fs

end

/-! ## Values are read back -/

variable {text rest gap : List Char} {lines : List (List Char)}
variable {nested : Option (Reader Json)}

/-- What is spelt is none of what can follow a value. -/
theorem opens_of_spells {v : Json} (hv : ∀ n ∈ v.numbers, n.Kept) (h : Spells v text) :
    Opens text := by
  cases h with
  | null => exact ⟨_, _, rfl, by decide⟩
  | boolean b => cases b <;> exact ⟨_, _, rfl, by decide⟩
  | number n =>
    obtain ⟨m, hwell, htext, -⟩ := exists_numeral_of_kept (hv n (by simp [numbers]))
    rw [htext]
    exact opens_text hwell
  | string s => exact ⟨_, _, rfl, by decide⟩
  | array _ _ _ => exact ⟨_, _, rfl, by decide⟩
  | object _ _ _ => exact ⟨_, _, rfl, by decide⟩

/-- A value that opens no list and no object is the scalar that is read there. -/
theorem valueWith_scalar {s : Scalar} {c : Char} {cs : List Char} (hgap : Blank gap)
    (hblank : isBlank c = false) (hlist : c ≠ '[') (hobject : c ≠ '\x7b')
    (hscalar : scalar? c (c :: cs) = .ok (some s, rest)) :
    valueWith nested (gap ++ c :: cs) = .ok (ofScalar s, rest) := by
  unfold valueWith
  rw [bind_ok (peek_gap hgap hblank cs)]
  generalize hfirst : some c = first
  split
  · cases hfirst
  · cases hfirst
    exact absurd rfl hlist
  · cases hfirst
    exact absurd rfl hobject
  · cases hfirst
    rw [bind_ok hscalar]
    rfl

/-- Where a numeral stands, a scalar is the number it stands for. -/
theorem scalar?_number {c : Char} (hc : (c == '-' || c.isDigit) = true) {n : Number}
    {cs : List Char} (hread : readNumber cs = .ok (n, rest)) :
    scalar? c cs = .ok (some (.number n), rest) := by
  unfold scalar?
  split
  · simp at hc
  · simp at hc
  · simp at hc
  · simp at hc
  · rw [if_pos hc]
    exact bind_ok hread

theorem reads_valueWith_null : Reads (valueWith nested) "null".toList .null := by
  intro gap rest hgap _
  have hscalar : scalar? 'n' ('n' :: (['u', 'l', 'l'] ++ rest)) = .ok (some .null, rest) :=
    word_then _ 'n' ['u', 'l', 'l'] rest
  exact valueWith_scalar hgap rfl (by decide) (by decide) hscalar

theorem reads_valueWith_number {n : Number} (hn : n.Kept) :
    Reads (valueWith nested) n.written.toList (.number n) := by
  intro gap rest hgap hrest
  obtain ⟨m, hwell, htext, hvalue⟩ := exists_numeral_of_kept hn
  obtain ⟨c, cs, hcons, hc⟩ := exists_text_eq_cons hwell
  have hread := readNumber_text hwell (stops_of_ends hrest)
  rw [hvalue, hcons] at hread
  rw [htext, hcons]
  refine valueWith_scalar hgap (isBlank_of_number hc) ?_ ?_ (scalar?_number hc hread)
  · rintro rfl
    simp at hc
  · rintro rfl
    simp at hc

theorem reads_valueWith_boolean (b : Bool) :
    Reads (valueWith nested) (writtenBoolean b) (.boolean b) := by
  intro gap rest hgap _
  cases b with
  | true =>
    have hscalar : scalar? 't' ('t' :: (['r', 'u', 'e'] ++ rest)) =
        .ok (some (.boolean true), rest) := word_then _ 't' ['r', 'u', 'e'] rest
    exact valueWith_scalar hgap rfl (by decide) (by decide) hscalar
  | false =>
    have hscalar : scalar? 'f' ('f' :: (['a', 'l', 's', 'e'] ++ rest)) =
        .ok (some (.boolean false), rest) := word_then _ 'f' ['a', 'l', 's', 'e'] rest
    exact valueWith_scalar hgap rfl (by decide) (by decide) hscalar

theorem reads_valueWith_string (s : String) :
    Reads (valueWith nested) (writeString s) (.string s) := by
  intro gap rest hgap _
  have hscalar : scalar? '"' (writeString s ++ rest) = .ok (some (.string s), rest) :=
    bind_ok (string_written s rest)
  exact valueWith_scalar hgap rfl (by decide) (by decide) hscalar

/-- A list that opens is read by its items. -/
theorem reads_valueWith_array {item : Reader Json} {items : List Json} {before after : List Char}
    (hbefore : Blank before) (hafter : Blank after) (hlines : ReadsAll item lines items) :
    Reads (valueWith (some item)) (enclosed '[' ']' before after lines) (.array items) := by
  intro gap rest hgap hrest
  have hpeek : peek (gap ++ (enclosed '[' ']' before after lines ++ rest)) =
      .ok (some '[', enclosed '[' ']' before after lines ++ rest) := peek_gap hgap rfl _
  have hlist := reads_list hbefore hafter hlines gap rest hgap hrest
  rw [Record.list, bind_ok hpeek] at hlist
  unfold valueWith
  rw [bind_ok hpeek]
  exact bind_ok hlist

/-- An object that opens is read by its fields. -/
theorem reads_valueWith_object {item : Reader Json} {read : List (String × Json)}
    {before after : List Char} (hbefore : Blank before) (hafter : Blank after)
    (hsteps : Steps (keyed item) [] lines read) :
    Reads (valueWith (some item)) (enclosed '\x7b' '\x7d' before after lines)
      (.object read.reverse) := by
  intro gap rest hgap _
  have hpeek : peek (gap ++ (enclosed '\x7b' '\x7d' before after lines ++ rest)) =
      .ok (some '\x7b', enclosed '\x7b' '\x7d' before after lines ++ rest) := peek_gap hgap rfl _
  have hobject : Reader.object (keyed item) [] (fun read => pure read.reverse)
      (enclosed '\x7b' '\x7d' before after lines ++ rest) = .ok (read.reverse, rest) :=
    object_of_steps hbefore hafter hsteps (fun _ => rfl) rest
  unfold valueWith
  rw [bind_ok hpeek]
  exact bind_ok hobject

mutual

/-- **A value is read back from every spelling**, if it nests no deeper than allowed and its
numbers are kept. -/
theorem reads_value : ∀ (v : Json) (d : Nat) (text : List Char), v.depth ≤ d →
    (∀ n ∈ v.numbers, n.Kept) → Spells v text → Reads (value d) text v
  | .null, d, _, _, _, .null => by
    cases d <;> exact reads_valueWith_null
  | .boolean b, d, _, _, _, .boolean _ => by
    cases d <;> exact reads_valueWith_boolean b
  | .number n, d, _, _, hn, .number _ => by
    have hkept := hn n (by simp [numbers])
    cases d <;> exact reads_valueWith_number hkept
  | .string s, d, _, _, _, .string _ => by
    cases d <;> exact reads_valueWith_string s
  | .array items, d, _, hd, hn, .array hbefore hafter hlines => by
    rw [depth] at hd
    obtain ⟨d, rfl⟩ := Nat.exists_eq_add_of_le' (show 1 ≤ d by omega)
    exact reads_valueWith_array hbefore hafter (readsAll_values items d _ (by omega) hn hlines)
  | .object fields, d, _, hd, hn, .object hbefore hafter hlines => by
    rw [depth] at hd
    obtain ⟨d, rfl⟩ := Nat.exists_eq_add_of_le' (show 1 ≤ d by omega)
    have hsteps := steps_values fields d _ [] (by omega) hn hlines
    have hreads := reads_valueWith_object hbefore hafter hsteps
    rwa [List.append_nil, List.reverse_reverse] at hreads

theorem readsAll_values : ∀ (items : List Json) (d : Nat) (lines : List (List Char)),
    depthItems items ≤ d → (∀ n ∈ numbersItems items, n.Kept) → SpellsItems items lines →
      ReadsAll (value d) lines items
  | [], _, _, _, _, .nil => .nil
  | v :: vs, d, _, hd, hn, .cons hspells hlines => by
    rw [depthItems, Nat.max_le] at hd
    rw [numbersItems, List.forall_mem_append] at hn
    exact .cons ⟨opens_of_spells hn.1 hspells, reads_value v d _ hd.1 hn.1 hspells⟩
      (readsAll_values vs d _ hd.2 hn.2 hlines)

theorem steps_values : ∀ (fields : List (String × Json)) (d : Nat) (lines : List (List Char))
    (read : List (String × Json)), depthFields fields ≤ d →
      (∀ n ∈ numbersFields fields, n.Kept) → SpellsFields fields lines →
      Steps (keyed (value d)) read lines (fields.reverse ++ read)
  | [], _, _, _, _, _, .nil => .nil
  | (k, v) :: fs, d, _, read, hd, hn, .cons hgap hspells hlines => by
    rw [depthFields, Nat.max_le] at hd
    rw [numbersFields, List.forall_mem_append] at hn
    rw [List.reverse_cons, List.append_assoc]
    exact .cons hgap (stepReads_keyed read k (reads_value v d _ hd.1 hn.1 hspells))
      (steps_values fs d _ ((k, v) :: read) hd.2 hn.2 hlines)

end

end Json

end DialogueScript
