import DialogueScript.Json.Record
import DialogueScript.Json.Written
import DialogueScript.Proofs.Json.Quoting
/-!
# What readers make of written texts

`Reads r text a` says that a reader reads a text as a value wherever it
stands: behind any blanks, and in front of anything that can follow a
value. `Refuses` says that it stops there with a fault. Readers are put
together of others by the two ways a step can go (`bind_ok`,
`bind_error`), so facts of this form are put together as the readers are.

Lists and objects are gone through in loops. What a loop meets is an
enclosure: lines between brackets, with blanks in front of each and in
front of the closing one, so that the compact and the pretty form are both
of this shape. `reads_list` and `object_of_steps` say what is made of an
enclosure when each line of it is read, `object_of_breaks` what when one
is refused.
-/

namespace DialogueScript

namespace Json

namespace Reader

variable {α β σ : Type} {r : Reader α} {f : α → Reader β} {a : α} {b : β} {e : Fault}
variable {text rest gap before after cs cs' : List Char} {c : Char}

/-! ## One reader after another -/

/-- A reader goes on behind what another has read. -/
theorem bind_ok (h : r cs = .ok (a, cs')) : (r >>= f) cs = f a cs' := by
  change Except.bind (r cs) (fun p => f p.1 p.2) = f a cs'
  rw [h]
  rfl

/-- Behind a fault it does not. -/
theorem bind_error (h : r cs = .error e) : (r >>= f) cs = .error e := by
  change Except.bind (r cs) (fun p => f p.1 p.2) = .error e
  rw [h]
  rfl

theorem map_ok {g : α → β} (h : r cs = .ok (a, cs')) : (g <$> r) cs = .ok (g a, cs') := by
  change Except.bind (r cs) _ = _
  rw [h]
  rfl

theorem map_error {g : α → β} (h : r cs = .error e) : (g <$> r) cs = .error e := by
  change Except.bind (r cs) _ = _
  rw [h]
  rfl

/-! ## Where values stand -/

/-- Nothing but blanks. -/
def Blank (cs : List Char) : Prop := ∀ c ∈ cs, isBlank c = true

/-- What can follow a value: nothing, a blank, a comma or a closing bracket. -/
def Ends (rest : List Char) : Prop :=
  ∀ c, rest.head? = some c → isBlank c = true ∨ c = ',' ∨ c = ']' ∨ c = '\x7d'

/-- What a value begins with: none of the above. -/
def Opens (text : List Char) : Prop :=
  ∃ c cs, text = c :: cs ∧ isBlank c = false ∧ c ≠ ',' ∧ c ≠ ']' ∧ c ≠ '\x7d'

/-- A reader reads a text as a value. -/
def Reads (r : Reader α) (text : List Char) (a : α) : Prop :=
  ∀ gap rest, Blank gap → Ends rest → r (gap ++ (text ++ rest)) = .ok (a, rest)

/-- A reader stops at a text with a fault. -/
def Refuses (r : Reader α) (text : List Char) : Prop :=
  ∀ gap rest, Blank gap → Ends rest → ∃ f, r (gap ++ (text ++ rest)) = .error f

theorem blank_nil : Blank [] := nofun

theorem blank_append (hbefore : Blank before) (hafter : Blank after) : Blank (before ++ after) :=
  fun c hc => (List.mem_append.1 hc).elim (hbefore c) (hafter c)

theorem ends_nil : Ends [] := nofun

theorem ends_comma (cs : List Char) : Ends (',' :: cs) := by
  intro c hc
  cases hc
  exact .inr (.inl rfl)

/-- A closing bracket, with blanks in front of it or none. -/
theorem ends_closing (hafter : Blank after) (hc : c = ']' ∨ c = '\x7d') (cs : List Char) :
    Ends (after ++ c :: cs) := by
  intro d hd
  cases after with
  | nil =>
    cases hd
    exact .inr (.inr hc)
  | cons b bs =>
    cases hd
    exact .inl (hafter d (by simp))

/-- A look past blanks. -/
theorem peek_gap (hgap : Blank gap) (hc : isBlank c = false) (cs : List Char) :
    peek (gap ++ c :: cs) = .ok (some c, c :: cs) := by
  have hdrop : (gap ++ c :: cs).dropWhile isBlank = c :: cs := by
    rw [List.dropWhile_append_of_pos hgap]
    simp [hc]
  unfold peek
  rw [hdrop]
  rfl

/-! ## Scalars -/

/-- The letters of a word are read off. -/
theorem word_append (w rest : List Char) : word w (w ++ rest) = .ok ((), rest) := by
  induction w with
  | nil => rfl
  | cons c w ih =>
    rw [List.cons_append, word]
    simp [ih]

/-- A word behind its first letter, and a value for it. -/
theorem word_then (a : α) (c : Char) (w rest : List Char) :
    (do advance; word w; return a : Reader α) (c :: (w ++ rest)) = .ok (a, rest) := by
  have hadvance : advance (c :: (w ++ rest)) = .ok ((), w ++ rest) := rfl
  rw [bind_ok hadvance, bind_ok (word_append w rest)]
  rfl

theorem string_written (s : String) (rest : List Char) :
    string (writeString s ++ rest) = .ok (s, rest) := by
  have hadvance : advance (writeString s ++ rest) =
      .ok ((), s.toList.flatMap writtenChar ++ '"' :: rest) := by
    simp [advance, writeString]
  rw [string, bind_ok hadvance, readString_written]

/-- **A string is read as it was written.** -/
theorem reads_string (s : String) : Reads Record.string (writeString s) s := by
  intro gap rest hgap _
  have hpeek : peek (gap ++ (writeString s ++ rest)) = .ok (some '"', writeString s ++ rest) :=
    peek_gap hgap rfl _
  rw [Record.string, stringOr, bind_ok hpeek]
  exact string_written s rest

/-- **A boolean is read as it was written.** -/
theorem reads_boolean (b : Bool) : Reads Record.boolean (writtenBoolean b) b := by
  intro gap rest hgap _
  cases b with
  | true =>
    have hpeek : peek (gap ++ (writtenBoolean true ++ rest)) =
        .ok (some 't', 't' :: (['r', 'u', 'e'] ++ rest)) := peek_gap hgap rfl _
    rw [Record.boolean, bind_ok hpeek]
    exact word_then _ _ _ rest
  | false =>
    have hpeek : peek (gap ++ (writtenBoolean false ++ rest)) =
        .ok (some 'f', 'f' :: (['a', 'l', 's', 'e'] ++ rest)) := peek_gap hgap rfl _
    rw [Record.boolean, bind_ok hpeek]
    exact word_then _ _ _ rest

/-- The word for nothing is read as nothing. -/
theorem reads_optional_null : Reads (Record.optional r) "null".toList none := by
  intro gap rest hgap _
  have hpeek : peek (gap ++ ("null".toList ++ rest)) =
      .ok (some 'n', 'n' :: (['u', 'l', 'l'] ++ rest)) := peek_gap hgap rfl _
  rw [Record.optional, bind_ok hpeek]
  exact word_then _ _ _ rest

/-- What does not begin as that word is read as a value. -/
theorem reads_optional (hreads : Reads r text a) (htext : text = c :: cs)
    (hblank : isBlank c = false) (hc : c ≠ 'n') : Reads (Record.optional r) text (some a) := by
  subst htext
  intro gap rest hgap hrest
  have hr := hreads [] rest blank_nil hrest
  rw [Record.optional, List.cons_append, bind_ok (peek_gap hgap hblank _)]
  -- the first character is kept apart, so that the case of the word can be ruled out
  generalize hfirst : some c = first
  split
  · cases hfirst
    exact absurd rfl hc
  · exact map_ok hr

/-- What is not expected is always refused. -/
theorem unexpected_error (expected : String) (cs : List Char) :
    ∃ f, (unexpected expected : Reader α) cs = .error f := by
  unfold unexpected
  rcases hpeek : peek cs with e | ⟨c?, cs'⟩
  · exact ⟨e, bind_error hpeek⟩
  rw [bind_ok hpeek]
  split
  · exact ⟨_, rfl⟩
  · exact ⟨_, rfl⟩
  · exact ⟨_, rfl⟩
  · rename_i c _ _
    rcases hscalar : scalar? c cs' with e | ⟨s?, cs''⟩
    · exact ⟨e, bind_error hscalar⟩
    rw [bind_ok hscalar]
    cases s? with
    | none => exact ⟨_, rfl⟩
    | some s => exact ⟨_, rfl⟩

/-! ## Lines between brackets -/

/-- Lines between brackets, with blanks in front of each line and in front of
the closing bracket. -/
def enclosed (opening closing : Char) (before after : List Char) (lines : List (List Char)) :
    List Char :=
  opening :: (before ++ (joined (',' :: before) lines ++ (after ++ [closing])))

/-- Lines behind the first one. -/
def following (before : List Char) (lines : List (List Char)) : List Char :=
  lines.flatMap fun l => ',' :: (before ++ l)

theorem following_cons (before line : List Char) (lines : List (List Char)) :
    following before (line :: lines) = ',' :: (before ++ (line ++ following before lines)) := by
  simp [following]

/-- The first line, and the others behind it. -/
theorem joined_cons (before line : List Char) (lines : List (List Char)) :
    joined (',' :: before) (line :: lines) = line ++ following before lines := by
  induction lines generalizing line with
  | nil => simp [joined, following]
  | cons l ls ih =>
    rw [joined, ih, following_cons]
    · simp
    · simp

theorem length_le_length_following (before : List Char) (lines : List (List Char)) :
    lines.length ≤ (following before lines).length := by
  induction lines with
  | nil => simp
  | cons l ls ih =>
    simp only [following_cons, List.length_cons, List.length_append]
    omega

/-- What follows a line can follow a value. -/
theorem ends_following (before : List Char) (hafter : Blank after) (hc : c = ']' ∨ c = '\x7d')
    (lines : List (List Char)) (cs : List Char) :
    Ends (following before lines ++ (after ++ c :: cs)) := by
  cases lines with
  | nil => exact ends_closing hafter hc cs
  | cons l ls =>
    rw [following_cons]
    exact ends_comma _

/-! ## Lists -/

/-- Lines that a reader reads as values. -/
def ReadsAll (item : Reader α) (lines : List (List Char)) (as : List α) : Prop :=
  List.Forall₂ (fun l a => Opens l ∧ Reads item l a) lines as

/-- Behind an item, the closing bracket says that there is no other. -/
theorem hasItem_closing (hafter : Blank after) (first : Bool) (rest : List Char) :
    hasItem first (after ++ ']' :: rest) = .ok (false, ']' :: rest) := by
  rw [hasItem, bind_ok (peek_gap hafter rfl _)]
  rfl

/-- The first item needs no comma. -/
theorem hasItem_first (hbefore : Blank before) (hopens : Opens text) (cs : List Char) :
    hasItem true (before ++ (text ++ cs)) = .ok (true, text ++ cs) := by
  obtain ⟨c, ds, rfl, hblank, hcomma, hclose, -⟩ := hopens
  rw [hasItem, List.cons_append, bind_ok (peek_gap hbefore hblank _)]
  simp only [if_true]
  rfl

/-- Any other has one in front of it. -/
theorem hasItem_comma (hbefore : Blank before) (hopens : Opens text) (cs : List Char) :
    hasItem false (',' :: (before ++ (text ++ cs))) = .ok (true, text ++ cs) := by
  obtain ⟨c, ds, rfl, hblank, hcomma, hclose, -⟩ := hopens
  have hpeek : peek (',' :: (before ++ (c :: ds ++ cs))) =
      .ok (some ',', ',' :: (before ++ (c :: ds ++ cs))) := peek_gap blank_nil rfl _
  have hadvance : advance (',' :: (before ++ (c :: (ds ++ cs)))) =
      .ok ((), before ++ c :: (ds ++ cs)) := rfl
  rw [hasItem, bind_ok hpeek]
  simp only [Bool.false_eq_true, if_false, List.cons_append]
  rw [bind_ok hadvance, bind_ok (peek_gap hbefore hblank _)]
  simp only
  rfl

theorem item?_of_hasItem {first : Bool} {item : Reader α}
    (hhas : hasItem first cs = .ok (true, cs')) {a : α} (hitem : item cs' = .ok (a, rest)) :
    item? first item cs = .ok (some a, rest) := by
  rw [item?, bind_ok hhas]
  exact map_ok hitem

theorem item?_of_not_hasItem {first : Bool} {item : Reader α}
    (hhas : hasItem first cs = .ok (false, cs')) : item? first item cs = .ok (none, cs') := by
  rw [item?, bind_ok hhas]
  rfl

/-- The items behind the first, up to the closing bracket. -/
theorem items_following {item : Reader α} {lines : List (List Char)} {as : List α}
    (hbefore : Blank before) (hafter : Blank after) (hlines : ReadsAll item lines as)
    (rest : List Char) (fuel : Nat) (read : List α) (hfuel : lines.length < fuel) :
    items item fuel false read (following before lines ++ (after ++ ']' :: rest)) =
      .ok (read.reverse ++ as, ']' :: rest) := by
  induction hlines generalizing fuel read with
  | nil =>
    obtain ⟨fuel, rfl⟩ := Nat.exists_eq_succ_of_ne_zero (Nat.ne_zero_of_lt hfuel)
    rw [items, following, List.flatMap_nil, List.nil_append,
      bind_ok (item?_of_not_hasItem (hasItem_closing hafter false rest)), List.append_nil]
    rfl
  | @cons l a ls as hl _ ih =>
    obtain ⟨fuel, rfl⟩ := Nat.exists_eq_succ_of_ne_zero (Nat.ne_zero_of_lt hfuel)
    have hread := hl.2 [] _ blank_nil (ends_following before hafter (.inl rfl) ls rest)
    have hhas := hasItem_comma hbefore hl.1 (following before ls ++ (after ++ ']' :: rest))
    rw [items, following_cons]
    simp only [List.cons_append, List.append_assoc]
    rw [bind_ok (item?_of_hasItem hhas hread)]
    dsimp only
    rw [ih fuel (a :: read) (by simpa using hfuel)]
    simp

/-- All items up to the closing bracket. -/
theorem items_joined {item : Reader α} {lines : List (List Char)} {as : List α}
    (hbefore : Blank before) (hafter : Blank after) (hlines : ReadsAll item lines as)
    (rest : List Char) (fuel : Nat) (hfuel : lines.length < fuel) :
    items item fuel true [] (before ++ (joined (',' :: before) lines ++ (after ++ ']' :: rest))) =
      .ok (as, ']' :: rest) := by
  obtain ⟨fuel, rfl⟩ := Nat.exists_eq_succ_of_ne_zero (Nat.ne_zero_of_lt hfuel)
  cases hlines with
  | nil =>
    -- between empty brackets the blanks of both kinds run together
    have hhas := hasItem_closing (blank_append hbefore hafter) true rest
    rw [List.append_assoc] at hhas
    rw [items, joined, List.nil_append, bind_ok (item?_of_not_hasItem hhas)]
    rfl
  | @cons l a ls as hl hls =>
    have hread := hl.2 [] _ blank_nil (ends_following before hafter (.inl rfl) ls rest)
    have hhas := hasItem_first hbefore hl.1 (following before ls ++ (after ++ ']' :: rest))
    rw [items, joined_cons, List.append_assoc, bind_ok (item?_of_hasItem hhas hread)]
    dsimp only
    rw [items_following hbefore hafter hls rest fuel [a] (by simpa using hfuel)]
    rfl

/-- There are no more lines than characters of an enclosure behind its first. -/
theorem length_le_of_enclosed (before after : List Char) (lines : List (List Char)) (c : Char)
    (rest : List Char) :
    lines.length ≤ (before ++ (joined (',' :: before) lines ++ (after ++ c :: rest))).length := by
  cases lines with
  | nil => simp
  | cons l ls =>
    have := length_le_length_following before ls
    simp only [joined_cons, List.length_append, List.length_cons]
    omega

/-- **A list is read line by line.** -/
theorem reads_list {item : Reader α} {lines : List (List Char)} {as : List α}
    (hbefore : Blank before) (hafter : Blank after) (hlines : ReadsAll item lines as) :
    Reads (Record.list item) (enclosed '[' ']' before after lines) as := by
  intro gap rest hgap _
  have hpeek : peek (gap ++ (enclosed '[' ']' before after lines ++ rest)) =
      .ok (some '[', enclosed '[' ']' before after lines ++ rest) := peek_gap hgap rfl _
  have hadvance : advance (enclosed '[' ']' before after lines ++ rest) =
      .ok ((), before ++ (joined (',' :: before) lines ++ (after ++ ']' :: rest))) := by
    simp [advance, enclosed]
  have hclosing : peek (']' :: rest) = .ok (some ']', ']' :: rest) := peek_gap blank_nil rfl _
  have hend : endList (']' :: rest) = .ok ((), rest) := by
    rw [endList, bind_ok hclosing]
    rfl
  -- the loop may take as many rounds as characters are left, and takes one a line
  have hitems : (withFuel fun n => items item (n + 1) true [])
      (before ++ (joined (',' :: before) lines ++ (after ++ ']' :: rest))) =
        .ok (as, ']' :: rest) :=
    items_joined hbefore hafter hlines rest _
      (Nat.lt_succ_of_le (length_le_of_enclosed before after lines ']' rest))
  rw [Record.list, bind_ok hpeek]
  change Reader.list item _ = _
  rw [Reader.list, bind_ok hadvance, bind_ok hitems, bind_ok hend]
  rfl

/-! ## Objects -/

/-- The line of a field. -/
def fieldLine (k : String) (gap text : List Char) : List Char :=
  writeString k ++ ':' :: (gap ++ text)

/-- A step takes a field into account. -/
def StepReads (step : σ → String → Reader σ) (s : σ) (k : String) (text : List Char) (s' : σ) :
    Prop :=
  ∀ gap rest, Blank gap → Ends rest → step s k (':' :: (gap ++ (text ++ rest))) = .ok (s', rest)

/-- A step stops at a field with a fault. -/
def StepRefuses (step : σ → String → Reader σ) (s : σ) (k : String) (text : List Char) : Prop :=
  ∀ gap rest, Blank gap → Ends rest →
    ∃ f, step s k (':' :: (gap ++ (text ++ rest))) = .error f

/-- Lines of fields that are all taken into account, one after the other. -/
inductive Steps (step : σ → String → Reader σ) : σ → List (List Char) → σ → Prop
  | nil {s : σ} : Steps step s [] s
  | cons {s s₁ s' : σ} {k : String} {gap text : List Char} {lines : List (List Char)} :
      Blank gap → StepReads step s k text s₁ → Steps step s₁ lines s' →
      Steps step s (fieldLine k gap text :: lines) s'

/-- Lines of fields one of which is refused when those in front of it have been
taken into account. -/
inductive Breaks (step : σ → String → Reader σ) : σ → List (List Char) → Prop
  | here {s : σ} {k : String} {gap text : List Char} {lines : List (List Char)} :
      Blank gap → StepRefuses step s k text → Breaks step s (fieldLine k gap text :: lines)
  | later {s s₁ : σ} {k : String} {gap text : List Char} {lines : List (List Char)} :
      Blank gap → StepReads step s k text s₁ → Breaks step s₁ lines →
      Breaks step s (fieldLine k gap text :: lines)

variable {step : σ → String → Reader σ} {s s' : σ} {lines : List (List Char)}

theorem colon_append (cs : List Char) : colon (':' :: cs) = .ok ((), cs) := by
  have hpeek : peek (':' :: cs) = .ok (some ':', ':' :: cs) := peek_gap blank_nil rfl _
  rw [colon, bind_ok hpeek]
  rfl

/-- Behind a field, the closing brace says that there is no other. -/
theorem key?_closing (hafter : Blank after) (first : Bool) (rest : List Char) :
    key? first (after ++ '\x7d' :: rest) = .ok (none, '\x7d' :: rest) := by
  have hhas : hasField first (after ++ '\x7d' :: rest) = .ok (false, '\x7d' :: rest) := by
    rw [hasField, bind_ok (peek_gap hafter rfl _)]
    rfl
  rw [key?, bind_ok hhas]
  rfl

/-- The first key needs no comma. -/
theorem key?_first (hbefore : Blank before) (k : String) (cs : List Char) :
    key? true (before ++ (writeString k ++ cs)) = .ok (some k, cs) := by
  have hpeek : peek (before ++ (writeString k ++ cs)) = .ok (some '"', writeString k ++ cs) :=
    peek_gap hbefore rfl _
  have hhas : hasField true (before ++ (writeString k ++ cs)) = .ok (true, writeString k ++ cs) := by
    rw [hasField, bind_ok hpeek]
    rfl
  rw [key?, bind_ok hhas]
  exact map_ok (string_written k cs)

/-- Any other has one in front of it. -/
theorem key?_comma (hbefore : Blank before) (k : String) (cs : List Char) :
    key? false (',' :: (before ++ (writeString k ++ cs))) = .ok (some k, cs) := by
  have hcomma : peek (',' :: (before ++ (writeString k ++ cs))) =
      .ok (some ',', ',' :: (before ++ (writeString k ++ cs))) := peek_gap blank_nil rfl _
  have hadvance : advance (',' :: (before ++ (writeString k ++ cs))) =
      .ok ((), before ++ (writeString k ++ cs)) := rfl
  have hpeek : peek (before ++ (writeString k ++ cs)) = .ok (some '"', writeString k ++ cs) :=
    peek_gap hbefore rfl _
  have hhas : hasField false (',' :: (before ++ (writeString k ++ cs))) =
      .ok (true, writeString k ++ cs) := by
    rw [hasField, bind_ok hcomma]
    simp only [Bool.false_eq_true, if_false]
    rw [bind_ok hadvance, bind_ok hpeek]
    rfl
  rw [key?, bind_ok hhas]
  exact map_ok (string_written k cs)

/-- A round of the loop over fields: a key, and then the step. -/
theorem fields_of_key {first : Bool} {k : String} (hkey : key? first cs = .ok (some k, cs'))
    (fuel : Nat) : fields step (fuel + 1) first s cs =
      (step s k >>= fun s => fields step fuel false s) cs' := by
  rw [fields, bind_ok hkey]

/-- The end of the loop. -/
theorem fields_closing (step : σ → String → Reader σ) (hafter : Blank after) (first : Bool)
    (fuel : Nat) (s : σ) (rest : List Char) :
    fields step (fuel + 1) first s (after ++ '\x7d' :: rest) = .ok (s, '\x7d' :: rest) := by
  rw [fields, bind_ok (key?_closing hafter first rest)]
  rfl

/-- The fields behind the first, up to the closing brace. -/
theorem fields_following (hbefore : Blank before) (hafter : Blank after)
    (hsteps : Steps step s lines s') (rest : List Char) (fuel : Nat)
    (hfuel : lines.length < fuel) :
    fields step fuel false s (following before lines ++ (after ++ '\x7d' :: rest)) =
      .ok (s', '\x7d' :: rest) := by
  induction hsteps generalizing fuel with
  | nil =>
    obtain ⟨fuel, rfl⟩ := Nat.exists_eq_succ_of_ne_zero (Nat.ne_zero_of_lt hfuel)
    exact fields_closing step hafter false fuel _ rest
  | @cons s s₁ s' k gap text lines hgap hstep _ ih =>
    obtain ⟨fuel, rfl⟩ := Nat.exists_eq_succ_of_ne_zero (Nat.ne_zero_of_lt hfuel)
    have hread := hstep gap _ hgap (ends_following before hafter (.inr rfl) lines rest)
    rw [following_cons, fieldLine]
    simp only [List.cons_append, List.append_assoc]
    rw [fields_of_key (key?_comma hbefore k _), bind_ok hread]
    exact ih fuel (by simpa using hfuel)

/-- A refused field behind the first stops the loop. -/
theorem fields_following_error (hbefore : Blank before) (hafter : Blank after)
    (hbreaks : Breaks step s lines) (rest : List Char) (fuel : Nat)
    (hfuel : lines.length < fuel) :
    ∃ f, fields step fuel false s (following before lines ++ (after ++ '\x7d' :: rest)) =
      .error f := by
  induction hbreaks generalizing fuel with
  | @here s k gap text lines hgap hstep =>
    obtain ⟨fuel, rfl⟩ := Nat.exists_eq_succ_of_ne_zero (Nat.ne_zero_of_lt hfuel)
    obtain ⟨f, hf⟩ :=
      hstep gap _ hgap (ends_following before hafter (.inr rfl) lines rest)
    refine ⟨f, ?_⟩
    rw [following_cons, fieldLine]
    simp only [List.cons_append, List.append_assoc]
    rw [fields_of_key (key?_comma hbefore k _), bind_error hf]
  | @later s s₁ k gap text lines hgap hstep _ ih =>
    obtain ⟨fuel, rfl⟩ := Nat.exists_eq_succ_of_ne_zero (Nat.ne_zero_of_lt hfuel)
    have hread := hstep gap _ hgap (ends_following before hafter (.inr rfl) lines rest)
    rw [following_cons, fieldLine]
    simp only [List.cons_append, List.append_assoc]
    rw [fields_of_key (key?_comma hbefore k _), bind_ok hread]
    exact ih fuel (by simpa using hfuel)

/-- All fields up to the closing brace. -/
theorem fields_joined (hbefore : Blank before) (hafter : Blank after)
    (hsteps : Steps step s lines s') (rest : List Char) (fuel : Nat)
    (hfuel : lines.length < fuel) :
    fields step fuel true s
      (before ++ (joined (',' :: before) lines ++ (after ++ '\x7d' :: rest))) =
      .ok (s', '\x7d' :: rest) := by
  obtain ⟨fuel, rfl⟩ := Nat.exists_eq_succ_of_ne_zero (Nat.ne_zero_of_lt hfuel)
  cases hsteps with
  | nil =>
    have hclosing := fields_closing step (blank_append hbefore hafter) true fuel s rest
    rw [List.append_assoc] at hclosing
    rwa [joined, List.nil_append]
  | @cons _ s₁ _ k gap text lines hgap hstep hsteps =>
    have hread := hstep gap _ hgap (ends_following before hafter (.inr rfl) lines rest)
    rw [joined_cons, fieldLine]
    simp only [List.cons_append, List.append_assoc]
    rw [fields_of_key (key?_first hbefore k _), bind_ok hread]
    exact fields_following hbefore hafter hsteps rest fuel (by simpa using hfuel)

/-- A refused field stops the loop. -/
theorem fields_joined_error (hbefore : Blank before) (hafter : Blank after)
    (hbreaks : Breaks step s lines) (rest : List Char) (fuel : Nat)
    (hfuel : lines.length < fuel) :
    ∃ f, fields step fuel true s
      (before ++ (joined (',' :: before) lines ++ (after ++ '\x7d' :: rest))) = .error f := by
  obtain ⟨fuel, rfl⟩ := Nat.exists_eq_succ_of_ne_zero (Nat.ne_zero_of_lt hfuel)
  cases hbreaks with
  | @here _ k gap text lines hgap hstep =>
    obtain ⟨f, hf⟩ :=
      hstep gap _ hgap (ends_following before hafter (.inr rfl) lines rest)
    refine ⟨f, ?_⟩
    rw [joined_cons, fieldLine]
    simp only [List.cons_append, List.append_assoc]
    rw [fields_of_key (key?_first hbefore k _), bind_error hf]
  | @later _ s₁ k gap text lines hgap hstep hbreaks =>
    have hread := hstep gap _ hgap (ends_following before hafter (.inr rfl) lines rest)
    rw [joined_cons, fieldLine]
    simp only [List.cons_append, List.append_assoc]
    rw [fields_of_key (key?_first hbefore k _), bind_ok hread]
    exact fields_following_error hbefore hafter hbreaks rest fuel (by simpa using hfuel)

theorem advance_enclosed (before after : List Char) (lines : List (List Char))
    (rest : List Char) :
    advance (enclosed '\x7b' '\x7d' before after lines ++ rest) =
      .ok ((), before ++ (joined (',' :: before) lines ++ (after ++ '\x7d' :: rest))) := by
  simp [advance, enclosed]

/-- **An object is read field by field.** -/
theorem object_of_steps {finish : σ → Reader α} (hbefore : Blank before) (hafter : Blank after)
    (hsteps : Steps step s lines s') (hfinish : ∀ cs, finish s' cs = .ok (a, cs))
    (rest : List Char) :
    object step s finish (enclosed '\x7b' '\x7d' before after lines ++ rest) = .ok (a, rest) := by
  have hclosing : peek ('\x7d' :: rest) = .ok (some '\x7d', '\x7d' :: rest) :=
    peek_gap blank_nil rfl _
  have hend : endObject ('\x7d' :: rest) = .ok ((), rest) := by
    rw [endObject, bind_ok hclosing]
    rfl
  have hfields : (withFuel fun n => fields step (n + 1) true s)
      (before ++ (joined (',' :: before) lines ++ (after ++ '\x7d' :: rest))) =
        .ok (s', '\x7d' :: rest) :=
    fields_joined hbefore hafter hsteps rest _
      (Nat.lt_succ_of_le (length_le_of_enclosed before after lines '\x7d' rest))
  rw [object, bind_ok (advance_enclosed before after lines rest), bind_ok hfields,
    bind_ok (hfinish _), bind_ok hend]
  rfl

/-- **A refused field stops the reading of an object.** -/
theorem object_of_breaks {finish : σ → Reader α} (hbefore : Blank before) (hafter : Blank after)
    (hbreaks : Breaks step s lines) (rest : List Char) :
    ∃ f, object step s finish (enclosed '\x7b' '\x7d' before after lines ++ rest) = .error f := by
  obtain ⟨f, hf⟩ := fields_joined_error hbefore hafter hbreaks rest _
    (Nat.lt_succ_of_le (length_le_of_enclosed before after lines '\x7d' rest))
  refine ⟨f, ?_⟩
  rw [object, bind_ok (advance_enclosed before after lines rest)]
  exact bind_error hf

/-! ## Records -/

/-- A record that stands as an object is read as one. -/
theorem record_object {fromObject fromList : Reader α} (expected : String) (hgap : Blank gap)
    (lines : List (List Char)) (rest : List Char) :
    Record.record expected fromObject fromList
        (gap ++ (enclosed '\x7b' '\x7d' before after lines ++ rest)) =
      fromObject (enclosed '\x7b' '\x7d' before after lines ++ rest) := by
  have hpeek : peek (gap ++ (enclosed '\x7b' '\x7d' before after lines ++ rest)) =
      .ok (some '\x7b', enclosed '\x7b' '\x7d' before after lines ++ rest) := peek_gap hgap rfl _
  rw [Record.record, bind_ok hpeek]
  rfl

/-- **A record is read field by field.** -/
theorem reads_record {finish : σ → Reader α} {fromList : Reader α} {expected : String}
    (hbefore : Blank before) (hafter : Blank after) (hsteps : Steps step s lines s')
    (hfinish : ∀ cs, finish s' cs = .ok (a, cs)) :
    Reads (Record.record expected (object step s finish) fromList)
      (enclosed '\x7b' '\x7d' before after lines) a := by
  intro gap rest hgap _
  rw [record_object expected hgap]
  exact object_of_steps hbefore hafter hsteps hfinish rest

/-- **A refused field stops the reading of a record.** -/
theorem refuses_record {finish : σ → Reader α} {fromList : Reader α} {expected : String}
    (hbefore : Blank before) (hafter : Blank after) (hbreaks : Breaks step s lines) :
    Refuses (Record.record expected (object step s finish) fromList)
      (enclosed '\x7b' '\x7d' before after lines) := by
  intro gap rest hgap _
  rw [record_object expected hgap]
  exact object_of_breaks hbefore hafter hbreaks rest

/-- The value of a field goes into its slot. -/
theorem slot_empty (name : String) (hreads : Reads r text a) (hgap : Blank gap)
    (hrest : Ends rest) :
    Record.slot name none r (':' :: (gap ++ (text ++ rest))) = .ok (some a, rest) := by
  rw [Record.slot]
  simp only [Option.isSome_none, Bool.false_eq_true, if_false]
  rw [bind_ok (colon_append _)]
  exact map_ok (hreads gap rest hgap hrest)

theorem slot_refuses (name : String) (hrefuses : Refuses r text) (hgap : Blank gap)
    (hrest : Ends rest) :
    ∃ f, Record.slot name none r (':' :: (gap ++ (text ++ rest))) = .error f := by
  obtain ⟨f, hf⟩ := hrefuses gap rest hgap hrest
  refine ⟨f, ?_⟩
  rw [Record.slot]
  simp only [Option.isSome_none, Bool.false_eq_true, if_false]
  rw [bind_ok (colon_append _)]
  exact map_error hf

/-- A step that fills the empty slot of its field. -/
theorem stepReads_slot {k name : String} (put : Option α → σ)
    (hstep : step s k = (do return put (← Record.slot name none r))) (hreads : Reads r text a) :
    StepReads step s k text (put (some a)) := by
  intro gap rest hgap hrest
  rw [hstep, bind_ok (slot_empty name hreads hgap hrest)]
  rfl

theorem stepRefuses_slot {k name : String} (put : Option α → σ)
    (hstep : step s k = (do return put (← Record.slot name none r))) (hrefuses : Refuses r text) :
    StepRefuses step s k text := by
  intro gap rest hgap hrest
  obtain ⟨f, hf⟩ := slot_refuses name hrefuses hgap hrest
  exact ⟨f, by rw [hstep, bind_error hf]⟩

/-! ## Objects whose keys are data -/

/-- The step that keeps a key with the value a reader reads behind it. -/
def keyed (item : Reader α) (read : List (String × α)) (k : String) :
    Reader (List (String × α)) := do
  colon
  let v ← item
  return (k, v) :: read

theorem stepReads_keyed (read : List (String × α)) (k : String) (hreads : Reads r text a) :
    StepReads (keyed r) read k text ((k, a) :: read) := by
  intro gap rest hgap hrest
  rw [keyed, bind_ok (colon_append _), bind_ok (hreads gap rest hgap hrest)]
  rfl

theorem stepRefuses_keyed (read : List (String × α)) (k : String) (hrefuses : Refuses r text) :
    StepRefuses (keyed r) read k text := by
  intro gap rest hgap hrest
  obtain ⟨f, hf⟩ := hrefuses gap rest hgap hrest
  exact ⟨f, by rw [keyed, bind_ok (colon_append _), bind_error hf]⟩

theorem mapping_enclosed (hgap : Blank gap) (lines : List (List Char)) (rest : List Char) :
    Record.mapping r (gap ++ (enclosed '\x7b' '\x7d' before after lines ++ rest)) =
      object (keyed r) [] (fun read => pure read.reverse)
        (enclosed '\x7b' '\x7d' before after lines ++ rest) := by
  have hpeek : peek (gap ++ (enclosed '\x7b' '\x7d' before after lines ++ rest)) =
      .ok (some '\x7b', enclosed '\x7b' '\x7d' before after lines ++ rest) := peek_gap hgap rfl _
  rw [Record.mapping, bind_ok hpeek]
  rfl

/-- **An object whose keys are data is read field by field.** -/
theorem reads_mapping {read : List (String × α)} (hbefore : Blank before) (hafter : Blank after)
    (hsteps : Steps (keyed r) [] lines read) :
    Reads (Record.mapping r) (enclosed '\x7b' '\x7d' before after lines) read.reverse := by
  intro gap rest hgap _
  rw [mapping_enclosed hgap]
  exact object_of_steps hbefore hafter hsteps (fun _ => rfl) rest

theorem refuses_mapping (hbefore : Blank before) (hafter : Blank after)
    (hbreaks : Breaks (keyed r) [] lines) :
    Refuses (Record.mapping r) (enclosed '\x7b' '\x7d' before after lines) := by
  intro gap rest hgap _
  rw [mapping_enclosed hgap]
  exact object_of_breaks hbefore hafter hbreaks rest

/-! ## Whole texts -/

/-- A text that a reader reads as a value is that value. -/
theorem run_of_reads (h : Reads r text a) : r.run (String.ofList text) = .ok a := by
  have hread := h [] [] blank_nil ends_nil
  rw [List.append_nil, List.nil_append] at hread
  rw [run, String.toList_ofList, hread]
  rfl

theorem run_of_refuses (h : Refuses r text) : ∃ f, r.run (String.ofList text) = .error f := by
  obtain ⟨f, hf⟩ := h [] [] blank_nil ends_nil
  rw [List.append_nil, List.nil_append] at hf
  exact ⟨f, by rw [run, String.toList_ofList, hf]⟩

end Reader

end Json

end DialogueScript
