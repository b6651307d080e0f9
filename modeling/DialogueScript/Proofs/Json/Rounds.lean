import DialogueScript.Proofs.Json.Pieces
/-!
# Lists and objects, round by round

The loops over items and fields count their rounds down from the length of the
text. `Items` and `Entries` say what they do without a count, one round a
constructor; `list_eq_ok_iff` and `object_eq_ok_iff` tie the two together, for
every reader that `Spans` what it reads: the piece it takes off a text is read
as the same value wherever it stands, and takes at least a character.

What is proved of a list or an object is then proved by induction on its
rounds. It is read again in front of another text (`Items.again`,
`Entries.again`), and any item or value in it can be exchanged for another
(`Items.exchange`, `Entries.exchange`): the rounds in front of it are those they
were, since the pieces they take are followed by the same comma.
-/

namespace DialogueScript

namespace Json

namespace Reader

variable {α σ : Type} {a : α}
variable {text rest gap mid post cs : List Char} {c : Char} {first : Bool}

/-! ## Lists without a count -/

/-- The piece a reader takes off a text, between blanks and the rest, is read as the same value
wherever it stands. -/
def Spans (r : Reader α) : Prop :=
  ∀ cs a rest, r cs = .ok (a, rest) →
    ∃ gap text, Blank gap ∧ Opens text ∧ cs = gap ++ (text ++ rest) ∧ Reads r text a

/-- A text that stands for a value: the piece the value is read from, with blanks around it. -/
def Stands (r : Reader α) (text : List Char) (a : α) : Prop :=
  ∃ gap piece gap', Blank gap ∧ Blank gap' ∧ Opens piece ∧ text = gap ++ (piece ++ gap') ∧
    Reads r piece a

theorem stands_of_reads {r : Reader α} (htext : Opens text) (h : Reads r text a) :
    Stands r text a :=
  ⟨[], text, [], blank_nil, blank_nil, htext, by simp, h⟩

/-- The rounds of the loop over items. -/
inductive Items (item : Reader α) : Bool → List Char → List α → List Char → Prop
  | stop {first : Bool} {cs rest : List Char} :
      hasItem first cs = .ok (false, rest) → Items item first cs [] rest
  | more {first : Bool} {cs mid post rest : List Char} {x : α} {xs : List α} :
      hasItem first cs = .ok (true, mid) → item mid = .ok (x, post) →
      Items item false post xs rest → Items item first cs (x :: xs) rest

/-- Without another item the closing bracket is next. -/
theorem exists_of_hasItem_false (h : hasItem first cs = .ok (false, rest)) :
    ∃ gap tail, Blank gap ∧ cs = gap ++ ']' :: tail ∧ rest = ']' :: tail := by
  obtain ⟨gap, mid, hgap, rfl, hpeek, -⟩ := exists_gap cs
  unfold hasItem at h
  rw [bind_ok hpeek] at h
  generalize hhead : mid.head? = c? at h
  split at h
  · cases h
  · cases h
    obtain ⟨tail, rfl⟩ := List.head?_eq_some_iff.1 hhead
    exact ⟨gap, tail, hgap, rfl, rfl⟩
  · split at h
    · cases h
    · obtain ⟨_, mid', -, h⟩ := exists_of_bind h
      obtain ⟨d?, mid', -, h⟩ := exists_of_bind h
      split at h <;> cases h
  · split at h <;> cases h

/-- In front of an item stand blanks, and a comma if it is not the first. -/
theorem exists_of_hasItem_true (h : hasItem first cs = .ok (true, mid)) :
    ∃ before, cs = before ++ mid ∧ (∀ c, mid.head? = some c → isBlank c = false) ∧
      ∀ gap text rest, Blank gap → Opens text →
        hasItem first (before ++ (gap ++ (text ++ rest))) = .ok (true, text ++ rest) := by
  obtain ⟨gap, found, hgap, rfl, hpeek, hblank⟩ := exists_gap cs
  -- in front of the first item there is nothing but blanks
  have hfirst : first = true → mid = found →
      ∃ before, gap ++ found = before ++ mid ∧
        (∀ c, mid.head? = some c → isBlank c = false) ∧
        ∀ gap text rest, Blank gap → Opens text →
          hasItem first (before ++ (gap ++ (text ++ rest))) = .ok (true, text ++ rest) := by
    rintro rfl rfl
    refine ⟨gap, rfl, hblank, fun gap' text rest hgap' htext => ?_⟩
    rw [← List.append_assoc]
    exact hasItem_first (blank_append hgap hgap') htext rest
  unfold hasItem at h
  rw [bind_ok hpeek] at h
  generalize hhead : found.head? = c? at h
  split at h
  · cases h
  · cases h
  · obtain ⟨tail, rfl⟩ := List.head?_eq_some_iff.1 hhead
    split at h
    · rename_i hone
      cases h
      exact hfirst hone rfl
    · rename_i hone
      obtain ⟨_, tail', hadvance, h⟩ := exists_of_bind h
      cases hadvance
      obtain ⟨gap₁, found₁, hgap₁, htail, hpeek₁, hblank₁⟩ := exists_gap tail
      rw [List.drop_succ_cons, List.drop_zero, bind_ok hpeek₁] at h
      have hmid : mid = found₁ := by
        generalize found₁.head? = d? at h
        split at h
        · cases h
        · cases h
        · cases h
          rfl
      subst hmid
      refine ⟨gap ++ ',' :: gap₁, by simp [htail], hblank₁, fun gap' text rest hgap' htext => ?_⟩
      have hcomma := hasItem_comma (blank_append hgap₁ hgap') htext rest
      rw [Bool.not_eq_true] at hone
      rw [hone, List.append_assoc]
      unfold hasItem at hcomma ⊢
      rw [peek_bind_append hgap]
      simpa only [List.cons_append, List.append_assoc] using hcomma
  · split at h
    · rename_i hone
      cases h
      exact hfirst hone rfl
    · cases h

/-- Where a list goes on or ends behind an item, the item has ended. -/
theorem ends_of_hasItem {b : Bool} (h : hasItem false cs = .ok (b, rest)) : Ends cs := by
  obtain ⟨gap, mid, hgap, rfl, hpeek, -⟩ := exists_gap cs
  unfold hasItem at h
  rw [bind_ok hpeek] at h
  generalize hhead : mid.head? = c? at h
  split at h
  · cases h
  · obtain ⟨tail, rfl⟩ := List.head?_eq_some_iff.1 hhead
    exact ends_gap hgap (.inr (.inl rfl)) tail
  · obtain ⟨tail, rfl⟩ := List.head?_eq_some_iff.1 hhead
    exact ends_gap hgap (.inl rfl) tail
  · cases h

namespace Items

variable {item : Reader α} {xs : List α}

theorem ends (h : Items item false cs xs rest) : Ends cs := by
  cases h with
  | stop hhas => exact ends_of_hasItem hhas
  | more hhas _ _ => exact ends_of_hasItem hhas

/-- Blanks in front of the rounds change nothing. -/
theorem gap_append (hgap : Blank gap) (h : Items item first cs xs rest) :
    Items item first (gap ++ cs) xs rest := by
  have hhas : hasItem first (gap ++ cs) = hasItem first cs := peek_bind_append hgap cs
  cases h with
  | stop hstop => exact .stop (hhas.trans hstop)
  | more hmore hitem hrest => exact .more (hhas.trans hmore) hitem hrest

/-- The loop takes the rounds that there are. -/
theorem of_items {fuel : Nat} {read ys : List α}
    (h : items item fuel first read cs = .ok (ys, rest)) :
    ∃ xs, ys = read.reverse ++ xs ∧ Items item first cs xs rest := by
  induction fuel generalizing first read cs with
  | zero => cases h
  | succ fuel ih =>
    rw [items] at h
    obtain ⟨x?, post, hitem, h⟩ := exists_of_bind h
    obtain ⟨more, mid, hhas, hitem⟩ := exists_of_bind hitem
    cases more with
    | true =>
      obtain ⟨x, hx, rfl⟩ := exists_of_map hitem
      obtain ⟨xs, rfl, hxs⟩ := ih h
      exact ⟨x :: xs, by simp, .more hhas hx hxs⟩
    | false =>
      cases hitem
      cases h
      exact ⟨[], by simp, .stop hhas⟩

/-- And takes them all, if it may take one more than there are items. -/
theorem items_eq (h : Items item first cs xs rest) {fuel : Nat} (hfuel : xs.length < fuel)
    (read : List α) : items item fuel first read cs = .ok (read.reverse ++ xs, rest) := by
  induction h generalizing fuel read with
  | stop hhas =>
    obtain ⟨fuel, rfl⟩ := Nat.exists_eq_succ_of_ne_zero (Nat.ne_zero_of_lt hfuel)
    rw [items, bind_ok (item?_of_not_hasItem hhas), List.append_nil]
    rfl
  | @more first cs mid post rest x xs hhas hitem _ ih =>
    obtain ⟨fuel, rfl⟩ := Nat.exists_eq_succ_of_ne_zero (Nat.ne_zero_of_lt hfuel)
    rw [items, bind_ok (item?_of_hasItem hhas hitem)]
    dsimp only
    rw [ih (by simpa using hfuel) (x :: read)]
    simp

/-- Another reader that reads these items alike takes the same rounds. -/
theorem imp {item' : Reader α} (h : Items item first cs xs rest)
    (hitem : ∀ x ∈ xs, ∀ cs post, item cs = .ok (x, post) → item' cs = .ok (x, post)) :
    Items item' first cs xs rest := by
  induction h with
  | stop hhas => exact .stop hhas
  | more hhas hx _ ih =>
    exact .more hhas (hitem _ (by simp) _ _ hx) (ih fun x hx => hitem x (by simp [hx]))

/-- There are no more items than characters. -/
theorem length_le (hspans : Spans item) (h : Items item first cs xs rest) :
    xs.length ≤ cs.length := by
  induction h with
  | stop hhas => exact Nat.zero_le _
  | @more first cs mid post rest x xs hhas hitem _ ih =>
    obtain ⟨before, rfl, -, -⟩ := exists_of_hasItem_true hhas
    obtain ⟨gap, text, -, ⟨d, ds, rfl, -⟩, rfl, -⟩ := hspans _ _ _ hitem
    simp only [List.length_cons, List.length_append]
    omega

/-- The closing bracket is left. -/
theorem exists_rest (h : Items item first cs xs rest) : ∃ tail, rest = ']' :: tail := by
  induction h with
  | stop hhas =>
    obtain ⟨-, tail, -, -, rfl⟩ := exists_of_hasItem_false hhas
    exact ⟨tail, rfl⟩
  | more _ _ _ ih => exact ih

/-- An item and what is in front of it are read again as they were, and so is another item in its
place. -/
theorem exists_front (hspans : Spans item) (hhas : hasItem first cs = .ok (true, mid))
    {x : α} (hitem : item mid = .ok (x, post)) :
    ∃ before text, cs = before ++ (text ++ post) ∧ Stands item text x ∧
      ∀ text' x' post' xs rest, Stands item text' x' → Items item false post' xs rest →
        Items item first (before ++ (text' ++ post')) (x' :: xs) rest := by
  obtain ⟨before, rfl, hblank, hagain⟩ := exists_of_hasItem_true hhas
  obtain ⟨gap, text, hgap, htext, rfl, hreads⟩ := hspans _ _ _ hitem
  -- the blanks have been passed in looking for the item
  have hnil : gap = [] := by
    rcases gap with _ | ⟨c, gap⟩
    · rfl
    · have := hblank c rfl
      rw [hgap c (by simp)] at this
      cases this
  subst hnil
  refine ⟨before, text, rfl, stands_of_reads htext hreads, ?_⟩
  rintro text' x' post' xs rest ⟨gap, piece, gap', hgap, hgap', hpiece, rfl, hreads'⟩ hrest
  have hbehind := hrest.gap_append hgap'
  have hvalue := hreads' [] (gap' ++ post') blank_nil hbehind.ends
  have := more (hagain gap piece (gap' ++ post') hgap hpiece) hvalue hbehind
  simpa only [List.append_assoc] using this

/-- **Items are read again in front of another text behind their list.** -/
theorem again (hspans : Spans item) (h : Items item first cs xs rest) :
    ∃ text, cs = text ++ rest ∧
      ∀ tail, Items item first (text ++ ']' :: tail) xs (']' :: tail) := by
  induction h with
  | stop hhas =>
    obtain ⟨gap, tail, hgap, rfl, rfl⟩ := exists_of_hasItem_false hhas
    exact ⟨gap, rfl, fun tail' => .stop (hasItem_closing hgap _ tail')⟩
  | @more first cs mid post rest x xs hhas hitem _ ih =>
    obtain ⟨before, text, rfl, hstands, hmore⟩ := exists_front hspans hhas hitem
    obtain ⟨text', rfl, hagain⟩ := ih
    refine ⟨before ++ (text ++ text'), by simp, fun tail => ?_⟩
    have := hmore text x _ xs _ hstands (hagain tail)
    simpa only [List.append_assoc] using this

/-- **Any item can be exchanged for another**, and the rest of the list stays. -/
theorem exchange (hspans : Spans item) (h : Items item first cs xs rest) {i : Nat} {x : α}
    (hx : xs[i]? = some x) :
    ∃ before text after, cs = before ++ (text ++ after) ∧ Stands item text x ∧
      ∀ text' x', Stands item text' x' →
        Items item first (before ++ (text' ++ after)) (xs.set i x') rest := by
  induction h generalizing i with
  | stop hhas => cases hx
  | @more first cs mid post rest y xs hhas hitem hrest ih =>
    obtain ⟨before, text, rfl, hstands, hmore⟩ := exists_front hspans hhas hitem
    cases i with
    | zero =>
      cases hx
      exact ⟨before, text, post, rfl, hstands, fun text' x' hstands' =>
        hmore text' x' post xs rest hstands' hrest⟩
    | succ i =>
      obtain ⟨before', text', after, rfl, hstands', hagain⟩ := ih hx
      refine ⟨before ++ (text ++ before'), text', after, by simp, hstands', ?_⟩
      intro text'' x' hstands''
      have := hmore text y _ _ rest hstands (hagain text'' x' hstands'')
      simpa only [List.append_assoc, List.set_cons_succ] using this

end Items

theorem endList_eq_ok_iff {u : Unit} :
    endList (']' :: cs) = .ok (u, rest) ↔ rest = cs := by
  have hpeek : peek (']' :: cs) = .ok (some ']', ']' :: cs) := peek_gap blank_nil rfl _
  rw [endList, bind_ok hpeek]
  change Except.ok ((), cs) = .ok (u, rest) ↔ _
  rw [Except.ok.injEq, Prod.mk.injEq]
  exact ⟨fun h => h.2.symm, fun h => ⟨rfl, h.symm⟩⟩

/-- **A list is its items, in rounds.** -/
theorem list_eq_ok_iff {item : Reader α} (hspans : Spans item) {xs : List α} :
    list item (c :: cs) = .ok (xs, rest) ↔ Items item true cs xs (']' :: rest) := by
  have hadvance : advance (c :: cs) = .ok ((), cs) := rfl
  rw [list, bind_ok hadvance]
  constructor
  · intro h
    obtain ⟨ys, mid, hitems, h⟩ := exists_of_bind h
    obtain ⟨_, rest', hend, h⟩ := exists_of_bind h
    cases h
    obtain ⟨xs', rfl, hxs⟩ := Items.of_items hitems
    obtain ⟨tail, rfl⟩ := hxs.exists_rest
    rw [endList_eq_ok_iff] at hend
    subst hend
    exact hxs
  · intro h
    have hitems : (withFuel fun n => items item (n + 1) true []) cs = .ok (xs, ']' :: rest) :=
      h.items_eq (Nat.lt_succ_of_le (h.length_le hspans)) []
    have hend : endList (']' :: rest) = .ok ((), rest) := endList_eq_ok_iff.2 rfl
    rw [bind_ok hitems, bind_ok hend]
    rfl

/-! ## Objects without a count -/

/-- The rounds of the loop over fields, each of a key, a colon and a value. -/
inductive Entries (item : Reader α) : Bool → List Char → List (String × α) → List Char → Prop
  | stop {first : Bool} {cs rest : List Char} :
      key? first cs = .ok (none, rest) → Entries item first cs [] rest
  | more {first : Bool} {cs mid mid' post rest : List Char} {k : String} {x : α}
      {fs : List (String × α)} :
      key? first cs = .ok (some k, mid) → colon mid = .ok ((), mid') → item mid' = .ok (x, post) →
      Entries item false post fs rest → Entries item first cs ((k, x) :: fs) rest

/-- Without another field the closing brace is next. -/
theorem exists_of_hasField_false (h : hasField first cs = .ok (false, rest)) :
    ∃ gap tail, Blank gap ∧ cs = gap ++ '\x7d' :: tail ∧ rest = '\x7d' :: tail := by
  obtain ⟨gap, mid, hgap, rfl, hpeek, -⟩ := exists_gap cs
  unfold hasField at h
  rw [bind_ok hpeek] at h
  generalize hhead : mid.head? = c? at h
  split at h
  · cases h
  · cases h
    obtain ⟨tail, rfl⟩ := List.head?_eq_some_iff.1 hhead
    exact ⟨gap, tail, hgap, rfl, rfl⟩
  · split at h
    · cases h
    · obtain ⟨_, mid', -, h⟩ := exists_of_bind h
      obtain ⟨d?, mid', -, h⟩ := exists_of_bind h
      split at h <;> cases h
  · split at h
    · split at h <;> cases h
    · cases h

/-- In front of the quote that opens a key stand blanks, and a comma if it is not the first. -/
theorem exists_of_hasField_true (h : hasField first cs = .ok (true, mid)) :
    ∃ before tail, cs = before ++ mid ∧ mid = '"' :: tail ∧
      (first = false → ∀ tail, Ends (before ++ '"' :: tail)) ∧
      ∀ tail, hasField first (before ++ '"' :: tail) = .ok (true, '"' :: tail) := by
  obtain ⟨gap, found, hgap, rfl, hpeek, -⟩ := exists_gap cs
  unfold hasField at h
  rw [bind_ok hpeek] at h
  generalize hhead : found.head? = c? at h
  split at h
  · cases h
  · cases h
  · obtain ⟨tail, rfl⟩ := List.head?_eq_some_iff.1 hhead
    split at h
    · cases h
    · rename_i hone
      obtain ⟨_, tail', hadvance, h⟩ := exists_of_bind h
      cases hadvance
      obtain ⟨gap₁, found₁, hgap₁, htail, hpeek₁, -⟩ := exists_gap tail
      rw [List.drop_succ_cons, List.drop_zero, bind_ok hpeek₁] at h
      generalize hhead₁ : found₁.head? = d? at h
      split at h
      · cases h
      · cases h
        obtain ⟨tail₁, rfl⟩ := List.head?_eq_some_iff.1 hhead₁
        refine ⟨gap ++ ',' :: gap₁, tail₁, by simp [htail], rfl, fun _ tail' => ?_, fun tail' => ?_⟩
        · rw [List.append_assoc, List.cons_append]
          exact ends_gap hgap (.inl rfl) _
        · have hcomma : peek (',' :: (gap₁ ++ '"' :: tail')) =
              .ok (some ',', ',' :: (gap₁ ++ '"' :: tail')) := peek_gap blank_nil rfl _
          have hadvance : advance (',' :: (gap₁ ++ '"' :: tail')) =
              .ok ((), gap₁ ++ '"' :: tail') := rfl
          have hquote : peek (gap₁ ++ '"' :: tail') = .ok (some '"', '"' :: tail') :=
            peek_gap hgap₁ rfl _
          rw [Bool.not_eq_true] at hone
          rw [hone, List.append_assoc, List.cons_append]
          unfold hasField
          rw [peek_bind_append hgap, bind_ok hcomma]
          simp only [Bool.false_eq_true, if_false]
          rw [bind_ok hadvance, bind_ok hquote]
          rfl
      · cases h
      · cases h
  · rename_i c _ _
    obtain ⟨tail, rfl⟩ := List.head?_eq_some_iff.1 hhead
    split at h
    · rename_i hone
      split at h
      · rename_i hquote
        cases h
        have hc : c = '"' := by simpa using hquote
        subst hc
        refine ⟨gap, tail, rfl, rfl, fun hfirst => ?_, fun tail' => ?_⟩
        · rw [hone] at hfirst
          cases hfirst
        · unfold hasField
          rw [bind_ok (peek_gap hgap rfl tail')]
          simp only [hone, if_true]
          rfl
      · cases h
    · cases h

theorem exists_of_key?_none (h : key? first cs = .ok (none, rest)) :
    ∃ gap tail, Blank gap ∧ cs = gap ++ '\x7d' :: tail ∧ rest = '\x7d' :: tail := by
  obtain ⟨more, mid, hhas, h⟩ := exists_of_bind h
  cases more with
  | true =>
    obtain ⟨k, -, hk⟩ := exists_of_map h
    cases hk
  | false =>
    cases h
    exact exists_of_hasField_false hhas

/-- A key is read again as it was, with what is in front of it. -/
theorem exists_of_key?_some {k : String} (h : key? first cs = .ok (some k, mid)) :
    ∃ before, cs = before ++ mid ∧ (first = false → ∀ mid', Ends (before ++ mid')) ∧
      ∀ mid', key? first (before ++ mid') = .ok (some k, mid') := by
  obtain ⟨more, mid₁, hhas, h⟩ := exists_of_bind h
  cases more with
  | false => cases h
  | true =>
    obtain ⟨k', hstring, hk⟩ := exists_of_map h
    cases hk
    obtain ⟨before, tail, rfl, rfl, hends, hagain⟩ := exists_of_hasField_true hhas
    obtain ⟨text, rfl, hstring'⟩ := exists_of_string hstring
    refine ⟨before ++ '"' :: text, by simp, fun hfirst mid' => ?_, fun mid' => ?_⟩
    · simpa using hends hfirst (text ++ mid')
    · rw [List.append_assoc, List.cons_append, key?, bind_ok (hagain _)]
      exact map_ok (hstring' mid')

theorem exists_of_colon {u : Unit} (h : colon cs = .ok (u, mid)) :
    ∃ gap, Blank gap ∧ cs = gap ++ ':' :: mid := by
  obtain ⟨gap, found, hgap, rfl, hpeek, -⟩ := exists_gap cs
  unfold colon at h
  rw [bind_ok hpeek] at h
  generalize hhead : found.head? = c? at h
  split at h
  · obtain ⟨tail, rfl⟩ := List.head?_eq_some_iff.1 hhead
    cases h
    exact ⟨gap, hgap, rfl⟩
  · cases h
  · cases h

theorem colon_gap (hgap : Blank gap) (cs : List Char) :
    colon (gap ++ ':' :: cs) = .ok ((), cs) := by
  have hcolon := colon_append cs
  unfold colon at hcolon ⊢
  rwa [peek_bind_append hgap]

namespace Entries

variable {item : Reader α} {fs : List (String × α)}

theorem ends (h : Entries item false cs fs rest) : Ends cs := by
  cases h with
  | stop hkey =>
    obtain ⟨gap, tail, hgap, rfl, -⟩ := exists_of_key?_none hkey
    exact ends_gap hgap (.inr (.inr rfl)) tail
  | more hkey _ _ _ =>
    obtain ⟨before, rfl, hends, -⟩ := exists_of_key?_some hkey
    exact hends rfl _

/-- Blanks in front of the rounds change nothing. -/
theorem gap_append (hgap : Blank gap) (h : Entries item first cs fs rest) :
    Entries item first (gap ++ cs) fs rest := by
  have hhas : hasField first (gap ++ cs) = hasField first cs := peek_bind_append hgap cs
  have hkey : key? first (gap ++ cs) = key? first cs := by
    change Except.bind (hasField first (gap ++ cs)) _ = Except.bind (hasField first cs) _
    rw [hhas]
  cases h with
  | stop hstop => exact .stop (hkey.trans hstop)
  | more hmore hcolon hitem hrest => exact .more (hkey.trans hmore) hcolon hitem hrest

/-- Another reader that reads these values alike takes the same rounds. -/
theorem imp {item' : Reader α} (h : Entries item first cs fs rest)
    (hitem : ∀ f ∈ fs, ∀ cs post, item cs = .ok (f.2, post) → item' cs = .ok (f.2, post)) :
    Entries item' first cs fs rest := by
  induction h with
  | stop hkey => exact .stop hkey
  | @more first cs mid mid' post rest k x fs hkey hcolon hx _ ih =>
    exact .more hkey hcolon (hitem (k, x) (by simp) _ _ hx) (ih fun f hf => hitem f (by simp [hf]))

/-- There are no more fields than characters. -/
theorem length_le (hspans : Spans item) (h : Entries item first cs fs rest) :
    fs.length ≤ cs.length := by
  induction h with
  | stop hkey => exact Nat.zero_le _
  | @more first cs mid mid' post rest k x fs hkey hcolon hitem _ ih =>
    obtain ⟨before, rfl, -, -⟩ := exists_of_key?_some hkey
    obtain ⟨gap, -, rfl⟩ := exists_of_colon hcolon
    obtain ⟨gap', text, -, -, rfl, -⟩ := hspans _ _ _ hitem
    simp only [List.length_cons, List.length_append]
    omega

/-- The closing brace is left. -/
theorem exists_rest (h : Entries item first cs fs rest) : ∃ tail, rest = '\x7d' :: tail := by
  induction h with
  | stop hkey =>
    obtain ⟨-, tail, -, -, rfl⟩ := exists_of_key?_none hkey
    exact ⟨tail, rfl⟩
  | more _ _ _ _ ih => exact ih

/-- A field and what is in front of it are read again as they were, and so is the field with
another value. -/
theorem exists_front (hspans : Spans item) {mid' : List Char} {k : String} {x : α}
    (hkey : key? first cs = .ok (some k, mid)) (hcolon : colon mid = .ok ((), mid'))
    (hitem : item mid' = .ok (x, post)) :
    ∃ before text, cs = before ++ (text ++ post) ∧ Stands item text x ∧
      ∀ text' x' post' fs rest, Stands item text' x' → Entries item false post' fs rest →
        Entries item first (before ++ (text' ++ post')) ((k, x') :: fs) rest := by
  obtain ⟨before, rfl, -, hagain⟩ := exists_of_key?_some hkey
  obtain ⟨gap, hgap, rfl⟩ := exists_of_colon hcolon
  obtain ⟨gap₁, text, hgap₁, htext, rfl, hreads⟩ := hspans _ _ _ hitem
  refine ⟨before ++ (gap ++ ':' :: gap₁), text, by simp, stands_of_reads htext hreads, ?_⟩
  rintro text' x' post' fs rest ⟨gap₂, piece, gap₃, hgap₂, hgap₃, -, rfl, hreads'⟩ hrest
  have hbehind := hrest.gap_append hgap₃
  have hvalue := hreads' (gap₁ ++ gap₂) (gap₃ ++ post') (blank_append hgap₁ hgap₂) hbehind.ends
  have := more (hagain _) (colon_gap hgap _) hvalue hbehind
  simpa only [List.append_assoc, List.cons_append] using this

/-- **Fields are read again in front of another text behind their object.** -/
theorem again (hspans : Spans item) (h : Entries item first cs fs rest) :
    ∃ text, cs = text ++ rest ∧
      ∀ tail, Entries item first (text ++ '\x7d' :: tail) fs ('\x7d' :: tail) := by
  induction h with
  | stop hkey =>
    obtain ⟨gap, tail, hgap, rfl, rfl⟩ := exists_of_key?_none hkey
    exact ⟨gap, rfl, fun tail' => .stop (key?_closing hgap _ tail')⟩
  | @more first cs mid mid' post rest k x fs hkey hcolon hitem _ ih =>
    obtain ⟨before, text, rfl, hstands, hmore⟩ := exists_front hspans hkey hcolon hitem
    obtain ⟨text', rfl, hagain⟩ := ih
    refine ⟨before ++ (text ++ text'), by simp, fun tail => ?_⟩
    have := hmore text x _ fs _ hstands (hagain tail)
    simpa only [List.append_assoc] using this

/-- **The value of any field can be exchanged for another**, and the rest of the object stays. -/
theorem exchange (hspans : Spans item) (h : Entries item first cs fs rest) {i : Nat} {k : String}
    {x : α} (hx : fs[i]? = some (k, x)) :
    ∃ before text after, cs = before ++ (text ++ after) ∧ Stands item text x ∧
      ∀ text' x', Stands item text' x' →
        Entries item first (before ++ (text' ++ after)) (fs.set i (k, x')) rest := by
  induction h generalizing i with
  | stop hkey => cases hx
  | @more first cs mid mid' post rest k' y fs hkey hcolon hitem hrest ih =>
    obtain ⟨before, text, rfl, hstands, hmore⟩ := exists_front hspans hkey hcolon hitem
    cases i with
    | zero =>
      cases hx
      exact ⟨before, text, post, rfl, hstands, fun text' x' hstands' =>
        hmore text' x' post fs rest hstands' hrest⟩
    | succ i =>
      obtain ⟨before', text', after, rfl, hstands', hagain⟩ := ih hx
      refine ⟨before ++ (text ++ before'), text', after, by simp, hstands', ?_⟩
      intro text'' x' hstands''
      have := hmore text y _ _ rest hstands (hagain text'' x' hstands'')
      simpa only [List.append_assoc, List.set_cons_succ] using this

end Entries

/-- A step over a field that reads its value with a reader, and is otherwise a matter of the key
and the value. -/
def Enters (step : σ → String → Reader σ) (item : Reader α) (put : σ → String × α → Option σ) :
    Prop :=
  ∀ s k cs s' rest, step s k cs = .ok (s', rest) ↔
    ∃ mid x, colon cs = .ok ((), mid) ∧ item mid = .ok (x, rest) ∧ put s (k, x) = some s'

section Objects

variable {step : σ → String → Reader σ} {item : Reader α} {put : σ → String × α → Option σ}
variable {s s' : σ}

theorem Entries.of_fields (hstep : Enters step item put) {fuel : Nat}
    (h : fields step fuel first s cs = .ok (s', rest)) :
    ∃ fs, Entries item first cs fs rest ∧ fs.foldlM put s = some s' := by
  induction fuel generalizing first s cs with
  | zero => cases h
  | succ fuel ih =>
    rw [fields] at h
    obtain ⟨k?, mid, hkey, h⟩ := exists_of_bind h
    cases k? with
    | none =>
      cases h
      exact ⟨[], .stop hkey, rfl⟩
    | some k =>
      obtain ⟨s₁, post, hfield, hrest⟩ := exists_of_bind h
      obtain ⟨mid', x, hcolon, hitem, hput⟩ := (hstep _ _ _ _ _).1 hfield
      obtain ⟨fs, hfs, hfold⟩ := ih hrest
      refine ⟨(k, x) :: fs, .more hkey hcolon hitem hfs, ?_⟩
      rw [List.foldlM_cons, hput]
      exact hfold

theorem Entries.fields_eq (hstep : Enters step item put) {fs : List (String × α)}
    (h : Entries item first cs fs rest) (hfold : fs.foldlM put s = some s') {fuel : Nat}
    (hfuel : fs.length < fuel) : fields step fuel first s cs = .ok (s', rest) := by
  induction h generalizing fuel s with
  | stop hkey =>
    obtain ⟨fuel, rfl⟩ := Nat.exists_eq_succ_of_ne_zero (Nat.ne_zero_of_lt hfuel)
    cases hfold
    rw [fields, bind_ok hkey]
    rfl
  | @more first cs mid mid' post rest k x fs hkey hcolon hitem _ ih =>
    obtain ⟨fuel, rfl⟩ := Nat.exists_eq_succ_of_ne_zero (Nat.ne_zero_of_lt hfuel)
    rw [List.foldlM_cons] at hfold
    obtain ⟨s₁, hput, hfold⟩ := Option.bind_eq_some_iff.1 hfold
    have hfield := (hstep s k mid s₁ post).2 ⟨mid', x, hcolon, hitem, hput⟩
    rw [fields_of_key hkey, bind_ok hfield]
    exact ih hfold (by simpa using hfuel)

theorem endObject_eq_ok_iff {u : Unit} :
    endObject ('\x7d' :: cs) = .ok (u, rest) ↔ rest = cs := by
  have hpeek : peek ('\x7d' :: cs) = .ok (some '\x7d', '\x7d' :: cs) := peek_gap blank_nil rfl _
  rw [endObject, bind_ok hpeek]
  change Except.ok ((), cs) = .ok (u, rest) ↔ _
  rw [Except.ok.injEq, Prod.mk.injEq]
  exact ⟨fun h => h.2.symm, fun h => ⟨rfl, h.symm⟩⟩

/-- **An object is its fields, in rounds**, if what is made of them in the end takes nothing more
off the text. -/
theorem object_eq_ok_iff {finish : σ → Reader α} {result : σ → Option α} {item : Reader Json}
    {put : σ → String × Json → Option σ} (hspans : Spans item) (hstep : Enters step item put)
    (hfinish : ∀ s cs a rest, finish s cs = .ok (a, rest) ↔ result s = some a ∧ rest = cs) :
    object step s finish (c :: cs) = .ok (a, rest) ↔
      ∃ fs, Entries item true cs fs ('\x7d' :: rest) ∧
        (fs.foldlM put s).bind result = some a := by
  have hadvance : advance (c :: cs) = .ok ((), cs) := rfl
  rw [object, bind_ok hadvance]
  constructor
  · intro h
    obtain ⟨s', mid, hfields, h⟩ := exists_of_bind h
    obtain ⟨b, mid', hresult, h⟩ := exists_of_bind h
    obtain ⟨_, rest', hend, h⟩ := exists_of_bind h
    cases h
    obtain ⟨hb, rfl⟩ := (hfinish _ _ _ _).1 hresult
    obtain ⟨fs, hfs, hfold⟩ := Entries.of_fields hstep hfields
    obtain ⟨tail, rfl⟩ := hfs.exists_rest
    rw [endObject_eq_ok_iff] at hend
    subst hend
    exact ⟨fs, hfs, by rw [hfold]; exact hb⟩
  · rintro ⟨fs, hfs, hfold⟩
    obtain ⟨s', hfold, hb⟩ := Option.bind_eq_some_iff.1 hfold
    have hfields : (withFuel fun n => fields step (n + 1) true s) cs = .ok (s', '\x7d' :: rest) :=
      hfs.fields_eq hstep hfold (Nat.lt_succ_of_le (hfs.length_le hspans))
    have hend : endObject ('\x7d' :: rest) = .ok ((), rest) := endObject_eq_ok_iff.2 rfl
    rw [bind_ok hfields, bind_ok ((hfinish _ _ _ _).2 ⟨hb, rfl⟩), bind_ok hend]
    rfl

end Objects

/-- Fields are kept with their keys. -/
theorem enters_keyed (item : Reader α) :
    Enters (keyed item) item fun read f => some (f :: read) := by
  intro s k cs s' rest
  constructor
  · intro h
    obtain ⟨_, mid, hcolon, h⟩ := exists_of_bind h
    obtain ⟨x, post, hitem, h⟩ := exists_of_bind h
    cases h
    exact ⟨mid, x, hcolon, hitem, rfl⟩
  · rintro ⟨mid, x, hcolon, hitem, hput⟩
    cases hput
    rw [keyed, bind_ok hcolon, bind_ok hitem]
    rfl

end Reader

end Json

end DialogueScript
