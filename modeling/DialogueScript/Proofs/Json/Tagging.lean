import DialogueScript.Json.Tagged
import DialogueScript.Proofs.Json.Values
/-!
# Tagged values, taken apart and put together

Taken apart, a tagged value gives nothing that was not in it: its body holds
members of the value, and what a form's fields are decoded from are values of
the body (`exists_of_one`, `exists_of_two`, `exists_of_three`). This is so in
either notation, so whoever decodes a tagged value need not ask which it was.

Put together, a tagged value is an object with the tag in front. Such a value
`Carries` its form and fields, and is taken apart into them again, as a value
(`splitTag_of_carries`) and at the root of a text (`reads_readTagged`).
-/

namespace DialogueScript

namespace Json

open Reader

variable {α β γ σ τ ε : Type}

/-! ## Steps that can be refused -/

theorem ok_bind (a : α) (f : α → Except ε β) : Except.ok a >>= f = f a := rfl

/-- A step behind another was taken with what the first one gave. -/
theorem exists_of_bind_ok {x : Except ε α} {f : α → Except ε β} {b : β} (h : x >>= f = .ok b) :
    ∃ a, x = .ok a ∧ f a = .ok b := by
  cases x with
  | error e => cases h
  | ok a => exact ⟨a, rfl, h⟩

theorem exists_of_map_ok {x : Except ε α} {g : α → β} {b : β} (h : g <$> x = .ok b) :
    ∃ a, x = .ok a ∧ g a = b := by
  cases x with
  | error e => cases h
  | ok a =>
    cases h
    exact ⟨a, rfl, rfl⟩

/-- What each step of a loop preserves, the loop does. -/
theorem foldlM_invariant {f : σ → α → Except ε σ} (I : σ → Prop) {l : List α} {s s' : σ}
    (hstep : ∀ s a s', a ∈ l → I s → f s a = .ok s' → I s') (hs : I s)
    (h : l.foldlM f s = .ok s') : I s' := by
  induction l generalizing s with
  | nil =>
    cases h
    exact hs
  | cons a l ih =>
    rw [List.foldlM_cons] at h
    obtain ⟨s₁, hfirst, hrest⟩ := exists_of_bind_ok h
    have hs₁ := hstep s a s₁ (by simp) hs hfirst
    exact ih (fun s a s' ha => hstep s a s' (by simp [ha])) hs₁ hrest

/-- Each item of a list was decoded from one. -/
theorem exists_of_mem_mapM {f : α → Except ε β} {l : List α} {bs : List β}
    (h : l.mapM f = .ok bs) : ∀ b ∈ bs, ∃ a ∈ l, f a = .ok b := by
  induction l generalizing bs with
  | nil =>
    cases h
    nofun
  | cons a l ih =>
    rw [List.mapM_cons] at h
    obtain ⟨b, hfirst, h⟩ := exists_of_bind_ok h
    obtain ⟨bs', hrest, h⟩ := exists_of_bind_ok h
    cases h
    intro b' hb'
    rcases List.mem_cons.1 hb' with rfl | hb'
    · exact ⟨a, by simp, hfirst⟩
    · obtain ⟨a', ha', hdecoded⟩ := ih hrest b' hb'
      exact ⟨a', by simp [ha'], hdecoded⟩

theorem mapM_ok {f : α → Except ε β} {g : β → α} {bs : List β}
    (h : ∀ b ∈ bs, f (g b) = .ok b) : (bs.map g).mapM f = .ok bs := by
  induction bs with
  | nil => rfl
  | cons b bs ih =>
    rw [List.map_cons, List.mapM_cons, h b (by simp), ih fun b hb => h b (by simp [hb])]
    rfl

/-! ## Members and bodies -/

/-- The values right inside a list or an object. -/
def members : Json → List Json
  | .array items => items
  | .object fields => fields.map (·.2)
  | _ => []

theorem depth_lt_of_mem_members {v x : Json} (h : x ∈ v.members) : x.depth < v.depth := by
  cases v with
  | array items =>
    have : x.depth ≤ depthItems items := depthItems_le_iff.1 le_rfl x h
    rw [depth]
    omega
  | object fields =>
    obtain ⟨f, hf, rfl⟩ := List.mem_map.1 h
    have := depthFields_le_iff.1 le_rfl f hf
    rw [depth]
    omega
  | null => cases h
  | boolean b => cases h
  | number n => cases h
  | string s => cases h

/-- The values in a body. -/
def Body.values : Body → List Json
  | .named fields => fields.map (·.2)
  | .positional items => items

/-- A body holds members of the value it is the rest of. -/
theorem mem_members_of_splitTag {tagName expected : String} {ofTag : Tag → Except Mismatch τ}
    {v : Json} {form : τ} {body : Body} (h : splitTag tagName expected ofTag v = .ok (form, body))
    {x : Json} (hx : x ∈ body.values) : x ∈ v.members := by
  cases v with
  | array items =>
    cases items with
    | nil => cases h
    | cons tag rest =>
      obtain ⟨t, -, h⟩ := exists_of_bind_ok h
      obtain ⟨f, -, h⟩ := exists_of_bind_ok h
      cases h
      exact List.mem_cons_of_mem tag hx
  | object fields =>
    simp only [splitTag] at h
    split at h
    · cases h
    · obtain ⟨t, -, h⟩ := exists_of_bind_ok h
      obtain ⟨f, -, h⟩ := exists_of_bind_ok h
      split at h
      · cases h
        exact List.map_subset _ (List.filter_subset_self fields) hx
      · cases h
  | null => cases h
  | boolean b => cases h
  | number n => cases h
  | string s => cases h

/-- So it nests less deep. -/
theorem exists_depth_of_splitTag {tagName expected : String} {ofTag : Tag → Except Mismatch τ}
    {v : Json} {form : τ} {body : Body}
    (h : splitTag tagName expected ofTag v = .ok (form, body)) :
    ∃ d, v.depth = d + 1 ∧ ∀ x ∈ body.values, x.depth ≤ d := by
  have hpos : 0 < v.depth := by
    cases v with
    | array items => exact Nat.add_pos_left Nat.one_pos _
    | object fields => exact Nat.add_pos_left Nat.one_pos _
    | null => cases h
    | boolean b => cases h
    | number n => cases h
    | string s => cases h
  refine ⟨v.depth - 1, by omega, fun x hx => ?_⟩
  have := depth_lt_of_mem_members (mem_members_of_splitTag h hx)
  omega

/-! ## Fields are decoded from values of the body -/

namespace Fields

variable {form : String} {a : Field α} {b : Field β} {c : Field γ} {body : Body}

/-- A slot that is empty or holds what was decoded from one of some values. -/
def Filled (a : Field α) (values : List Json) (slot : Option α) : Prop :=
  ∀ x, slot = some x → ∃ v ∈ values, a.decode v = .ok x

theorem filled_none (values : List Json) : Filled a values none := nofun

theorem filled_fill {values : List Json} {slot slot' : Option α} {v : Json} (hv : v ∈ values)
    (h : a.fill slot v = .ok slot') : Filled a values slot' := by
  cases slot with
  | some x => cases h
  | none =>
    obtain ⟨x, hx, rfl⟩ := exists_of_map_ok h
    rintro y ⟨⟩
    exact ⟨v, hv, hx⟩

/-- What is required of a slot is what it holds. -/
theorem exists_of_require {values : List Json} {slot : Option α} {x : α}
    (hslot : Filled a values slot) (h : a.require slot = .ok x) :
    ∃ v ∈ values, a.decode v = .ok x := by
  cases slot with
  | none => cases h
  | some y =>
    cases h
    exact hslot x rfl

theorem exists_of_atIndex {items : List Json} {i : Nat} {expected : String} {x : α}
    (h : a.atIndex items i expected = .ok x) : ∃ v ∈ items, a.decode v = .ok x := by
  unfold Field.atIndex at h
  split at h
  · rename_i v hv
    exact ⟨v, List.mem_of_getElem? hv, h⟩
  · cases h

/-- The value of a form's only field. -/
theorem exists_of_one {x : α} (h : one form a body = .ok x) :
    ∃ v ∈ body.values, a.decode v = .ok x := by
  cases body with
  | named fields =>
    obtain ⟨slot, hfold, h⟩ := exists_of_bind_ok h
    refine exists_of_require (foldlM_invariant (Filled a _) ?_ (filled_none _) hfold) h
    -- a member fills the slot of its key, or leaves it if there is none of that name
    rintro s ⟨k, v⟩ s' hmem hs hstep
    have hv := List.mem_map_of_mem (f := Prod.snd) hmem
    simp only at hstep
    split at hstep
    · exact filled_fill hv hstep
    · cases hstep
      exact hs
  | positional items =>
    obtain ⟨y, hy, h⟩ := exists_of_bind_ok h
    obtain ⟨-, -, h⟩ := exists_of_bind_ok h
    cases h
    exact exists_of_atIndex hy

/-- The values of a form's two fields. -/
theorem exists_of_two {x : α} {y : β} (h : two form a b body = .ok (x, y)) :
    (∃ v ∈ body.values, a.decode v = .ok x) ∧ ∃ v ∈ body.values, b.decode v = .ok y := by
  cases body with
  | named fields =>
    obtain ⟨⟨s, t⟩, hfold, h⟩ := exists_of_bind_ok h
    have hfilled := foldlM_invariant
      (fun s => Filled a (fields.map Prod.snd) s.1 ∧ Filled b (fields.map Prod.snd) s.2) ?_
      ⟨filled_none _, filled_none _⟩ hfold
    · obtain ⟨x', hx, h⟩ := exists_of_bind_ok h
      obtain ⟨y', hy, h⟩ := exists_of_bind_ok h
      cases h
      exact ⟨exists_of_require hfilled.1 hx, exists_of_require hfilled.2 hy⟩
    rintro ⟨s, t⟩ ⟨k, v⟩ s' hmem ⟨hs, ht⟩ hstep
    have hv := List.mem_map_of_mem (f := Prod.snd) hmem
    simp only at hstep
    split at hstep
    · obtain ⟨s₁, hfill, hstep⟩ := exists_of_bind_ok hstep
      cases hstep
      exact ⟨filled_fill hv hfill, ht⟩
    · split at hstep
      · obtain ⟨t₁, hfill, hstep⟩ := exists_of_bind_ok hstep
        cases hstep
        exact ⟨hs, filled_fill hv hfill⟩
      · cases hstep
        exact ⟨hs, ht⟩
  | positional items =>
    obtain ⟨x', hx, h⟩ := exists_of_bind_ok h
    obtain ⟨y', hy, h⟩ := exists_of_bind_ok h
    obtain ⟨-, -, h⟩ := exists_of_bind_ok h
    cases h
    exact ⟨exists_of_atIndex hx, exists_of_atIndex hy⟩

/-- The values of a form's three fields. -/
theorem exists_of_three {x : α} {y : β} {z : γ} (h : three form a b c body = .ok (x, y, z)) :
    (∃ v ∈ body.values, a.decode v = .ok x) ∧ (∃ v ∈ body.values, b.decode v = .ok y) ∧
      ∃ v ∈ body.values, c.decode v = .ok z := by
  cases body with
  | named fields =>
    obtain ⟨⟨s, t, u⟩, hfold, h⟩ := exists_of_bind_ok h
    have hfilled := foldlM_invariant
      (fun s => Filled a (fields.map Prod.snd) s.1 ∧ Filled b (fields.map Prod.snd) s.2.1 ∧
        Filled c (fields.map Prod.snd) s.2.2) ?_
      ⟨filled_none _, filled_none _, filled_none _⟩ hfold
    · obtain ⟨x', hx, h⟩ := exists_of_bind_ok h
      obtain ⟨y', hy, h⟩ := exists_of_bind_ok h
      obtain ⟨z', hz, h⟩ := exists_of_bind_ok h
      cases h
      exact ⟨exists_of_require hfilled.1 hx, exists_of_require hfilled.2.1 hy,
        exists_of_require hfilled.2.2 hz⟩
    rintro ⟨s, t, u⟩ ⟨k, v⟩ s' hmem ⟨hs, ht, hu⟩ hstep
    have hv := List.mem_map_of_mem (f := Prod.snd) hmem
    simp only at hstep
    split at hstep
    · obtain ⟨s₁, hfill, hstep⟩ := exists_of_bind_ok hstep
      cases hstep
      exact ⟨filled_fill hv hfill, ht, hu⟩
    · split at hstep
      · obtain ⟨t₁, hfill, hstep⟩ := exists_of_bind_ok hstep
        cases hstep
        exact ⟨hs, filled_fill hv hfill, hu⟩
      · split at hstep
        · obtain ⟨u₁, hfill, hstep⟩ := exists_of_bind_ok hstep
          cases hstep
          exact ⟨hs, ht, filled_fill hv hfill⟩
        · cases hstep
          exact ⟨hs, ht, hu⟩
  | positional items =>
    obtain ⟨x', hx, h⟩ := exists_of_bind_ok h
    obtain ⟨y', hy, h⟩ := exists_of_bind_ok h
    obtain ⟨z', hz, h⟩ := exists_of_bind_ok h
    obtain ⟨-, -, h⟩ := exists_of_bind_ok h
    cases h
    exact ⟨exists_of_atIndex hx, exists_of_atIndex hy, exists_of_atIndex hz⟩

/-! ### Fields given by name, in order -/

theorem fill_none {v : Json} {x : α} (hx : a.decode v = .ok x) : a.fill none v = .ok (some x) := by
  rw [Field.fill, hx]
  rfl

section Named

variable {name name₁ name₂ : String} {f : Json → Except Mismatch α} {g : Json → Except Mismatch β}
variable {h : Json → Except Mismatch γ} {u v w : Json} {x : α} {y : β} {z : γ}

theorem one_named (hx : f u = .ok x) : one form ⟨name, f⟩ (.named [(name, u)]) = .ok x := by
  have hfill : Field.fill ⟨name, f⟩ none u = .ok (some x) := fill_none hx
  simp only [one, List.foldlM_cons, List.foldlM_nil, beq_self_eq_true, if_true, hfill, ok_bind,
    pure_bind]
  rfl

theorem two_named (hne : name₁ ≠ name) (hx : f u = .ok x) (hy : g v = .ok y) :
    two form ⟨name, f⟩ ⟨name₁, g⟩ (.named [(name, u), (name₁, v)]) = .ok (x, y) := by
  have hfill : Field.fill ⟨name, f⟩ none u = .ok (some x) := fill_none hx
  have hfill₁ : Field.fill ⟨name₁, g⟩ none v = .ok (some y) := fill_none hy
  simp only [two, List.foldlM_cons, List.foldlM_nil, beq_iff_eq, if_true, hne, if_false, hfill,
    hfill₁, ok_bind, pure_bind]
  rfl

theorem three_named (hne : name₁ ≠ name) (hne' : name₂ ≠ name) (hne₂ : name₂ ≠ name₁)
    (hx : f u = .ok x) (hy : g v = .ok y) (hz : h w = .ok z) :
    three form ⟨name, f⟩ ⟨name₁, g⟩ ⟨name₂, h⟩
      (.named [(name, u), (name₁, v), (name₂, w)]) = .ok (x, y, z) := by
  have hfill : Field.fill ⟨name, f⟩ none u = .ok (some x) := fill_none hx
  have hfill₁ : Field.fill ⟨name₁, g⟩ none v = .ok (some y) := fill_none hy
  have hfill₂ : Field.fill ⟨name₂, h⟩ none w = .ok (some z) := fill_none hz
  simp only [three, List.foldlM_cons, List.foldlM_nil, beq_iff_eq, if_true, hne, hne', hne₂,
    if_false, hfill, hfill₁, hfill₂, ok_bind, pure_bind]
  rfl

end Named

end Fields

/-! ## At the root of a text -/

theorem yields_check {x : Except Mismatch α} {P : α → Prop} (h : ∀ a, x = .ok a → P a) :
    Yields (Reader.check x) P := by
  cases x with
  | ok a => exact yields_pure (h a rfl)
  | error m => exact yields_fail _

/-- What a body holds at the root of a text nests one level less deep than the text may. -/
theorem yields_readTagged (tagName expected : String) (ofTag : Tag → Except Mismatch τ) :
    Yields (readTagged tagName expected ofTag) fun p =>
      ∀ x ∈ p.2.values, x.depth ≤ depthLimit - 1 := by
  refine yields_then fun c? => ?_
  split
  · -- a list: the items behind the tag are free values
    refine yields_then fun _ => yields_then fun form? => ?_
    cases form? with
    | none => exact yields_fail _
    | some form =>
      refine yields_bind (yields_withFuel fun n =>
        yields_items (yields_value _) (n + 1) false [] nofun) fun rest hrest => ?_
      exact yields_then fun _ => yields_pure hrest
  · -- an object: so are the fields besides the tag
    refine yields_object (I := fun s => ∀ f ∈ s.read, f.2.depth ≤ depthLimit - 1) ?_ nofun ?_
    · intro s key hs
      unfold readTaggedField
      split
      · -- a second tag is refused, and the first leaves the fields as they are
        have htag : Yields (do colon; let f ← readTag ofTag; return { s with tag := some f })
            fun s => ∀ f ∈ s.read, f.2.depth ≤ depthLimit - 1 :=
          yields_then fun _ => yields_then fun form => yields_pure hs
        dsimp only
        split
        · exact yields_then fun _ => htag
        · exact htag
      · refine yields_then fun _ => yields_bind (yields_value _) fun v hv => ?_
        exact yields_pure (List.forall_mem_cons.2 ⟨hv, hs⟩)
    · intro s hs
      unfold TaggedFields.finish
      split
      · refine yields_pure fun x hx => ?_
        obtain ⟨f, hf, rfl⟩ := List.mem_map.1 hx
        exact hs f (List.mem_reverse.1 hf)
      · exact yields_fail _
  · exact yields_of_error (unexpected_error expected)

/-! ## Put together -/

/-- A value that is an object with the tag of a form in front and its fields behind it. -/
def Carries (tagName : String) (ofTag : Tag → Except Mismatch τ) (form : τ)
    (fields : List (String × Json)) (v : Json) : Prop :=
  ∃ tag, v = .object ((tagName, .string tag) :: fields) ∧ ofTag (.name tag) = .ok form ∧
    ∀ f ∈ fields, f.1 ≠ tagName

variable {tagName expected : String} {ofTag : Tag → Except Mismatch τ} {form : τ}
variable {fields : List (String × Json)} {v : Json}

/-- **A value is taken apart into the form and the fields it carries.** -/
theorem splitTag_of_carries (h : Carries tagName ofTag form fields v) :
    splitTag tagName expected ofTag v = .ok (form, .named fields) := by
  obtain ⟨tag, rfl, htag, hfields⟩ := h
  have hothers : (fields.filter fun f => f.1 == tagName) = [] :=
    List.filter_eq_nil_iff.2 fun f hf => by simpa using hfields f hf
  have hrest : (fields.filter fun f => f.1 != tagName) = fields :=
    List.filter_eq_self.2 fun f hf => by simpa using hfields f hf
  simp only [splitTag, Tag.ofJson, List.filter_cons, beq_self_eq_true, if_true, hothers,
    bne_self_eq_false, Bool.false_eq_true, if_false, hrest, List.isEmpty_nil]
  change (ofTag (.name tag) >>= fun f => pure (f, Body.named fields)) = _
  rw [htag]
  rfl

/-- The tag of a text is read as the form it names. -/
theorem stepReads_tag {tag : String} (htag : ofTag (.name tag) = .ok form)
    (read : List (String × Json)) :
    StepReads (readTaggedField tagName ofTag) ⟨none, read⟩ tagName (writeString tag)
      ⟨some form, read⟩ := by
  intro gap rest hgap hrest
  have hstring : stringOr "variant identifier" (gap ++ (writeString tag ++ rest)) =
      .ok (tag, rest) := by
    have hpeek : peek (gap ++ (writeString tag ++ rest)) =
        .ok (some '"', writeString tag ++ rest) := peek_gap hgap rfl _
    rw [stringOr, bind_ok hpeek]
    exact string_written tag rest
  have hread : readTag ofTag (gap ++ (writeString tag ++ rest)) = .ok (form, rest) := by
    rw [readTag, bind_ok hstring, htag]
    rfl
  unfold readTaggedField
  simp only [beq_self_eq_true, if_true, Option.isSome_none, Bool.false_eq_true, if_false]
  rw [bind_ok (colon_append _), bind_ok hread]
  rfl

/-- A field besides the tag is read as a free value. -/
theorem stepReads_field {k : String} (hk : k ≠ tagName) {text : List Char} (form? : Option τ)
    (read : List (String × Json)) (hreads : Reads (value (depthLimit - 1)) text v) :
    StepReads (readTaggedField tagName ofTag) ⟨form?, read⟩ k text ⟨form?, (k, v) :: read⟩ := by
  intro gap rest hgap hrest
  unfold readTaggedField
  simp only [beq_iff_eq, hk, if_false]
  rw [bind_ok (colon_append _), bind_ok (hreads gap rest hgap hrest)]
  rfl

theorem steps_fields (form? : Option τ) (read : List (String × Json))
    {lines : List (List Char)} (hfields : ∀ f ∈ fields, f.1 ≠ tagName)
    (hdepth : depthFields fields ≤ depthLimit - 1) (hkept : ∀ n ∈ numbersFields fields, n.Kept)
    (h : SpellsFields fields lines) :
    Steps (readTaggedField tagName ofTag) ⟨form?, read⟩ lines ⟨form?, fields.reverse ++ read⟩ := by
  induction fields generalizing read lines with
  | nil =>
    cases h
    exact .nil
  | cons f fs ih =>
    obtain ⟨k, v⟩ := f
    rcases h with _ | ⟨hgap, hspells, hlines⟩
    rw [depthFields, Nat.max_le] at hdepth
    rw [numbersFields, List.forall_mem_append] at hkept
    have hreads := reads_value v _ _ hdepth.1 hkept.1 hspells
    rw [List.reverse_cons, List.append_assoc]
    exact .cons hgap (stepReads_field (hfields (k, v) (by simp)) form? read hreads)
      (ih _ (fun f hf => hfields f (by simp [hf])) hdepth.2 hkept.2 hlines)

/-- **A text is read as the form and the fields its value carries**, if it nests no deeper than
allowed and its numbers are kept. -/
theorem reads_readTagged {text : List Char} (h : Carries tagName ofTag form fields v)
    (hdepth : v.depth ≤ depthLimit) (hkept : ∀ n ∈ v.numbers, n.Kept) (hspells : Spells v text) :
    Reads (readTagged tagName expected ofTag) text (form, .named fields) := by
  obtain ⟨tag, rfl, htag, hfields⟩ := h
  cases hspells with
  | @object _ before after lines hbefore hafter hlines =>
  rcases hlines with _ | ⟨hgap', hspells, hlines⟩
  cases hspells
  have hinside : depthFields fields ≤ depthLimit - 1 := by
    simp only [depth, depthFields] at hdepth
    omega
  have hsteps : Steps (readTaggedField tagName ofTag) ⟨some form, []⟩ _
      ⟨some form, fields.reverse ++ []⟩ :=
    steps_fields (some form) [] hfields hinside (by simpa [numbers, numbersFields] using hkept)
      hlines
  rw [List.append_nil] at hsteps
  intro gap rest hgap _
  have hpeek : ∀ lines, peek (gap ++ (enclosed '\x7b' '\x7d' before after lines ++ rest)) =
      .ok (some '\x7b', enclosed '\x7b' '\x7d' before after lines ++ rest) :=
    fun lines => peek_gap hgap rfl _
  rw [readTagged, bind_ok (hpeek _)]
  refine object_of_steps hbefore hafter (.cons hgap' (stepReads_tag htag []) hsteps) (fun cs => ?_)
    rest
  change Except.ok ((form, Body.named fields.reverse.reverse), cs) = _
  rw [List.reverse_reverse]

end Json

end DialogueScript
