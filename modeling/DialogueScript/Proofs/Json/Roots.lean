import DialogueScript.Proofs.Json.Slots
/-!
# The root of a text

At the root of a text a tagged value is taken apart while it is read, and its
tag is looked at before what follows it is known to be well formed. On a text
that is well formed this makes no difference: `run_readTagged_eq_ok_iff` says
that the text is read as its value is decoded. Only the tag must be a name
there, and not the number of a form.
-/

namespace DialogueScript

namespace Json

open Reader

variable {α τ : Type} {tagName expected : String} {ofTag : Tag → Except Mismatch τ}
variable {form : τ} {body : Body} {cs rest : List Char} {d : Nat}

/-! ## The tag -/

theorem scalar?_quote_eq_ok_iff {c : Char} {s : String} :
    scalar? c (c :: cs) = .ok (some (.string s), rest) ↔
      c = '"' ∧ Reader.string (c :: cs) = .ok (s, rest) := by
  constructor
  · intro h
    unfold scalar? at h
    split at h
    · obtain ⟨_, mid, -, h⟩ := exists_of_bind h
      obtain ⟨_, mid', -, h⟩ := exists_of_bind h
      cases h
    · obtain ⟨_, mid, -, h⟩ := exists_of_bind h
      obtain ⟨_, mid', -, h⟩ := exists_of_bind h
      cases h
    · obtain ⟨_, mid, -, h⟩ := exists_of_bind h
      obtain ⟨_, mid', -, h⟩ := exists_of_bind h
      cases h
    · obtain ⟨t, mid, hstring, h⟩ := exists_of_bind h
      cases h
      exact ⟨rfl, hstring⟩
    · split at h
      · obtain ⟨n, mid, -, h⟩ := exists_of_bind h
        cases h
      · cases h
  · rintro ⟨rfl, hstring⟩
    exact bind_ok hstring

/-- A string is read as a value is. -/
theorem stringOr_eq_ok_iff {s : String} :
    stringOr expected cs = .ok (s, rest) ↔ value d cs = .ok (.string s, rest) := by
  rw [value_eq_ok_iff]
  constructor
  · intro h
    obtain ⟨gap, mid, hgap, rfl, hpeek, -⟩ := exists_gap cs
    refine ⟨gap, mid, hgap, rfl, ?_⟩
    unfold stringOr at h
    rw [bind_ok hpeek] at h
    generalize hhead : mid.head? = c? at h
    split at h
    · obtain ⟨tail, rfl⟩ := List.head?_eq_some_iff.1 hhead
      exact .scalar rfl (by decide) (by decide) (scalar?_quote_eq_ok_iff.2 ⟨rfl, h⟩)
    · obtain ⟨e, he⟩ := @unexpected_error String expected mid
      rw [he] at h
      cases h
  · rintro ⟨gap, mid, hgap, rfl, hfronts⟩
    generalize hv : Json.string s = v at hfronts
    cases hfronts with
    | list _ _ => cases hv
    | object _ _ => cases hv
    | @scalar c tail _ sc _ _ _ hscalar =>
      cases sc with
      | string t =>
        cases hv
        obtain ⟨rfl, hstring⟩ := scalar?_quote_eq_ok_iff.1 hscalar
        unfold stringOr
        rw [bind_ok (peek_gap hgap rfl tail)]
        exact hstring
      | null => cases hv
      | boolean b => cases hv
      | number n => cases hv

/-- The tag of a whole text is a name that stands for a form. -/
theorem readTag_eq_ok_iff :
    readTag ofTag cs = .ok (form, rest) ↔
      ∃ name, value d cs = .ok (.string name, rest) ∧ ofTag (.name name) = .ok form := by
  constructor
  · intro h
    obtain ⟨name, mid, hname, h⟩ := exists_of_bind h
    cases htag : ofTag (.name name) with
    | error m =>
      rw [htag] at h
      cases h
    | ok f =>
      rw [htag] at h
      cases h
      exact ⟨name, stringOr_eq_ok_iff.1 hname, htag⟩
  · rintro ⟨name, hname, htag⟩
    rw [readTag, bind_ok (stringOr_eq_ok_iff.2 hname), htag]
    rfl

/-! ## Objects -/

namespace TaggedFields

variable {s : TaggedFields τ} {read read' fields : List (String × Json)}

/-- One field taken into what has been read of a tagged object. -/
def put (tagName : String) (ofTag : Tag → Except Mismatch τ) (s : TaggedFields τ)
    (f : String × Json) : Option (TaggedFields τ) :=
  if f.1 == tagName then
    match s.tag, f.2 with
    | none, .string name =>
      (ofTag (.name name)).toOption.map fun form => { s with tag := some form }
    | _, _ => none
  else some { s with read := f :: s.read }

theorem put_of_ne {f : String × Json} (h : f.1 ≠ tagName) :
    put tagName ofTag s f = some { s with read := f :: s.read } := by
  rw [put, if_neg (by simpa using h)]

theorem put_tag_of_some {x : Json} : put tagName ofTag ⟨some form, read⟩ (tagName, x) = none := by
  rw [put, if_pos (by simp)]

theorem put_tag_eq_some_iff {x : Json} :
    put tagName ofTag ⟨none, read⟩ (tagName, x) = some s ↔
      ∃ name form, x = .string name ∧ ofTag (.name name) = .ok form ∧ s = ⟨some form, read⟩ := by
  rw [put, if_pos (by simp)]
  cases x with
  | string name =>
    simp only [Option.map_eq_some_iff, toOption_eq_some_iff]
    constructor
    · rintro ⟨form, hform, rfl⟩
      exact ⟨name, form, rfl, hform, rfl⟩
    · rintro ⟨name', form, hname, hform, rfl⟩
      cases hname
      exact ⟨form, hform, rfl⟩
  | null => simp
  | boolean b => simp
  | number n => simp
  | array items => simp
  | object fields => simp

/-- Behind the tag only other fields are taken. -/
theorem foldlM_put_some :
    fields.foldlM (put tagName ofTag) ⟨some form, read⟩ = some s ↔
      (fields.filter fun f => f.1 == tagName) = [] ∧
        s = ⟨some form, (fields.filter fun f => f.1 != tagName).reverse ++ read⟩ := by
  induction fields generalizing read with
  | nil =>
    change some _ = some s ↔ _
    simp [eq_comm]
  | cons f fields ih =>
    obtain ⟨k, x⟩ := f
    rw [List.foldlM_cons]
    by_cases hk : k = tagName
    · subst hk
      rw [put_tag_of_some, List.filter_cons_of_pos (by simp)]
      constructor
      · intro h
        cases h
      · rintro ⟨h, -⟩
        cases h
    · rw [put_of_ne hk, List.filter_cons_of_neg (by simpa using hk),
        List.filter_cons_of_pos (by simpa using hk), List.reverse_cons, List.append_assoc]
      exact ih

/-- **The tag may stand anywhere among the fields**, and stands once. -/
theorem foldlM_put_none :
    fields.foldlM (put tagName ofTag) ⟨none, read⟩ = some ⟨some form, read'⟩ ↔
      (∃ name, sole tagName fields = some (.string name) ∧ ofTag (.name name) = .ok form) ∧
        read' = (fields.filter fun f => f.1 != tagName).reverse ++ read := by
  induction fields generalizing read with
  | nil =>
    change some _ = some _ ↔ _
    simp [sole]
  | cons f fields ih =>
    obtain ⟨k, x⟩ := f
    rw [List.foldlM_cons]
    by_cases hk : k = tagName
    · subst hk
      rw [List.filter_cons_of_neg (by simp)]
      constructor
      · intro h
        obtain ⟨s₁, hput, h⟩ := Option.bind_eq_some_iff.1 h
        obtain ⟨name, form', rfl, hform, rfl⟩ := put_tag_eq_some_iff.1 hput
        obtain ⟨hothers, hs⟩ := foldlM_put_some.1 h
        cases hs
        exact ⟨⟨name, sole_cons_self.2 ⟨hothers, rfl⟩, hform⟩, rfl⟩
      · rintro ⟨⟨name, hsole, hform⟩, rfl⟩
        obtain ⟨hothers, rfl⟩ := sole_cons_self.1 hsole
        rw [put_tag_eq_some_iff.2 ⟨name, form, rfl, hform, rfl⟩]
        exact foldlM_put_some.2 ⟨hothers, rfl⟩
    · rw [put_of_ne hk, sole_cons_of_ne hk, List.filter_cons_of_pos (by simpa using hk),
        List.reverse_cons, List.append_assoc]
      exact ih

end TaggedFields

theorem enters_tagged :
    Enters (readTaggedField tagName ofTag) (value (depthLimit - 1))
      (TaggedFields.put tagName ofTag) := by
  rintro ⟨tag?, read⟩ k cs s' rest
  by_cases hk : k = tagName
  · subst hk
    unfold readTaggedField
    simp only [beq_self_eq_true, if_true]
    cases tag? with
    | some form =>
      constructor
      · intro h
        cases h
      · rintro ⟨mid, x, -, -, hput⟩
        rw [TaggedFields.put_tag_of_some] at hput
        cases hput
    | none =>
      constructor
      · intro h
        obtain ⟨_, mid, hcolon, h⟩ := exists_of_bind h
        obtain ⟨form, mid', hread, h⟩ := exists_of_bind h
        cases h
        obtain ⟨name, hname, hform⟩ := readTag_eq_ok_iff.1 hread
        exact ⟨mid, .string name, hcolon, hname,
          TaggedFields.put_tag_eq_some_iff.2 ⟨name, form, rfl, hform, rfl⟩⟩
      · rintro ⟨mid, x, hcolon, hx, hput⟩
        obtain ⟨name, form, rfl, hform, rfl⟩ := TaggedFields.put_tag_eq_some_iff.1 hput
        have hread := readTag_eq_ok_iff.2 ⟨name, hx, hform⟩
        simp only [Option.isSome_none, Bool.false_eq_true, if_false]
        rw [bind_ok hcolon, bind_ok hread]
        rfl
  · unfold readTaggedField
    simp only [beq_iff_eq, hk, if_false]
    constructor
    · intro h
      obtain ⟨_, mid, hcolon, h⟩ := exists_of_bind h
      obtain ⟨x, mid', hx, h⟩ := exists_of_bind h
      cases h
      exact ⟨mid, x, hcolon, hx, TaggedFields.put_of_ne hk⟩
    · rintro ⟨mid, x, hcolon, hx, hput⟩
      rw [TaggedFields.put_of_ne hk] at hput
      cases hput
      rw [bind_ok hcolon, bind_ok hx]
      rfl

/-- A tagged object is its fields with the tag among them. -/
theorem object_tagged_eq_ok_iff {c : Char} :
    Reader.object (readTaggedField tagName ofTag) {} (TaggedFields.finish tagName) (c :: cs) =
        .ok ((form, body), rest) ↔
      ∃ fields name, Entries (value (depthLimit - 1)) true cs fields ('\x7d' :: rest) ∧
        sole tagName fields = some (.string name) ∧ ofTag (.name name) = .ok form ∧
        body = .named (fields.filter fun f => f.1 != tagName) := by
  let result := fun s : TaggedFields τ => s.tag.map fun f => (f, Body.named s.read.reverse)
  have hfinish : ∀ (s : TaggedFields τ) cs p rest,
      TaggedFields.finish tagName s cs = .ok (p, rest) ↔ result s = some p ∧ rest = cs := by
    rintro ⟨tag?, read⟩ cs p rest
    cases tag? with
    | none =>
      constructor
      · intro h
        cases h
      · rintro ⟨h, -⟩
        cases h
    | some f =>
      change Except.ok ((f, Body.named read.reverse), cs) = .ok (p, rest) ↔
        some (f, Body.named read.reverse) = some p ∧ _
      rw [Except.ok.injEq, Prod.mk.injEq, Option.some.injEq, eq_comm (a := rest)]
  rw [object_eq_ok_iff (spans_value _) enters_tagged hfinish]
  constructor
  · rintro ⟨fields, hfields, h⟩
    obtain ⟨⟨tag?, read⟩, hfold, h⟩ := Option.bind_eq_some_iff.1 h
    cases tag? with
    | none => cases h
    | some f =>
      cases h
      obtain ⟨⟨name, hsole, hform⟩, rfl⟩ := TaggedFields.foldlM_put_none.1 hfold
      exact ⟨fields, name, hfields, hsole, hform, by simp⟩
  · rintro ⟨fields, name, hfields, hsole, hform, rfl⟩
    refine ⟨fields, hfields, Option.bind_eq_some_iff.2
      ⟨_, TaggedFields.foldlM_put_none.2 ⟨⟨name, hsole, hform⟩, rfl⟩, ?_⟩⟩
    simp [result]

/-! ## Lists -/

/-- A tagged list is its items with the tag in front. -/
theorem readTaggedList_eq_ok_iff {c : Char} :
    readTaggedList tagName ofTag (c :: cs) = .ok ((form, body), rest) ↔
      ∃ name items, Items (value (depthLimit - 1)) true cs (.string name :: items) (']' :: rest) ∧
        ofTag (.name name) = .ok form ∧ body = .positional items := by
  have hadvance : advance (c :: cs) = .ok ((), cs) := rfl
  rw [readTaggedList, bind_ok hadvance]
  constructor
  · intro h
    obtain ⟨form?, post, hitem, h⟩ := exists_of_bind h
    obtain ⟨more, mid, hhas, hitem⟩ := exists_of_bind hitem
    cases more with
    | false =>
      cases hitem
      cases h
    | true =>
      obtain ⟨f, hread, rfl⟩ := exists_of_map hitem
      obtain ⟨items, mid', hitems, h⟩ := exists_of_bind h
      obtain ⟨_, rest', hend, h⟩ := exists_of_bind h
      cases h
      obtain ⟨name, hname, hform⟩ := readTag_eq_ok_iff.1 hread
      obtain ⟨xs, rfl, hxs⟩ := Items.of_items hitems
      obtain ⟨tail, rfl⟩ := hxs.exists_rest
      rw [endList_eq_ok_iff] at hend
      subst hend
      exact ⟨name, _, .more hhas hname hxs, hform, rfl⟩
  · rintro ⟨name, items, hitems, hform, rfl⟩
    cases hitems with
    | @more _ _ mid post _ _ _ hhas hname hxs =>
      have hread := item?_of_hasItem hhas (readTag_eq_ok_iff.2 ⟨name, hname, hform⟩)
      have hitems :
          (withFuel fun n => Reader.items (value (depthLimit - 1)) (n + 1) false []) post =
            .ok (items, ']' :: rest) :=
        hxs.items_eq (Nat.lt_succ_of_le (hxs.length_le (spans_value _))) []
      have hend : endList (']' :: rest) = .ok ((), rest) := endList_eq_ok_iff.2 rfl
      rw [bind_ok hread]
      dsimp only
      rw [bind_ok hitems, bind_ok hend]
      rfl

/-! ## Whole texts -/

/-- **The root of a text is taken apart as its value is**, if its tag is a name. -/
theorem readTagged_eq_ok_iff :
    readTagged tagName expected ofTag cs = .ok ((form, body), rest) ↔
      ∃ v, value depthLimit cs = .ok (v, rest) ∧
        (∃ name, v.slot? 0 tagName = some (.string name)) ∧
        splitTag tagName expected ofTag v = .ok (form, body) := by
  have hitem : nestedValue depthLimit = some (value (depthLimit - 1)) := rfl
  constructor
  · intro h
    obtain ⟨gap, mid, hgap, rfl, hpeek, -⟩ := exists_gap cs
    unfold readTagged at h
    rw [bind_ok hpeek] at h
    generalize hhead : mid.head? = c? at h
    split at h
    · obtain ⟨tail, rfl⟩ := List.head?_eq_some_iff.1 hhead
      obtain ⟨name, items, hitems, hform, rfl⟩ := readTaggedList_eq_ok_iff.1 h
      refine ⟨.array (.string name :: items), ?_, ⟨name, rfl⟩, ?_⟩
      · exact value_eq_ok_iff.2 ⟨gap, _, hgap, rfl, .list hitem hitems⟩
      · exact splitTag_eq_ok_iff.2 ⟨(tagAt?_eq_some_iff rfl).2 hform, rfl⟩
    · obtain ⟨tail, rfl⟩ := List.head?_eq_some_iff.1 hhead
      obtain ⟨fields, name, hfields, hsole, hform, rfl⟩ := object_tagged_eq_ok_iff.1 h
      have hslot : (object fields).slot? 0 tagName = some (.string name) := hsole
      refine ⟨.object fields, ?_, ⟨name, hslot⟩, ?_⟩
      · exact value_eq_ok_iff.2 ⟨gap, _, hgap, rfl, .object hitem hfields⟩
      · exact splitTag_eq_ok_iff.2 ⟨(tagAt?_eq_some_iff hslot).2 hform, rfl⟩
    · obtain ⟨e, he⟩ := @unexpected_error (τ × Body) expected mid
      rw [he] at h
      cases h
  · rintro ⟨v, hvalue, ⟨name, hslot⟩, hsplit⟩
    obtain ⟨gap, mid, hgap, rfl, hfronts⟩ := value_eq_ok_iff.1 hvalue
    obtain ⟨hform, hrest⟩ := splitTag_eq_ok_iff.1 hsplit
    rw [tagAt?_eq_some_iff hslot] at hform
    unfold readTagged
    cases hfronts with
    | @list item tail _ items hnested hitems =>
      cases hitem.symm.trans hnested
      rw [bind_ok (peek_gap hgap rfl tail)]
      cases items with
      | nil => cases hslot
      | cons tag items =>
        cases hslot
        cases hrest
        exact readTaggedList_eq_ok_iff.2 ⟨name, items, hitems, hform, rfl⟩
    | @object item tail _ fields hnested hfields =>
      cases hitem.symm.trans hnested
      rw [bind_ok (peek_gap hgap rfl tail)]
      cases hrest
      exact object_tagged_eq_ok_iff.2 ⟨fields, name, hfields, hslot, hform, rfl⟩
    | @scalar c tail _ sc _ _ _ _ =>
      cases sc <;> cases hslot

/-- **A text is read as its value is decoded**, if the tag of its root is a name. -/
theorem run_readTagged_eq_ok_iff {decode : τ → Body → Except Mismatch α} {text : String} {a : α} :
    Reader.run (do
        let (form, body) ← readTagged tagName expected ofTag
        Reader.check (decode form body)) text = .ok a ↔
      ∃ v, read text = .ok v ∧ (∃ name, v.slot? 0 tagName = some (.string name)) ∧
        (do
          let (form, body) ← splitTag tagName expected ofTag v
          decode form body) = .ok a := by
  simp only [read, run_eq_ok_iff_exists]
  constructor
  · rintro ⟨rest, h, hblank⟩
    obtain ⟨⟨form, body⟩, mid, hread, hcheck⟩ := exists_of_bind h
    obtain ⟨v, hvalue, hname, hsplit⟩ := readTagged_eq_ok_iff.1 hread
    dsimp only at hcheck
    cases hdecode : decode form body with
    | error m =>
      rw [hdecode] at hcheck
      cases hcheck
    | ok b =>
      rw [hdecode] at hcheck
      cases hcheck
      refine ⟨v, ⟨rest, hvalue, hblank⟩, hname, ?_⟩
      rw [hsplit]
      exact hdecode
  · rintro ⟨v, ⟨rest, hvalue, hblank⟩, hname, h⟩
    obtain ⟨⟨form, body⟩, hsplit, hdecode⟩ := exists_of_bind_ok h
    refine ⟨rest, ?_, hblank⟩
    rw [bind_ok (readTagged_eq_ok_iff.2 ⟨v, hvalue, hname, hsplit⟩)]
    dsimp only at hdecode ⊢
    rw [hdecode]
    rfl

end Json

end DialogueScript
