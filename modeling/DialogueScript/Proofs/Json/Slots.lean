import DialogueScript.Proofs.Json.Extents
/-!
# Where a tagged value keeps its parts

A tagged value keeps its tag and its fields in slots: under their names in an
object, where each must stand once, or in their positions in a list. `slot?`
finds what is in one, and this is all that decoding asks of a value. Taking the
tag off is looking into the first slot (`splitTag_eq_ok_iff`), and the fields of
a form are given exactly if each is in its slot and a list holds nothing more
(`Fields.one_eq_ok_iff` and its siblings).

So the order of an object's fields means nothing, nor do fields of other names
(`sole_perm`, `sole_cons_of_ne`), and with another member in the place of one,
only the slot of that member has changed (`slot?_setMember`).
-/

namespace DialogueScript

namespace Json

variable {α β γ σ τ ε : Type}
variable {name k : String} {fields fields' : List (String × Json)} {v x y : Json}

/-! ## Fields that stand once -/

/-- The value of the field of a name, if there is exactly one. -/
def sole (name : String) (fields : List (String × Json)) : Option Json :=
  match fields.filter fun f => f.1 == name with
  | [f] => some f.2
  | _ => none

theorem sole_eq_some_iff :
    sole name fields = some x ↔ (fields.filter fun f => f.1 == name) = [(name, x)] := by
  constructor
  · intro h
    unfold sole at h
    split at h
    · rename_i f hf
      cases h
      have hmem : f ∈ fields.filter fun f => f.1 == name := by
        rw [hf]
        exact List.mem_singleton_self f
      have hname : f.1 = name := beq_iff_eq.1 (List.mem_filter.1 hmem).2
      rw [hf, ← hname]
    · cases h
  · intro h
    rw [sole, h]

/-- The order of the fields does not matter. -/
theorem sole_perm (h : fields.Perm fields') : sole name fields = sole name fields' := by
  ext x
  have hfilter := h.filter fun f => f.1 == name
  rw [sole_eq_some_iff, sole_eq_some_iff]
  constructor
  · intro hx
    rw [hx] at hfilter
    exact List.perm_singleton.1 hfilter.symm
  · intro hx
    rw [hx] at hfilter
    exact List.perm_singleton.1 hfilter

/-- Nor does a field of another name. -/
theorem sole_cons_of_ne (h : k ≠ name) : sole name ((k, x) :: fields) = sole name fields := by
  rw [sole, List.filter_cons_of_neg (by simpa using h)]
  rfl

theorem sole_cons_self :
    sole name ((name, x) :: fields) = some y ↔
      (fields.filter fun f => f.1 == name) = [] ∧ x = y := by
  rw [sole_eq_some_iff, List.filter_cons_of_pos (by simp), List.cons.injEq, Prod.mk.injEq]
  exact ⟨fun h => ⟨h.2, h.1.2⟩, fun h => ⟨⟨rfl, h.2⟩, h.1⟩⟩

theorem sole_filter {tagName : String} (h : name ≠ tagName) :
    sole name (fields.filter fun f => f.1 != tagName) = sole name fields := by
  have hfilter : ((fields.filter fun f => f.1 != tagName).filter fun f => f.1 == name) =
      fields.filter fun f => f.1 == name := by
    rw [List.filter_filter]
    refine List.filter_congr fun f _ => ?_
    by_cases hf : f.1 = name <;> simp [hf, h]
  rw [sole, hfilter]
  rfl

theorem exists_append_of_getElem? {l : List α} {i : Nat} {a : α} (h : l[i]? = some a) :
    ∃ before after, l = before ++ a :: after ∧ ∀ b, l.set i b = before ++ b :: after := by
  obtain ⟨hi, rfl⟩ := List.getElem?_eq_some_iff.1 h
  refine ⟨l.take i, l.drop (i + 1), by simp, fun b => ?_⟩
  rw [List.set_eq_take_append_cons_drop, if_pos hi]

theorem sole_set_of_ne {i : Nat} (hi : fields[i]? = some (k, x)) (hk : k ≠ name) :
    sole name (fields.set i (k, y)) = sole name fields := by
  obtain ⟨before, after, rfl, hset⟩ := exists_append_of_getElem? hi
  have hk' : (k == name) = false := by simpa using hk
  rw [hset]
  simp only [sole, List.filter_append, List.filter_cons, hk', Bool.false_eq_true, if_false]

/-- Another value in a field is the value found, if the field stands once. -/
theorem sole_set {i : Nat} (hi : fields[i]? = some (name, x)) :
    sole name (fields.set i (name, y)) = (sole name fields).map fun _ => y := by
  obtain ⟨before, after, rfl, hset⟩ := exists_append_of_getElem? hi
  rw [hset]
  simp only [sole, List.filter_append, List.filter_cons, beq_self_eq_true, if_true]
  -- it stands once if there is none of its name before it and none behind it
  generalize before.filter (fun f => f.1 == name) = l
  generalize after.filter (fun f => f.1 == name) = r
  cases l with
  | nil => cases r <;> rfl
  | cons f l => cases l <;> rfl

theorem eq_of_sole {i : Nat} (hi : fields[i]? = some (name, x)) (hy : sole name fields = some y) :
    x = y := by
  have hmem : (name, x) ∈ fields.filter fun f => f.1 == name :=
    List.mem_filter.2 ⟨List.mem_of_getElem? hi, by simp⟩
  rw [sole_eq_some_iff.1 hy, List.mem_singleton] at hmem
  exact congrArg Prod.snd hmem

theorem exists_getElem?_of_sole (h : sole name fields = some x) :
    ∃ i : Nat, fields[i]? = some (name, x) := by
  have hmem : (name, x) ∈ fields.filter fun f => f.1 == name := by
    rw [sole_eq_some_iff.1 h]
    exact List.mem_singleton_self _
  exact List.mem_iff_getElem?.1 (List.mem_filter.1 hmem).1

/-! ## Slots -/

/-- What is in the slot of a name and a position. -/
def slot? : Json → Nat → String → Option Json
  | .object fields, _, name => sole name fields
  | .array items, i, _ => items[i]?
  | _, _, _ => none

/-- A list holds at most so many items; an object may hold any fields. -/
def AtMost : Json → Nat → Prop
  | .array items, n => items.length ≤ n
  | _, _ => True

/-- A field is in its slot, and is decoded as given. -/
def Gives (v : Json) (i : Nat) (a : Field α) (x : α) : Prop :=
  ∃ u, v.slot? i a.name = some u ∧ a.decode u = .ok x

/-- The form that the tag in a slot names. -/
def tagAt? (ofTag : Tag → Except Mismatch τ) (v : Json) (i : Nat) (name : String) : Option τ :=
  (v.slot? i name).bind fun t => (Tag.ofJson t >>= ofTag).toOption

/-- What is left of a value without the tag. -/
def rest? (tagName : String) : Json → Option Body
  | .object fields => some (.named (fields.filter fun f => f.1 != tagName))
  | .array (_ :: items) => some (.positional items)
  | _ => none

theorem mem_members_of_slot? {i : Nat} (h : v.slot? i name = some x) : x ∈ v.members := by
  cases v with
  | object fields =>
    obtain ⟨i, hi⟩ := exists_getElem?_of_sole h
    exact List.mem_map_of_mem (f := Prod.snd) (List.mem_of_getElem? hi)
  | array items => exact List.mem_of_getElem? h
  | null | boolean | number | string => cases h

namespace Body

/-- What is in the slot of a name and a position, besides the tag. -/
def slot? : Body → Nat → String → Option Json
  | .named fields, _, name => sole name fields
  | .positional items, i, _ => items[i]?

/-- A list holds at most so many items besides the tag. -/
def AtMost : Body → Nat → Prop
  | .named _, _ => True
  | .positional items, n => items.length ≤ n

/-- A field is in its slot, and is decoded as given. -/
def Gives (body : Body) (i : Nat) (a : Field α) (x : α) : Prop :=
  ∃ u, body.slot? i a.name = some u ∧ a.decode u = .ok x

end Body

section Split

variable {tagName expected : String} {ofTag : Tag → Except Mismatch τ} {form : τ} {body : Body}
variable {a : Field α}

theorem toOption_eq_some_iff {r : Except ε α} {a : α} : r.toOption = some a ↔ r = .ok a := by
  cases r with
  | ok b => simp [Except.toOption]
  | error e => simp [Except.toOption]

/-- A tag that is a name is the form of that name. -/
theorem tagAt?_eq_some_iff {i : Nat} (h : v.slot? i tagName = some (.string name)) :
    v.tagAt? ofTag i tagName = some form ↔ ofTag (.name name) = .ok form := by
  rw [tagAt?, h, Option.bind_some, toOption_eq_some_iff]
  rfl

/-- **The tag is taken out of the first slot.** -/
theorem splitTag_eq_ok_iff :
    splitTag tagName expected ofTag v = .ok (form, body) ↔
      v.tagAt? ofTag 0 tagName = some form ∧ v.rest? tagName = some body := by
  cases v with
  | array items =>
    cases items with
    | nil => simp [splitTag, tagAt?, slot?]
    | cons tag items =>
      simp only [splitTag, tagAt?, slot?, rest?, List.getElem?_cons_zero, Option.bind_some,
        toOption_eq_some_iff, Option.some.injEq]
      constructor
      · intro h
        obtain ⟨t, ht, h⟩ := exists_of_bind_ok h
        obtain ⟨f, hf, h⟩ := exists_of_bind_ok h
        cases h
        exact ⟨by rw [ht]; exact hf, rfl⟩
      · rintro ⟨h, rfl⟩
        obtain ⟨t, ht, hf⟩ := exists_of_bind_ok h
        rw [ht, ok_bind, hf]
        rfl
  | object fields =>
    simp only [splitTag, tagAt?, slot?, rest?, sole, Option.some.injEq]
    constructor
    · intro h
      split at h
      · cases h
      · rename_i k tag others hfilter
        obtain ⟨t, ht, h⟩ := exists_of_bind_ok h
        obtain ⟨f, hf, h⟩ := exists_of_bind_ok h
        split at h
        · rename_i hothers
          cases h
          rw [hfilter, List.isEmpty_iff.1 hothers]
          refine ⟨?_, rfl⟩
          rw [Option.bind_some, ht, toOption_eq_some_iff]
          exact hf
        · cases h
    · rintro ⟨h, rfl⟩
      obtain ⟨tag, htag, h⟩ := Option.bind_eq_some_iff.1 h
      obtain ⟨t, ht, hf⟩ := exists_of_bind_ok (toOption_eq_some_iff.1 h)
      split at htag
      · rename_i f hfilter
        cases htag
        rw [hfilter]
        dsimp only
        rw [ht, ok_bind, hf, ok_bind]
        rfl
      · cases htag
  | null | boolean | number | string => simp [splitTag, tagAt?, slot?]

/-- What else is in a value is in its rest, one position further to the front. -/
theorem slot?_of_rest? (h : v.rest? tagName = some body) (hname : name ≠ tagName) (i : Nat) :
    body.slot? i name = v.slot? (i + 1) name := by
  unfold rest? at h
  split at h
  · cases h
    exact sole_filter hname
  · cases h
    exact List.getElem?_cons_succ.symm
  · cases h

theorem gives_of_rest? {a : Field α} {x : α} (h : v.rest? tagName = some body)
    (ha : a.name ≠ tagName) (i : Nat) : body.Gives i a x ↔ v.Gives (i + 1) a x := by
  rw [Body.Gives, slot?_of_rest? h ha]
  rfl

theorem atMost_of_rest? (h : v.rest? tagName = some body) (n : Nat) :
    body.AtMost n ↔ v.AtMost (n + 1) := by
  unfold rest? at h
  split at h
  · cases h
    exact Iff.rfl
  · cases h
    exact Nat.succ_le_succ_iff.symm
  · cases h

/-- A value with something in its first slot has a rest. -/
theorem exists_rest?_of_tagAt? (h : v.tagAt? ofTag 0 tagName = some form) :
    ∃ body, v.rest? tagName = some body := by
  obtain ⟨tag, htag, -⟩ := Option.bind_eq_some_iff.1 h
  cases v with
  | object fields => exact ⟨_, rfl⟩
  | array items =>
    cases items with
    | nil => cases htag
    | cons tag items => exact ⟨_, rfl⟩
  | null | boolean | number | string => cases htag

end Split

/-! ## Fields, slot by slot -/

/-- Two loops that run side by side. -/
theorem foldlM_prod_eq_ok_iff {f : σ → α → Except ε σ} {g : τ → α → Except ε τ}
    {h : σ × τ → α → Except ε (σ × τ)}
    (hstep : ∀ s t a s' t', h (s, t) a = .ok (s', t') ↔ f s a = .ok s' ∧ g t a = .ok t')
    {l : List α} {s s' : σ} {t t' : τ} :
    l.foldlM h (s, t) = .ok (s', t') ↔ l.foldlM f s = .ok s' ∧ l.foldlM g t = .ok t' := by
  induction l generalizing s t with
  | nil =>
    change Except.ok (s, t) = Except.ok (s', t') ↔ Except.ok s = Except.ok s' ∧ Except.ok t = _
    simp
  | cons a l ih =>
    rw [List.foldlM_cons, List.foldlM_cons, List.foldlM_cons]
    constructor
    · intro hl
      obtain ⟨⟨s₁, t₁⟩, hfirst, hl⟩ := exists_of_bind_ok hl
      obtain ⟨hs, ht⟩ := (hstep s t a s₁ t₁).1 hfirst
      rw [hs, ht]
      exact ih.1 hl
    · rintro ⟨hl, hr⟩
      obtain ⟨s₁, hs, hl⟩ := exists_of_bind_ok hl
      obtain ⟨t₁, ht, hr⟩ := exists_of_bind_ok hr
      rw [(hstep s t a s₁ t₁).2 ⟨hs, ht⟩]
      exact ih.2 ⟨hl, hr⟩

namespace Fields

variable {form : String} {a : Field α} {b : Field β} {c : Field γ} {body : Body}

/-- One field put into a slot, if it is of the slot's name. -/
def enter (a : Field α) (slot : Option α) (f : String × Json) : Except Mismatch (Option α) :=
  if f.1 == a.name then a.fill slot f.2 else pure slot

theorem enter_of_ne {f : String × Json} (h : f.1 ≠ a.name) (slot : Option α) :
    enter a slot f = .ok slot := by
  rw [enter, if_neg (by simpa using h)]
  rfl

theorem enter_of_eq {f : String × Json} (h : f.1 = a.name) (slot : Option α) :
    enter a slot f = a.fill slot f.2 := by
  rw [enter, if_pos (by simpa using h)]

/-- A slot that is filled stays as it is, if nothing else is to go into it. -/
theorem foldlM_enter_some {x : α} {slot : Option α} :
    fields.foldlM (enter a) (some x) = .ok slot ↔
      (fields.filter fun f => f.1 == a.name) = [] ∧ slot = some x := by
  induction fields with
  | nil =>
    change Except.ok (some x) = .ok slot ↔ _
    simp [eq_comm]
  | cons f fields ih =>
    rw [List.foldlM_cons]
    by_cases hf : f.1 = a.name
    · rw [enter_of_eq hf, List.filter_cons_of_pos (by simpa using hf)]
      constructor
      · intro h
        cases h
      · rintro ⟨h, -⟩
        cases h
    · rw [enter_of_ne hf, List.filter_cons_of_neg (by simpa using hf)]
      exact ih

theorem foldlM_enter_none {x : α} :
    fields.foldlM (enter a) none = .ok (some x) ↔
      ∃ u, sole a.name fields = some u ∧ a.decode u = .ok x := by
  induction fields with
  | nil =>
    change Except.ok none = .ok (some x) ↔ _
    simp [sole]
  | cons f fields ih =>
    obtain ⟨k, u⟩ := f
    rw [List.foldlM_cons]
    by_cases hk : k = a.name
    · subst hk
      rw [enter_of_eq rfl]
      constructor
      · intro h
        obtain ⟨slot, hfill, h⟩ := exists_of_bind_ok h
        obtain ⟨z, hz, rfl⟩ := exists_of_map_ok hfill
        obtain ⟨hothers, hx⟩ := foldlM_enter_some.1 h
        cases hx
        exact ⟨u, sole_cons_self.2 ⟨hothers, rfl⟩, hz⟩
      · rintro ⟨z, hsole, hz⟩
        obtain ⟨hothers, rfl⟩ := sole_cons_self.1 hsole
        rw [fill_none hz]
        exact foldlM_enter_some.2 ⟨hothers, rfl⟩
    · rw [enter_of_ne hk, sole_cons_of_ne hk]
      exact ih

/-- A field given by name is the only one of its name. -/
theorem gives_named_iff {x : α} :
    (fields.foldlM (enter a) none >>= a.require) = .ok x ↔ (Body.named fields).Gives 0 a x := by
  constructor
  · intro h
    obtain ⟨slot, hfold, h⟩ := exists_of_bind_ok h
    cases slot with
    | none => cases h
    | some z =>
      cases h
      exact foldlM_enter_none.1 hfold
  · intro h
    rw [foldlM_enter_none.2 h]
    rfl

theorem gives_positional_iff {items : List Json} {i : Nat} {expected : String} {x : α} :
    a.atIndex items i expected = .ok x ↔ (Body.positional items).Gives i a x := by
  change _ ↔ ∃ u, items[i]? = some u ∧ a.decode u = .ok x
  unfold Field.atIndex
  split
  · rename_i u hu
    constructor
    · intro h
      exact ⟨u, hu, h⟩
    · rintro ⟨w, hw, h⟩
      cases hu.symm.trans hw
      exact h
  · rename_i hnone
    constructor
    · intro h
      cases h
    · rintro ⟨w, hw, -⟩
      cases hnone.symm.trans hw

theorem noneLeft_eq_ok_iff {items : List Json} {n : Nat} :
    noneLeft n items = .ok () ↔ (Body.positional items).AtMost n := by
  unfold noneLeft Body.AtMost
  split <;> simp_all

/-- A form without fields. -/
theorem zero_eq_ok_iff : zero body = .ok () ↔ body.AtMost 0 := by
  cases body with
  | named fields => exact ⟨fun _ => trivial, fun _ => rfl⟩
  | positional items => exact noneLeft_eq_ok_iff

/-- **A form's only field is in its slot.** -/
theorem one_eq_ok_iff {x : α} : one form a body = .ok x ↔ body.AtMost 1 ∧ body.Gives 0 a x := by
  cases body with
  | named fields =>
    exact gives_named_iff.trans (and_iff_right trivial).symm
  | positional items =>
    constructor
    · intro h
      obtain ⟨y, hy, h⟩ := exists_of_bind_ok h
      obtain ⟨⟨⟩, hleft, h⟩ := exists_of_bind_ok h
      cases h
      exact ⟨noneLeft_eq_ok_iff.1 hleft, gives_positional_iff.1 hy⟩
    · rintro ⟨hleft, hx⟩
      rw [one, gives_positional_iff.2 hx, ok_bind, noneLeft_eq_ok_iff.2 hleft]
      rfl

/-- One field put into a slot, if it is of the slot's name, and else into others. -/
def beside (a : Field α) (g : τ → String × Json → Except Mismatch τ) (s : Option α × τ)
    (f : String × Json) : Except Mismatch (Option α × τ) := do
  if f.1 == a.name then return (← a.fill s.1 f.2, s.2)
  else return (s.1, ← g s.2 f)

theorem beside_eq_ok_iff {g : τ → String × Json → Except Mismatch τ}
    (hg : ∀ t f, f.1 = a.name → g t f = .ok t) (s : Option α) (t : τ) (f : String × Json)
    (s' : Option α) (t' : τ) :
    beside a g (s, t) f = .ok (s', t') ↔ enter a s f = .ok s' ∧ g t f = .ok t' := by
  unfold beside
  by_cases hf : f.1 = a.name
  · rw [if_pos (by simpa using hf), enter_of_eq hf, hg t f hf]
    dsimp only
    cases a.fill s f.2 with
    | error e =>
      constructor
      · intro h
        cases h
      · rintro ⟨h, -⟩
        cases h
    | ok slot =>
      change Except.ok (slot, t) = Except.ok (s', t') ↔ _
      simp
  · rw [if_neg (by simpa using hf), enter_of_ne hf]
    dsimp only
    cases g t f with
    | error e =>
      constructor
      · intro h
        cases h
      · rintro ⟨-, h⟩
        cases h
    | ok t₁ =>
      change Except.ok (s, t₁) = Except.ok (s', t') ↔ _
      simp

/-- A field given by name beside others is given if it is and they are. -/
theorem beside_named_iff {g : τ → String × Json → Except Mismatch τ} {t : τ}
    {finish : τ → Except Mismatch β} (hg : ∀ t f, f.1 = a.name → g t f = .ok t) {x : α} {y : β} :
    (do
      let s ← fields.foldlM (beside a g) (none, t)
      return (← a.require s.1, ← finish s.2)) = Except.ok (x, y) ↔
      (Body.named fields).Gives 0 a x ∧ (fields.foldlM g t >>= finish) = .ok y := by
  rw [← gives_named_iff]
  constructor
  · intro h
    obtain ⟨⟨s, t₁⟩, hfold, h⟩ := exists_of_bind_ok h
    obtain ⟨x', hx, h⟩ := exists_of_bind_ok h
    obtain ⟨y', hy, h⟩ := exists_of_bind_ok h
    cases h
    obtain ⟨hs, ht⟩ := (foldlM_prod_eq_ok_iff (beside_eq_ok_iff hg)).1 hfold
    rw [hs, ht]
    exact ⟨hx, hy⟩
  · rintro ⟨hs, ht⟩
    obtain ⟨s, hs, hx⟩ := exists_of_bind_ok hs
    obtain ⟨t₁, ht, hy⟩ := exists_of_bind_ok ht
    rw [(foldlM_prod_eq_ok_iff (beside_eq_ok_iff hg)).2 ⟨hs, ht⟩, ok_bind, hx, ok_bind, hy]
    rfl

/-- **A form's two fields are in their slots.** -/
theorem two_eq_ok_iff (hab : a.name ≠ b.name) {x : α} {y : β} :
    two form a b body = .ok (x, y) ↔ body.AtMost 2 ∧ body.Gives 0 a x ∧ body.Gives 1 b y := by
  cases body with
  | named fields =>
    have htwo : two form a b (.named fields) = (do
        let s ← fields.foldlM (beside a (enter b)) (none, none)
        return (← a.require s.1, ← b.require s.2)) := by
      refine congrArg (· >>= _) (congrArg (fun step => fields.foldlM step (none, none)) ?_)
      funext s f
      unfold beside enter
      dsimp only
      split
      · rfl
      · split <;> rfl
    have hothers : ∀ t f, f.1 = a.name → enter b t f = .ok t :=
      fun t f hf => enter_of_ne (by rwa [hf]) t
    rw [htwo, beside_named_iff hothers, gives_named_iff]
    exact (and_iff_right trivial).symm
  | positional items =>
    constructor
    · intro h
      obtain ⟨x', hx, h⟩ := exists_of_bind_ok h
      obtain ⟨y', hy, h⟩ := exists_of_bind_ok h
      obtain ⟨⟨⟩, hleft, h⟩ := exists_of_bind_ok h
      cases h
      exact ⟨noneLeft_eq_ok_iff.1 hleft, gives_positional_iff.1 hx, gives_positional_iff.1 hy⟩
    · rintro ⟨hleft, hx, hy⟩
      rw [two, gives_positional_iff.2 hx, ok_bind, gives_positional_iff.2 hy, ok_bind,
        noneLeft_eq_ok_iff.2 hleft]
      rfl

/-- The contents of two slots that must be filled. -/
def bothRequired (b : Field β) (c : Field γ) (s : Option β × Option γ) :
    Except Mismatch (β × γ) := do
  return (← b.require s.1, ← c.require s.2)

/-- **A form's three fields are in their slots.** -/
theorem three_eq_ok_iff (hab : a.name ≠ b.name) (hac : a.name ≠ c.name) (hbc : b.name ≠ c.name)
    {x : α} {y : β} {z : γ} :
    three form a b c body = .ok (x, y, z) ↔
      body.AtMost 3 ∧ body.Gives 0 a x ∧ body.Gives 1 b y ∧ body.Gives 2 c z := by
  cases body with
  | named fields =>
    have hothers : ∀ t f, f.1 = a.name → beside b (enter c) t f = .ok t := by
      rintro ⟨s, t⟩ f hf
      exact (beside_eq_ok_iff (fun t f hf => enter_of_ne (by rwa [hf]) t) s t f s t).2
        ⟨enter_of_ne (by rwa [hf]) s, enter_of_ne (by rwa [hf]) t⟩
    have hothers' : ∀ t f, f.1 = b.name → enter c t f = .ok t :=
      fun t f hf => enter_of_ne (by rwa [hf]) t
    -- behind the first field the other two are those of a form with two
    have hrest : (fields.foldlM (beside b (enter c)) (none, none) >>= bothRequired b c) =
        .ok (y, z) ↔ (Body.named fields).Gives 1 b y ∧ (Body.named fields).Gives 2 c z :=
      (beside_named_iff hothers').trans (and_congr Iff.rfl gives_named_iff)
    have hthree : three form a b c (.named fields) = (do
        let s ← fields.foldlM (beside a (beside b (enter c))) (none, none, none)
        return (← a.require s.1, ← bothRequired b c s.2)) := by
      simp only [bothRequired, bind_assoc, pure_bind]
      refine congrArg (· >>= _) (congrArg (fun step => fields.foldlM step (none, none, none)) ?_)
      funext s f
      unfold beside enter
      dsimp only
      split
      · rfl
      · split
        · rw [bind_assoc]
          rfl
        · split
          · rw [bind_assoc]
            rfl
          · rfl
    rw [hthree, beside_named_iff hothers, hrest]
    exact (and_iff_right trivial).symm
  | positional items =>
    constructor
    · intro h
      obtain ⟨x', hx, h⟩ := exists_of_bind_ok h
      obtain ⟨y', hy, h⟩ := exists_of_bind_ok h
      obtain ⟨z', hz, h⟩ := exists_of_bind_ok h
      obtain ⟨⟨⟩, hleft, h⟩ := exists_of_bind_ok h
      cases h
      exact ⟨noneLeft_eq_ok_iff.1 hleft, gives_positional_iff.1 hx, gives_positional_iff.1 hy,
        gives_positional_iff.1 hz⟩
    · rintro ⟨hleft, hx, hy, hz⟩
      rw [three, gives_positional_iff.2 hx, ok_bind, gives_positional_iff.2 hy, ok_bind,
        gives_positional_iff.2 hz, ok_bind, noneLeft_eq_ok_iff.2 hleft]
      rfl

/-! ### Besides a tag -/

section Rest

variable {tagName : String} {x : α} {y : β} {z : γ}

theorem zero_of_rest? (h : v.rest? tagName = some body) : zero body = .ok () ↔ v.AtMost 1 :=
  zero_eq_ok_iff.trans (atMost_of_rest? h 0)

theorem one_of_rest? (h : v.rest? tagName = some body) (ha : a.name ≠ tagName) :
    one form a body = .ok x ↔ v.AtMost 2 ∧ v.Gives 1 a x := by
  rw [one_eq_ok_iff, atMost_of_rest? h, gives_of_rest? h ha]

theorem two_of_rest? (h : v.rest? tagName = some body) (ha : a.name ≠ tagName)
    (hb : b.name ≠ tagName) (hab : a.name ≠ b.name) :
    two form a b body = .ok (x, y) ↔ v.AtMost 3 ∧ v.Gives 1 a x ∧ v.Gives 2 b y := by
  rw [two_eq_ok_iff hab, atMost_of_rest? h, gives_of_rest? h ha, gives_of_rest? h hb]

theorem three_of_rest? (h : v.rest? tagName = some body) (ha : a.name ≠ tagName)
    (hb : b.name ≠ tagName) (hc : c.name ≠ tagName) (hab : a.name ≠ b.name)
    (hac : a.name ≠ c.name) (hbc : b.name ≠ c.name) :
    three form a b c body = .ok (x, y, z) ↔
      v.AtMost 4 ∧ v.Gives 1 a x ∧ v.Gives 2 b y ∧ v.Gives 3 c z := by
  rw [three_eq_ok_iff hab hac hbc, atMost_of_rest? h, gives_of_rest? h ha, gives_of_rest? h hb,
    gives_of_rest? h hc]

end Rest

end Fields

/-! ## Another member in the place of one -/

/-- The slot of a name and a position is the one for a member. -/
def Fills : Json → Nat → Nat → String → Prop
  | .object fields, m, _, name => ∃ x, fields[m]? = some (name, x)
  | .array _, m, i, _ => m = i
  | _, _, _, _ => False

section Members

variable {m i n : Nat}

theorem atMost_setMember : (v.setMember m y).AtMost n ↔ v.AtMost n := by
  cases v with
  | array items =>
    change (items.set m y).length ≤ n ↔ items.length ≤ n
    rw [List.length_set]
  | object fields =>
    simp only [setMember]
    split <;> exact Iff.rfl
  | null | boolean | number | string => exact Iff.rfl

/-- What is in a slot is the member it is for. -/
theorem eq_of_fills (hx : v.members[m]? = some x) (h : v.Fills m i name)
    (hy : v.slot? i name = some y) : x = y := by
  cases v with
  | array items =>
    cases h
    exact Option.some.inj (hx.symm.trans hy)
  | object fields =>
    obtain ⟨k, hfield⟩ := exists_field_of_members hx
    obtain ⟨u, hname⟩ := h
    cases hfield.symm.trans hname
    exact eq_of_sole hfield hy
  | null | boolean | number | string => cases hx

/-- And it is for one of the members, if there is something in it. -/
theorem exists_fills (h : v.slot? i name = some x) :
    ∃ m, v.members[m]? = some x ∧ v.Fills m i name := by
  cases v with
  | array items => exact ⟨i, h, rfl⟩
  | object fields =>
    obtain ⟨m, hm⟩ := exists_getElem?_of_sole h
    exact ⟨m, by rw [members, List.getElem?_map, hm]; rfl, x, hm⟩
  | null | boolean | number | string => cases h

/-- **Another member in the place of one is in its slot.** -/
theorem slot?_setMember (hx : v.members[m]? = some x) (h : v.Fills m i name) :
    (v.setMember m y).slot? i name = (v.slot? i name).map fun _ => y := by
  cases v with
  | array items =>
    cases h
    change (items.set m y)[m]? = items[m]?.map fun _ => y
    rw [List.getElem?_set_self']
    rfl
  | object fields =>
    obtain ⟨k, hfield⟩ := exists_field_of_members hx
    obtain ⟨u, hname⟩ := h
    cases hfield.symm.trans hname
    rw [setMember_object hfield]
    exact sole_set hfield
  | null | boolean | number | string => cases hx

/-- **And all other slots are as they were.** -/
theorem slot?_setMember_of_not_fills (hx : v.members[m]? = some x) (h : ¬ v.Fills m i name) :
    (v.setMember m y).slot? i name = v.slot? i name := by
  cases v with
  | array items => exact List.getElem?_set_ne h
  | object fields =>
    obtain ⟨k, hfield⟩ := exists_field_of_members hx
    have hk : k ≠ name := by
      rintro rfl
      exact h ⟨x, hfield⟩
    rw [setMember_object hfield]
    exact sole_set_of_ne hfield hk
  | null | boolean | number | string => cases hx

end Members

end Json

end DialogueScript
