import DialogueScript.Proofs.Json.Rounds
/-!
# How far values reach

`Fronts` says what stands at the front of a text where a value is read: a list
or an object by its rounds, or a scalar. So a value spans what it is read from
(`spans_value`), and a whole text is read as a value exactly if it stands for it
(`run_eq_ok_iff`).

The parts of a value have places in it, and each stands in a place of the text.
`exists_exchange_of_read` says that the text of a part can be exchanged for
another without anything else being read in another way: a part is only ever
followed by what can follow a value, and what is in front of it is read before
it is looked at.
-/

namespace DialogueScript

namespace Json

open Reader

/-! ## Values -/

section Values

variable {rest cs : List Char} {v : Json} {nested : Option (Reader Json)}

/-- What stands at the front of a text, if a value does. -/
inductive Fronts (nested : Option (Reader Json)) : List Char → Json → List Char → Prop
  | list {item : Reader Json} {cs rest : List Char} {items : List Json} :
      nested = some item → Items item true cs items (']' :: rest) →
      Fronts nested ('[' :: cs) (.array items) rest
  | object {item : Reader Json} {cs rest : List Char} {fields : List (String × Json)} :
      nested = some item → Entries item true cs fields ('\x7d' :: rest) →
      Fronts nested ('\x7b' :: cs) (.object fields) rest
  | scalar {c : Char} {cs rest : List Char} {s : Scalar} :
      isBlank c = false → c ≠ '[' → c ≠ '\x7b' → scalar? c (c :: cs) = .ok (some s, rest) →
      Fronts nested (c :: cs) (ofScalar s) rest

theorem foldlM_keyed (fields read : List (String × Json)) :
    fields.foldlM (fun read f => some (f :: read)) read = some (fields.reverse ++ read) := by
  induction fields generalizing read with
  | nil => rfl
  | cons f fs ih =>
    rw [List.foldlM_cons, List.reverse_cons, List.append_assoc]
    exact ih (f :: read)

/-- An object whose keys are data is its fields. -/
theorem object_keyed_eq_ok_iff {item : Reader Json} (hspans : Spans item) {c : Char}
    {fields : List (String × Json)} :
    Reader.object (keyed item) [] (fun read => pure read.reverse) (c :: cs) = .ok (fields, rest) ↔
      Entries item true cs fields ('\x7d' :: rest) := by
  let result := fun read : List (String × Json) => some read.reverse
  have hfinish : ∀ (read : List (String × Json)) cs fields rest,
      (pure read.reverse : Reader _) cs = .ok (fields, rest) ↔
        result read = some fields ∧ rest = cs := by
    intro read cs fields rest
    change Except.ok (read.reverse, cs) = .ok (fields, rest) ↔ some read.reverse = some fields ∧ _
    rw [Except.ok.injEq, Prod.mk.injEq, Option.some.injEq, eq_comm (a := rest)]
  have hresult : ∀ fs : List (String × Json),
      (fs.foldlM (fun read f => some (f :: read)) []).bind result = some fs := by
    intro fs
    rw [foldlM_keyed, List.append_nil]
    exact congrArg some (List.reverse_reverse fs)
  rw [object_eq_ok_iff hspans (enters_keyed item) hfinish]
  constructor
  · rintro ⟨fs, hfs, hfold⟩
    rw [hresult] at hfold
    cases hfold
    exact hfs
  · intro hfs
    exact ⟨fields, hfs, hresult fields⟩

/-- **A value is read where one stands**, behind blanks. -/
theorem valueWith_eq_ok_iff (hspans : ∀ item, nested = some item → Spans item) :
    valueWith nested cs = .ok (v, rest) ↔
      ∃ gap mid, Blank gap ∧ cs = gap ++ mid ∧ Fronts nested mid v rest := by
  constructor
  · intro h
    obtain ⟨gap, mid, hgap, rfl, hpeek, hblank⟩ := exists_gap cs
    refine ⟨gap, mid, hgap, rfl, ?_⟩
    unfold valueWith at h
    rw [bind_ok hpeek] at h
    generalize hhead : mid.head? = c? at h
    split at h
    · cases h
    · obtain ⟨tail, rfl⟩ := List.head?_eq_some_iff.1 hhead
      cases nested with
      | none => cases h
      | some item =>
        obtain ⟨items, mid, hlist, h⟩ := exists_of_bind h
        cases h
        exact .list rfl ((list_eq_ok_iff (hspans item rfl)).1 hlist)
    · obtain ⟨tail, rfl⟩ := List.head?_eq_some_iff.1 hhead
      cases nested with
      | none => cases h
      | some item =>
        obtain ⟨fields, mid, hobject, h⟩ := exists_of_bind h
        cases h
        exact .object rfl ((object_keyed_eq_ok_iff (hspans item rfl)).1 hobject)
    · rename_i c hlist hobject
      obtain ⟨tail, rfl⟩ := List.head?_eq_some_iff.1 hhead
      obtain ⟨s?, mid, hscalar, h⟩ := exists_of_bind h
      cases s? with
      | none => cases h
      | some s =>
        cases h
        refine .scalar (hblank c rfl) ?_ ?_ hscalar
        · rintro rfl
          exact hlist rfl
        · rintro rfl
          exact hobject rfl
  · rintro ⟨gap, mid, hgap, rfl, hfronts⟩
    cases hfronts with
    | @list item tail rest items hitem hitems =>
      subst hitem
      have hlist := (list_eq_ok_iff (c := '[') (hspans item rfl)).2 hitems
      unfold valueWith
      rw [bind_ok (peek_gap hgap rfl _)]
      exact bind_ok hlist
    | @object item tail rest fields hitem hfields =>
      subst hitem
      have hobject := (object_keyed_eq_ok_iff (c := '\x7b') (hspans item rfl)).2 hfields
      unfold valueWith
      rw [bind_ok (peek_gap hgap rfl _)]
      exact bind_ok hobject
    | scalar hc hlist hobject hscalar => exact valueWith_scalar hgap hc hlist hobject hscalar

theorem spans_valueWith (hspans : ∀ item, nested = some item → Spans item) :
    Spans (valueWith nested) := by
  intro cs v rest h
  obtain ⟨gap, mid, hgap, rfl, hfronts⟩ := (valueWith_eq_ok_iff hspans).1 h
  cases hfronts with
  | @list item tail rest items hitem hitems =>
    obtain ⟨text, rfl, hagain⟩ := hitems.again (hspans item hitem)
    refine ⟨gap, '[' :: (text ++ [']']), hgap, ⟨_, _, rfl, by decide⟩, by simp, ?_⟩
    intro gap' rest' hgap' _
    refine (valueWith_eq_ok_iff hspans).2 ⟨gap', _, hgap', rfl, ?_⟩
    simpa using Fronts.list hitem (hagain rest')
  | @object item tail rest fields hitem hfields =>
    obtain ⟨text, rfl, hagain⟩ := hfields.again (hspans item hitem)
    refine ⟨gap, '\x7b' :: (text ++ ['\x7d']), hgap, ⟨_, _, rfl, by decide⟩, by simp, ?_⟩
    intro gap' rest' hgap' _
    refine (valueWith_eq_ok_iff hspans).2 ⟨gap', _, hgap', rfl, ?_⟩
    simpa using Fronts.object hitem (hagain rest')
  | @scalar c tail rest s hc hlist hobject hscalar =>
    obtain ⟨text, rfl, hagain⟩ := exists_of_scalar? hscalar
    refine ⟨gap, c :: text, hgap, opens_of_scalar? hc hscalar text, by simp, ?_⟩
    intro gap' rest' hgap' hrest'
    exact (valueWith_eq_ok_iff hspans).2
      ⟨gap', _, hgap', rfl, .scalar hc hlist hobject (hagain rest' hrest')⟩

/-- What the items of a value are read by. -/
def nestedValue : (depth : Nat) → Option (Reader Json)
  | 0 => none
  | depth + 1 => some (value depth)

theorem value_eq_valueWith (d : Nat) : value d = valueWith (nestedValue d) := by
  cases d <;> rfl

/-- **A value is read from the same piece wherever it stands.** -/
theorem spans_value (d : Nat) : Spans (value d) := by
  induction d with
  | zero => exact @spans_valueWith none nofun
  | succ d ih =>
    refine @spans_valueWith (some (value d)) ?_
    rintro item ⟨⟩
    exact ih

theorem spans_nestedValue {d : Nat} {item : Reader Json} (h : nestedValue d = some item) :
    Spans item := by
  cases d with
  | zero => cases h
  | succ d =>
    cases h
    exact spans_value d

theorem value_eq_ok_iff {d : Nat} :
    value d cs = .ok (v, rest) ↔
      ∃ gap mid, Blank gap ∧ cs = gap ++ mid ∧ Fronts (nestedValue d) mid v rest := by
  rw [value_eq_valueWith]
  exact valueWith_eq_ok_iff fun item => spans_nestedValue

/-- **How deep a value may nest is all that the limit decides**: under another limit that it keeps,
it is read from the same piece. -/
theorem value_of_depth_le {d d' : Nat} (h : value d cs = .ok (v, rest)) (hv : v.depth ≤ d') :
    value d' cs = .ok (v, rest) := by
  induction d' generalizing d cs v rest with
  | zero =>
    obtain ⟨gap, mid, hgap, rfl, hfronts⟩ := value_eq_ok_iff.1 h
    cases hfronts with
    | list _ _ => simp [depth] at hv
    | object _ _ => simp [depth] at hv
    | scalar hc hlist hobject hscalar =>
      exact value_eq_ok_iff.2 ⟨gap, _, hgap, rfl, .scalar hc hlist hobject hscalar⟩
  | succ d' ih =>
    obtain ⟨gap, mid, hgap, rfl, hfronts⟩ := value_eq_ok_iff.1 h
    refine value_eq_ok_iff.2 ⟨gap, mid, hgap, rfl, ?_⟩
    cases hfronts with
    | @list item cs _ items hitem hitems =>
      have hinside : depthItems items ≤ d' := by
        rw [depth] at hv
        omega
      cases d with
      | zero => cases hitem
      | succ d =>
        cases hitem
        -- under either limit the items are read one level further in
        refine .list rfl (hitems.imp fun x hx cs post hread => ?_)
        exact ih hread (depthItems_le_iff.1 hinside x hx)
    | @object item cs _ fields hitem hfields =>
      have hinside : depthFields fields ≤ d' := by
        rw [depth] at hv
        omega
      cases d with
      | zero => cases hitem
      | succ d =>
        cases hitem
        refine .object rfl (hfields.imp fun f hf cs post hread => ?_)
        exact ih hread (depthFields_le_iff.1 hinside f hf)
    | scalar hc hlist hobject hscalar => exact .scalar hc hlist hobject hscalar

theorem reads_of_depth_le {d d' : Nat} {text : List Char} (h : Reads (value d) text v)
    (hv : v.depth ≤ d') : Reads (value d') text v :=
  fun gap rest hgap hrest => value_of_depth_le (h gap rest hgap hrest) hv

theorem stands_of_depth_le {d d' : Nat} {text : List Char} (h : Stands (value d) text v)
    (hv : v.depth ≤ d') : Stands (value d') text v := by
  obtain ⟨gap, piece, gap', hgap, hgap', hpiece, rfl, hreads⟩ := h
  exact ⟨gap, piece, gap', hgap, hgap', hpiece, rfl, reads_of_depth_le hreads hv⟩

theorem depth_le_of_stands {d : Nat} {text : List Char} (h : Stands (value d) text v) :
    v.depth ≤ d := by
  obtain ⟨gap, piece, gap', -, -, -, rfl, hreads⟩ := h
  exact yields_value d _ _ _ (hreads [] [] blank_nil ends_nil)

end Values

/-! ## Whole texts -/

theorem ends_of_blank {gap : List Char} (h : Blank gap) : Ends gap :=
  fun c hc => .inl (h c (List.mem_of_mem_head? hc))

/-- Behind what is read of a whole text there are only blanks. -/
theorem run_eq_ok_iff_exists {α : Type} {r : Reader α} {text : String} {a : α} :
    r.run text = .ok a ↔ ∃ rest, r text.toList = .ok (a, rest) ∧ Blank rest := by
  unfold run
  constructor
  · intro h
    split at h
    · cases h
    · rename_i b rest hread
      split at h
      · rename_i hblank
        cases h
        exact ⟨rest, hread, fun c hc => List.all_eq_true.1 hblank c hc⟩
      · cases h
  · rintro ⟨rest, hread, hblank⟩
    rw [hread]
    exact if_pos (List.all_eq_true.2 hblank)

/-- **A whole text is read as what it stands for.** -/
theorem run_eq_ok_iff {α : Type} {r : Reader α} (hspans : Spans r) {text : String} {a : α} :
    r.run text = .ok a ↔ Stands r text.toList a := by
  rw [run_eq_ok_iff_exists]
  constructor
  · rintro ⟨rest, hread, hblank⟩
    obtain ⟨gap, piece, hgap, hpiece, hcs, hreads⟩ := hspans _ _ _ hread
    exact ⟨gap, piece, rest, hgap, hblank, hpiece, hcs, hreads⟩
  · rintro ⟨gap, piece, gap', hgap, hgap', -, htext, hreads⟩
    rw [htext]
    exact ⟨gap', hreads gap gap' hgap (ends_of_blank hgap'), hgap'⟩

/-- A value is read from what it is written as, if it keeps the limit and its numbers are kept. -/
theorem read_compact {v : Json} (hdepth : v.depth ≤ depthLimit) (hkept : ∀ n ∈ v.numbers, n.Kept) :
    read v.compact = .ok v :=
  run_of_reads (reads_value v _ _ hdepth hkept (spells_compactChars v))

/-! ## Parts of a value and of its text -/

/-- The part of a value at a place, which says the member to take at each level. -/
def part? : Json → List Nat → Option Json
  | v, [] => some v
  | v, i :: p => v.members[i]?.bind fun x => x.part? p

/-- A value with another in the place of a member. -/
def setMember : Json → Nat → Json → Json
  | .array items, i, x => .array (items.set i x)
  | .object fields, i, x =>
    match fields[i]? with
    | some (k, _) => .object (fields.set i (k, x))
    | none => .object fields
  | v, _, _ => v

/-- A value with another in the place of a part. -/
def put : Json → List Nat → Json → Json
  | _, [], x => x
  | v, i :: p, x =>
    match v.members[i]? with
    | some y => v.setMember i (y.put p x)
    | none => v

variable {d : Nat} {v x y : Json} {p : List Nat}

theorem exists_field_of_members {fields : List (String × Json)} {i : Nat}
    (h : (object fields).members[i]? = some x) : ∃ k, fields[i]? = some (k, x) := by
  rw [members, List.getElem?_map, Option.map_eq_some_iff] at h
  obtain ⟨⟨k, u⟩, hfield, rfl⟩ := h
  exact ⟨k, hfield⟩

theorem setMember_object {fields : List (String × Json)} {i : Nat} {k : String}
    (h : fields[i]? = some (k, x)) :
    (object fields).setMember i y = .object (fields.set i (k, y)) := by
  simp only [setMember, h]

/-- A member is read one level further in, and can be exchanged for another. -/
theorem exists_exchange_member {text : List Char} {i : Nat} (h : Stands (value d) text v)
    (hx : v.members[i]? = some x) :
    ∃ d' before old after, d = d' + 1 ∧ text = before ++ (old ++ after) ∧
      Stands (value d') old x ∧ ∀ new y, Stands (value d') new y →
        Stands (value d) (before ++ (new ++ after)) (v.setMember i y) := by
  obtain ⟨gap, piece, gap', hgap, hgap', -, rfl, hreads⟩ := h
  have hvalue := hreads [] [] blank_nil ends_nil
  rw [List.nil_append, List.append_nil] at hvalue
  -- the blanks around it belong to what stands before and after the member
  have hwiden : ∀ {text v}, value d text = .ok (v, []) →
      Stands (value d) (gap ++ (text ++ gap')) v := by
    intro text v h
    obtain ⟨gap₁, piece₁, hgap₁, hpiece₁, rfl, hreads₁⟩ := spans_value d _ _ _ h
    exact ⟨gap ++ gap₁, piece₁, gap', blank_append hgap hgap₁, hgap', hpiece₁, by simp, hreads₁⟩
  obtain ⟨gap₀, mid, hgap₀, rfl, hfronts⟩ := value_eq_ok_iff.1 hvalue
  cases hfronts with
  | @list item cs _ items hitem hitems =>
    obtain ⟨d, rfl⟩ : ∃ d', d = d' + 1 := by
      cases d with
      | zero => cases hitem
      | succ d => exact ⟨d, rfl⟩
    cases hitem
    obtain ⟨before, old, after, rfl, hold, hagain⟩ := hitems.exchange (spans_value d) hx
    refine ⟨d, gap ++ (gap₀ ++ '[' :: before), old, after ++ gap', rfl, by simp, hold, ?_⟩
    intro new y hnew
    have hfront : value (d + 1) (gap₀ ++ '[' :: (before ++ (new ++ after))) =
        .ok (.array (items.set i y), []) :=
      value_eq_ok_iff.2 ⟨gap₀, _, hgap₀, rfl, .list rfl (hagain new y hnew)⟩
    have hset : setMember (.array items) i y = .array (items.set i y) := rfl
    rw [hset]
    simpa only [List.append_assoc, List.cons_append] using hwiden hfront
  | @object item cs _ fields hitem hfields =>
    obtain ⟨d, rfl⟩ : ∃ d', d = d' + 1 := by
      cases d with
      | zero => cases hitem
      | succ d => exact ⟨d, rfl⟩
    cases hitem
    obtain ⟨k, hfield⟩ := exists_field_of_members hx
    obtain ⟨before, old, after, rfl, hold, hagain⟩ := hfields.exchange (spans_value d) hfield
    refine ⟨d, gap ++ (gap₀ ++ '\x7b' :: before), old, after ++ gap', rfl, by simp, hold, ?_⟩
    intro new y hnew
    have hfront : value (d + 1) (gap₀ ++ '\x7b' :: (before ++ (new ++ after))) =
        .ok (.object (fields.set i (k, y)), []) :=
      value_eq_ok_iff.2 ⟨gap₀, _, hgap₀, rfl, .object rfl (hagain new y hnew)⟩
    rw [setMember_object hfield]
    simpa only [List.append_assoc, List.cons_append] using hwiden hfront
  | @scalar c cs _ s _ _ _ _ =>
    cases s <;> cases hx

/-- A part is read as many levels further in as its place is long. -/
theorem exists_exchange {text : List Char} (h : Stands (value d) text v)
    (hx : v.part? p = some x) :
    p.length ≤ d ∧ ∃ before old after, text = before ++ (old ++ after) ∧
      Stands (value (d - p.length)) old x ∧ ∀ new y, Stands (value (d - p.length)) new y →
        Stands (value d) (before ++ (new ++ after)) (v.put p y) := by
  induction p generalizing d v text with
  | nil =>
    cases hx
    exact ⟨Nat.zero_le d, [], text, [], by simp, h, fun new y hnew => by simpa [put] using hnew⟩
  | cons i p ih =>
    obtain ⟨y, hy, hx⟩ := Option.bind_eq_some_iff.1 hx
    obtain ⟨d, before, old, after, rfl, rfl, hold, hagain⟩ := exists_exchange_member h hy
    obtain ⟨hlength, before', old', after', rfl, hold', hagain'⟩ := ih hold hx
    have hdepth : d + 1 - (i :: p).length = d - p.length := by simp
    rw [hdepth]
    refine ⟨Nat.succ_le_succ hlength, before ++ before', old', after' ++ after, by simp, hold', ?_⟩
    intro new z hnew
    have hinner := hagain _ _ (hagain' new z hnew)
    simpa only [put, hy, List.append_assoc] using hinner

/-- **A part of a text can be exchanged for the text of any other value**, if the whole nests no
deeper then than it may: it is read as the value with that part exchanged. -/
theorem exists_exchange_of_read {text : String} (h : read text = .ok v)
    (hx : v.part? p = some x) :
    ∃ before old after : String, text = before ++ old ++ after ∧ read old = .ok x ∧
      ∀ new y, read new = .ok y → y.depth + p.length ≤ depthLimit →
        read (before ++ new ++ after) = .ok (v.put p y) := by
  obtain ⟨hlength, before, old, after, htext, hold, hagain⟩ :=
    exists_exchange ((run_eq_ok_iff (spans_value depthLimit)).1 h) hx
  refine ⟨.ofList before, .ofList old, .ofList after, ?_, ?_, fun new y hnew hy => ?_⟩
  · rw [← String.ofList_append, ← String.ofList_append, List.append_assoc, ← htext,
      String.ofList_toList]
  · have hdepth := depth_le_of_stands hold
    rw [read, run_eq_ok_iff (spans_value _), String.toList_ofList]
    exact stands_of_depth_le hold (by omega)
  · rw [read, run_eq_ok_iff (spans_value _)] at hnew ⊢
    rw [String.toList_append, String.toList_append, String.toList_ofList, String.toList_ofList,
      List.append_assoc]
    exact hagain _ _ (stands_of_depth_le hnew (by omega))

end Json

end DialogueScript
