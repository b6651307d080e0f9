import DialogueScript.Proofs.Json.Numerals
import DialogueScript.Proofs.Json.Spelling
import DialogueScript.Script.Stored
/-!
# Stored values and scopes are read back

Values and scopes are read from any spelling of the JSON values they are
stored as, with the variables in any order. Numbers are the exception in two
ways. One that is infinite or no number is stored as nothing and refused; any
other is read or refused, and whether it is reproduced is a matter of its
digits.
-/

namespace DialogueScript

open Json Reader

variable {inside : Nat} {text : List Char}

/-! ## Values -/

namespace Value

/-- What the stored text of a value is read as. Only a number can come back changed, or not at
all. -/
def reread? : Value → Option Value
  | .number x => (Json.reread? x).map .number
  | v => some v

/-- A value whose number, if it is one, is reproduced. -/
def Reproduced : Value → Prop
  | .number x => Json.Reproduced x
  | _ => True

theorem reproduced_of_type {v : Value} (h : v.type ≠ .number) : v.Reproduced := by
  cases v with
  | number x => exact absurd rfl h
  | null => trivial
  | boolean b => trivial
  | string s => trivial

/-- A number that is infinite or not a number. -/
def Unwritable : Value → Prop
  | .number x => x.isInf = true ∨ x.isNaN = true
  | _ => False

theorem reread?_eq_some_iff {v : Value} : v.reread? = some v ↔ v.Reproduced := by
  cases v <;> simp [reread?, Reproduced, Json.Reproduced]

theorem reread?_eq_none {v : Value} (h : v.Unwritable) : v.reread? = none := by
  cases v with
  | number x => rw [reread?, Json.reread?_eq_none h, Option.map_none]
  | null => exact h.elim
  | boolean b => exact h.elim
  | string s => exact h.elim

theorem pickType_ok {name : String} {t : ValueType} (h : typeNames.lookup name = some t)
    (cs : List Char) : pickType name cs = .ok (t, cs) := by
  rw [pickType, h]
  rfl

/-- The name of a type is read as the type. -/
theorem reads_readType {name : String} {t : ValueType} (h : typeNames.lookup name = some t) :
    Reads readType (writeString name) t := by
  intro gap rest hgap _
  have hpeek : peek (gap ++ (writeString name ++ rest)) =
      .ok (some '"', writeString name ++ rest) := peek_gap hgap rfl _
  rw [readType, bind_ok hpeek]
  change (Reader.string >>= pickType) (writeString name ++ rest) = _
  rw [bind_ok (string_written name rest), pickType_ok h]

/-- A type that comes first is kept. -/
theorem stepReads_type {name : String} {t : ValueType} (h : typeNames.lookup name = some t) :
    StepReads (readField inside) .nothing "t" (writeString name) (.typed t) := by
  intro gap rest hgap hrest
  change (colon >>= fun _ => readType >>= fun t => pure (Progress.typed t)) _ = _
  rw [bind_ok (colon_append _), bind_ok (reads_readType h gap rest hgap hrest)]
  rfl

/-- Content behind its type completes the value. -/
theorem stepReads_content {t : ValueType} {v : Value} (h : Reads (readContent t) text v) :
    StepReads (readField inside) (.typed t) "v" text (.complete v) := by
  intro gap rest hgap hrest
  change (colon >>= fun _ => readContent t >>= fun v => pure (Progress.complete v)) _ = _
  rw [bind_ok (colon_append _), bind_ok (h gap rest hgap hrest)]
  rfl

theorem stepRefuses_content {t : ValueType} (h : Refuses (readContent t) text) :
    StepRefuses (readField inside) (.typed t) "v" text := by
  intro gap rest hgap hrest
  obtain ⟨f, hf⟩ := h gap rest hgap hrest
  refine ⟨f, ?_⟩
  change (colon >>= fun _ => readContent t >>= fun v => pure (Progress.complete v)) _ = _
  rw [bind_ok (colon_append _), bind_error hf]

variable {name : String} {t : ValueType} {content : Json}

/-- A value of a type with content is stored as an object of both. -/
theorem reads_of_content {v : Value} (ht : typeNames.lookup name = some t)
    (hcontent : ∀ text, Spells content text → Reads (readContent t) text v)
    (h : Spells (.object [("t", .string name), ("v", content)]) text) :
    Reads (reader inside) text v := by
  rcases h with _ | _ | _ | _ | _ | ⟨hbefore, hafter, hlines⟩
  rcases hlines with _ | ⟨hgap, htype, hlines⟩
  rcases hlines with _ | ⟨hgap', hspells, hlines⟩
  cases htype
  cases hlines
  have hread := hcontent _ hspells
  exact reads_record hbefore hafter
    (.cons hgap (stepReads_type ht) (.cons hgap' (stepReads_content hread) .nil)) fun _ => rfl

theorem refuses_of_content (ht : typeNames.lookup name = some t)
    (hcontent : ∀ text, Spells content text → Refuses (readContent t) text)
    (h : Spells (.object [("t", .string name), ("v", content)]) text) :
    Refuses (reader inside) text := by
  rcases h with _ | _ | _ | _ | _ | ⟨hbefore, hafter, hlines⟩
  rcases hlines with _ | ⟨hgap, htype, hlines⟩
  rcases hlines with _ | ⟨hgap', hspells, hlines⟩
  cases htype
  have hrefused := hcontent _ hspells
  exact refuses_record hbefore hafter
    (.later hgap (stepReads_type ht) (.here hgap' (stepRefuses_content hrefused)))

/-- A value without content is stored as its type. -/
theorem reads_null (h : Spells Value.null.toJson text) : Reads (reader inside) text .null := by
  rcases h with _ | _ | _ | _ | _ | ⟨hbefore, hafter, hlines⟩
  rcases hlines with _ | ⟨hgap, htype, hlines⟩
  cases htype
  cases hlines
  have htype : typeNames.lookup "Null" = some .null := rfl
  exact reads_record hbefore hafter (.cons hgap (stepReads_type htype) .nil) fun _ => rfl

/-- A reader of content, with what it reads turned into a value. -/
theorem reads_map {α : Type} {r : Reader α} {a : α} (g : α → Value) (h : Reads r text a) :
    Reads (g <$> r) text (g a) :=
  fun gap rest hgap hrest => map_ok (h gap rest hgap hrest)

theorem refuses_map {α : Type} {r : Reader α} (g : α → Value) (h : Refuses r text) :
    Refuses (g <$> r) text := by
  intro gap rest hgap hrest
  obtain ⟨f, hf⟩ := h gap rest hgap hrest
  exact ⟨f, map_error hf⟩

/-- **A value is read from every spelling** as it is read alone. -/
theorem reads_value {v v' : Value} (hv : v.reread? = some v') (h : Spells v.toJson text) :
    Reads (reader inside) text v' := by
  cases v with
  | null =>
    cases hv
    exact reads_null h
  | boolean b =>
    cases hv
    refine reads_of_content rfl (fun text hspells => ?_) h
    cases hspells
    exact reads_map .boolean (reads_boolean b)
  | number x =>
    obtain ⟨y, hy, rfl⟩ := Option.map_eq_some_iff.1 hv
    refine reads_of_content rfl (fun text hspells => ?_) h
    cases hspells
    exact reads_map .number (reads_float hy)
  | string s =>
    cases hv
    refine reads_of_content rfl (fun text hspells => ?_) h
    cases hspells
    exact reads_map .string (reads_string s)

/-- **Or it is refused in every spelling.** -/
theorem refuses_value {v : Value} (hv : v.reread? = none) (h : Spells v.toJson text) :
    Refuses (reader inside) text := by
  cases v with
  | number x =>
    refine refuses_of_content rfl (fun text hspells => ?_) h
    cases hspells
    exact refuses_map .number (refuses_float (Option.map_eq_none_iff.1 hv))
  | null => cases hv
  | boolean b => cases hv
  | string s => cases hv

end Value

/-! ## Variables in any order -/

namespace Variables

variable {entries : List (String × Value)}

/-- A new name is placed among others. -/
theorem perm_place {name : String} (value : Value) (h : ∀ e ∈ entries, e.1 ≠ name) :
    (place name value entries).Perm ((name, value) :: entries) := by
  induction entries with
  | nil => exact .refl _
  | cons e rest ih =>
    obtain ⟨n, v⟩ := e
    have hne : name ≠ n := fun heq => h (n, v) (by simp) heq.symm
    rw [place, if_neg hne]
    split
    · exact .refl _
    · exact ((ih fun e he => h e (by simp [he])).cons (n, v)).trans (.swap ..)

/-- Variables that are set one after the other, each name once. -/
theorem perm_foldl_set (entries : List (String × Value)) (vars : Variables)
    (hentries : (entries.map Prod.fst).Nodup)
    (hvars : ∀ e ∈ entries, ∀ e' ∈ vars.entries, e'.1 ≠ e.1) :
    (entries.foldl (fun vars (name, value) => vars.set name value) vars).entries.Perm
      (entries ++ vars.entries) := by
  induction entries generalizing vars with
  | nil => exact .refl _
  | cons e rest ih =>
    obtain ⟨name, value⟩ := e
    rw [List.map_cons, List.nodup_cons] at hentries
    have hplace : (vars.set name value).entries.Perm ((name, value) :: vars.entries) :=
      perm_place value (hvars (name, value) (by simp))
    -- the name just set is none of those to come, and no other is new
    have hrest := ih (vars.set name value) hentries.2 (by
      intro e he e' he'
      rcases List.mem_cons.1 (hplace.mem_iff.1 he') with rfl | he'
      · intro heq
        exact hentries.1 (List.mem_map.2 ⟨e, he, heq.symm⟩)
      · exact hvars e (by simp [he]) e' he')
    exact hrest.trans ((hplace.append_left rest).trans List.perm_middle)

/-- **Variables are the same whatever order they are listed in.** -/
theorem ofList_of_perm {vars : Variables} (h : entries.Perm vars.entries) :
    ofList entries = vars := by
  have hnodup : (entries.map Prod.fst).Nodup := by
    rw [(h.map Prod.fst).nodup_iff, List.Nodup, List.pairwise_map]
    refine vars.ordered.imp fun {a b} hlt heq => ?_
    rw [heq] at hlt
    exact String.lt_irrefl _ hlt
  have hperm : (ofList entries).entries.Perm vars.entries := by
    have hset := perm_foldl_set entries empty hnodup (by simp [empty])
    rw [show empty.entries = [] from rfl, List.append_nil] at hset
    exact hset.trans h
  -- two lists of the same entries that are both in order are one
  have hentries : (ofList entries).entries = vars.entries :=
    hperm.eq_of_pairwise
      (fun _ _ _ _ hab hba => absurd (String.lt_trans hab hba) (String.lt_irrefl _))
      (ofList entries).ordered vars.ordered
  cases hlist : ofList entries
  cases vars
  rw [hlist] at hentries
  cases hentries
  rfl

end Variables

/-! ## Scopes -/

namespace Scope

variable {entries : List (String × Value)} {lines : List (List Char)}

/-- What the stored variables are read as, if none is refused. -/
def rereadAll? : List (String × Value) → Option (List (String × Value))
  | [] => some []
  | (name, v) :: rest =>
    match v.reread?, rereadAll? rest with
    | some v, some rest => some ((name, v) :: rest)
    | _, _ => none

/-- Variables are read one after the other. -/
theorem steps_vars (inside : Nat) {entries' : List (String × Value)}
    (hentries : rereadAll? entries = some entries') (read : List (String × Value))
    (h : SpellsFields (entries.map fun (name, v) => (name, v.toJson)) lines) :
    Steps (keyed (Value.reader inside)) read lines (entries'.reverse ++ read) := by
  induction entries generalizing entries' read lines with
  | nil =>
    cases h
    cases hentries
    exact .nil
  | cons e rest ih =>
    obtain ⟨name, v⟩ := e
    rcases h with _ | ⟨hgap, hspells, hlines⟩
    simp only [rereadAll?] at hentries
    split at hentries
    · rename_i v' rest' hv hrest
      cases hentries
      rw [List.reverse_cons, List.append_assoc]
      exact .cons hgap (stepReads_keyed read name (Value.reads_value hv hspells))
        (ih hrest ((name, v') :: read) hlines)
    · cases hentries

/-- Variables up to the first that is refused are read. -/
theorem breaks_vars (inside : Nat) (hentries : rereadAll? entries = none)
    (read : List (String × Value))
    (h : SpellsFields (entries.map fun (name, v) => (name, v.toJson)) lines) :
    Breaks (keyed (Value.reader inside)) read lines := by
  induction entries generalizing read lines with
  | nil => cases hentries
  | cons e rest ih =>
    obtain ⟨name, v⟩ := e
    rcases h with _ | ⟨hgap, hspells, hlines⟩
    cases hv : v.reread? with
    | none => exact .here hgap (stepRefuses_keyed read name (Value.refuses_value hv hspells))
    | some v' =>
      cases hrest : rereadAll? rest with
      | none =>
        exact .later hgap (stepReads_keyed read name (Value.reads_value hv hspells))
          (ih hrest _ hlines)
      | some rest' => simp [rereadAll?, hv, hrest] at hentries

theorem reads_readVars {vars : Variables} {entries' : List (String × Value)}
    (hentries : rereadAll? entries = some entries') (hperm : entries'.Perm vars.entries)
    (h : Spells (varsJson entries) text) : Reads (readVars inside) text vars := by
  rcases h with _ | _ | _ | _ | _ | ⟨hbefore, hafter, hlines⟩
  have hreads := reads_mapping hbefore hafter (steps_vars inside hentries [] hlines)
  intro gap rest hgap hrest
  rw [readVars, bind_ok (hreads gap rest hgap hrest), List.append_nil, List.reverse_reverse,
    Variables.ofList_of_perm hperm]
  rfl

theorem refuses_readVars (hentries : rereadAll? entries = none)
    (h : Spells (varsJson entries) text) : Refuses (readVars inside) text := by
  rcases h with _ | _ | _ | _ | _ | ⟨hbefore, hafter, hlines⟩
  have hrefuses := refuses_mapping hbefore hafter (breaks_vars inside hentries [] hlines)
  intro gap rest hgap hrest
  obtain ⟨f, hf⟩ := hrefuses gap rest hgap hrest
  exact ⟨f, by rw [readVars, bind_error hf]⟩

theorem stepReads_dialog (dialog : String) :
    StepReads (readField inside) {} "dialog" (writeString dialog) { dialog := some dialog } :=
  stepReads_slot (Slots.mk · none) rfl (reads_string dialog)

theorem stepReads_vars {vars : Variables} (dialog : String)
    (h : Reads (readVars inside) text vars) :
    StepReads (readField inside) { dialog := some dialog } "vars" text
      { dialog := some dialog, vars := some vars } :=
  stepReads_slot (Slots.mk (some dialog)) rfl h

theorem stepRefuses_vars (dialog : String) (h : Refuses (readVars inside) text) :
    StepRefuses (readField inside) { dialog := some dialog } "vars" text :=
  stepRefuses_slot (Slots.mk (some dialog)) rfl h

/-- **A scope is read from every spelling**, with its variables in any order. -/
theorem reads_scope {s : Scope} {vars : Variables} {entries' : List (String × Value)}
    (hentries : rereadAll? entries = some entries') (hperm : entries'.Perm vars.entries)
    (h : Spells (s.arranged entries) text) : Reads (reader inside) text ⟨s.dialog, vars⟩ := by
  rcases h with _ | _ | _ | _ | _ | ⟨hbefore, hafter, hlines⟩
  rcases hlines with _ | ⟨hgap, hdialog, hlines⟩
  rcases hlines with _ | ⟨hgap', hvars, hlines⟩
  cases hdialog
  cases hlines
  have hread : Reads (readVars (inside - 2)) _ vars := reads_readVars hentries hperm hvars
  exact reads_record hbefore hafter
    (.cons hgap (stepReads_dialog s.dialog) (.cons hgap' (stepReads_vars s.dialog hread) .nil))
    fun _ => rfl

/-- **A scope is refused if one of its variables is.** -/
theorem refuses_scope {s : Scope} (hentries : rereadAll? entries = none)
    (h : Spells (s.arranged entries) text) : Refuses (reader inside) text := by
  rcases h with _ | _ | _ | _ | _ | ⟨hbefore, hafter, hlines⟩
  rcases hlines with _ | ⟨hgap, hdialog, hlines⟩
  rcases hlines with _ | ⟨hgap', hvars, hlines⟩
  cases hdialog
  have hrefused : Refuses (readVars (inside - 2)) _ := refuses_readVars hentries hvars
  exact refuses_record hbefore hafter
    (.later hgap (stepReads_dialog s.dialog) (.here hgap' (stepRefuses_vars s.dialog hrefused)))

/-! ### What becomes of all variables -/

/-- All variables come back as they were if and only if every number is reproduced. -/
theorem rereadAll?_eq_some_iff :
    rereadAll? entries = some entries ↔ ∀ e ∈ entries, e.2.Reproduced := by
  induction entries with
  | nil => simp [rereadAll?]
  | cons e rest ih =>
    obtain ⟨name, v⟩ := e
    rw [List.forall_mem_cons, ← ih, ← Value.reread?_eq_some_iff, rereadAll?]
    cases v.reread? <;> cases rereadAll? rest <;> simp

/-- One variable that is refused is enough. -/
theorem rereadAll?_eq_none (h : ∃ e ∈ entries, e.2.reread? = none) : rereadAll? entries = none := by
  induction entries with
  | nil =>
    obtain ⟨e, he, -⟩ := h
    cases he
  | cons e rest ih =>
    obtain ⟨name, v⟩ := e
    rw [List.exists_mem_cons_iff] at h
    rw [rereadAll?]
    rcases h with h | h
    · rw [show v.reread? = none from h]
    · rw [ih h]
      cases v.reread? <;> rfl

/-- Variables keep their names. -/
theorem names_rereadAll? {entries' : List (String × Value)}
    (h : rereadAll? entries = some entries') :
    entries'.map Prod.fst = entries.map Prod.fst := by
  induction entries generalizing entries' with
  | nil =>
    cases h
    rfl
  | cons e rest ih =>
    simp only [rereadAll?] at h
    split at h
    · rename_i v' rest' hv hrest
      cases h
      rw [List.map_cons, List.map_cons, ih hrest]
    · cases h

/-- In another order they come back in that order. -/
theorem exists_rereadAll?_of_perm {others entries' : List (String × Value)}
    (h : entries.Perm others) (hentries : rereadAll? entries = some entries') :
    ∃ others', rereadAll? others = some others' ∧ entries'.Perm others' := by
  induction h generalizing entries' with
  | nil => exact ⟨entries', hentries, .refl _⟩
  | @cons e rest rest' _ ih =>
    obtain ⟨name, v⟩ := e
    simp only [rereadAll?] at hentries ⊢
    split at hentries
    · rename_i v' read hv hread
      cases hentries
      obtain ⟨read', hread', hperm⟩ := ih hread
      exact ⟨(name, v') :: read', by simp only [hv, hread'], hperm.cons _⟩
    · cases hentries
  | swap e e' rest =>
    obtain ⟨name, v⟩ := e
    obtain ⟨name', v'⟩ := e'
    simp only [rereadAll?] at hentries ⊢
    cases hv : v.reread? <;> cases hv' : v'.reread? <;> cases hrest : rereadAll? rest <;>
      simp only [hv, hv', hrest, reduceCtorEq] at hentries
    cases hentries
    exact ⟨_, rfl, .swap _ _ _⟩
  | trans _ _ ih ih' =>
    obtain ⟨read, hread, hperm⟩ := ih hentries
    obtain ⟨read', hread', hperm'⟩ := ih' hread
    exact ⟨read', hread', hperm.trans hperm'⟩

end Scope

end DialogueScript
