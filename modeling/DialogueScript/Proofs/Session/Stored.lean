import DialogueScript.Proofs.Json.Values
import DialogueScript.Proofs.Script.Stored
import DialogueScript.Proofs.Traversal.Operations
import DialogueScript.Session.Interpreter
/-!
# Stored checkpoints are read back

A checkpoint is written as one JSON text, compact or with one item a line. Its
reader takes a text apart into what was put into it: the state of the
traversal, the dialogue and the variables, whatever order these come in. The
only thing that can get lost is a number, and one that is infinite or not a
number is not lost silently: the text is refused.
-/

namespace DialogueScript

open Json Reader Traversal

variable {text : List Char} {lines : List (List Char)}

/-! ## States -/

namespace Traversal.State

/-- A path whose indices are at most the largest index. -/
def PathFits (s : State) : Prop := ∀ p, s.path = some p → ∀ i ∈ p, i ≤ indexLimit

/-- The items of a path are its indices. -/
theorem readsAll_path {p : Path} (hp : ∀ i ∈ p, i ≤ indexLimit)
    (h : SpellsItems (p.map fun i : Nat => .number (.integer i)) lines) :
    ReadsAll Record.index lines p := by
  induction p generalizing lines with
  | nil =>
    cases h
    exact .nil
  | cons i p ih =>
    rcases h with _ | ⟨hspells, hlines⟩
    cases hspells
    have hwritten : (Number.integer (i : Int)).written.toList = (indexNumeral i).text := by
      rw [text_indexNumeral]
      exact Nat.toList_repr
    have hreads := reads_index (hp i (by simp))
    rw [← text_indexNumeral] at hreads
    rw [hwritten]
    exact .cons ⟨opens_text (wellFormed_indexNumeral i), hreads⟩
      (ih (fun i hi => hp i (by simp [hi])) hlines)

/-- A path, or none, is read as it was written. -/
theorem reads_readPath {s : State} (hs : s.PathFits) (h : Spells (pathJson s.path) text) :
    Reads readPath text s.path := by
  -- the word for no path begins with a letter, and a list with a bracket
  rcases hpath : s.path with _ | p <;> rw [hpath] at h
  · cases h
    exact reads_optional_null
  · rcases h with _ | _ | _ | _ | ⟨hbefore, hafter, hlines⟩
    have hlist := reads_list hbefore hafter (readsAll_path (hs p hpath) hlines)
    exact reads_optional hlist rfl rfl (by decide)

/-- **A state is read back from every spelling.** -/
theorem reads_state {s : State} (hs : s.PathFits) (h : Spells s.toJson text) :
    Reads reader text s := by
  rcases h with _ | _ | _ | _ | _ | ⟨hbefore, hafter, hlines⟩
  rcases hlines with _ | ⟨hgap, hdone, hlines⟩
  rcases hlines with _ | ⟨hgap', hpath, hlines⟩
  rcases hlines with _ | ⟨hgap'', hexiting, hlines⟩
  cases hdone
  cases hexiting
  cases hlines
  have hfirst : StepReads readField {} "done" (writtenBoolean s.done) ⟨some s.done, none, none⟩ :=
    stepReads_slot (Slots.mk · none none) rfl (reads_boolean s.done)
  have hsecond : StepReads readField ⟨some s.done, none, none⟩ "path" _
      ⟨some s.done, some s.path, none⟩ :=
    stepReads_slot (Slots.mk (some s.done) · none) rfl (reads_readPath hs hpath)
  have hthird : StepReads readField ⟨some s.done, some s.path, none⟩ "exiting"
      (writtenBoolean s.exiting) ⟨some s.done, some s.path, some s.exiting⟩ :=
    stepReads_slot (Slots.mk (some s.done) (some s.path)) rfl (reads_boolean s.exiting)
  exact reads_record hbefore hafter
    (.cons hgap hfirst (.cons hgap' hsecond (.cons hgap'' hthird .nil))) fun _ => rfl

/-- The indices that are read of a path fit, whatever the text. -/
theorem yields_readPath :
    Yields readPath fun path? => ∀ p, path? = some p → ∀ i ∈ p, i ≤ indexLimit :=
  yields_optional (yields_sequence yields_index)

/-- **A state that is read has a path that fits.** -/
theorem yields_reader : Yields reader PathFits := by
  have hstep : ∀ (s : Slots) (key : String), (∀ q, s.path = some q → ∀ p, q = some p →
      ∀ i ∈ p, i ≤ indexLimit) → Yields (readField s key) fun s => ∀ q, s.path = some q →
        ∀ p, q = some p → ∀ i ∈ p, i ≤ indexLimit := by
    intro s key hs
    unfold readField
    split
    · exact yields_then fun _ => yields_pure hs
    · exact yields_bind (yields_slot yields_readPath) fun _ hpath => yields_pure hpath
    · exact yields_then fun _ => yields_pure hs
    · exact yields_then fun _ => yields_pure hs
  refine yields_record (yields_object hstep ?_ fun s hs => ?_) ?_
  · intro q hq
    cases hq
  · refine yields_then fun _ => yields_then fun _ => yields_pure ?_
    -- a path that was left out is none
    intro p hp
    cases hpath : s.path with
    | none =>
      rw [hpath] at hp
      cases hp
    | some q =>
      rw [hpath] at hp
      exact hs q hpath p hp
  · exact yields_then fun _ => yields_bind (yields_itemAt yields_readPath) fun _ hpath =>
      yields_then fun _ => yields_pure hpath

end Traversal.State

/-! ## Checkpoints -/

namespace Checkpoint

variable {c : Checkpoint} {entries : List (String × Value)}

theorem stepReads_stepper (hpath : c.stepper.PathFits) (h : Spells c.stepper.toJson text) :
    StepReads readField {} "stepper" text { stepper := some c.stepper } :=
  stepReads_slot (Slots.mk · none) rfl (State.reads_state hpath h)

/-- A checkpoint is read from every spelling, with the variables its entries are read as. -/
theorem reads_checkpoint {vars : Variables} {entries' : List (String × Value)}
    (hpath : c.stepper.PathFits) (hentries : Scope.rereadAll? entries = some entries')
    (hperm : entries'.Perm vars.entries) (h : Spells (c.arranged entries) text) :
    Reads reader text ⟨c.stepper, ⟨c.scope.dialog, vars⟩⟩ := by
  rcases h with _ | _ | _ | _ | _ | ⟨hbefore, hafter, hlines⟩
  rcases hlines with _ | ⟨hgap, hstepper, hlines⟩
  rcases hlines with _ | ⟨hgap', hscope, hlines⟩
  cases hlines
  have hread : Reads readScope _ ⟨c.scope.dialog, vars⟩ :=
    Scope.reads_scope hentries hperm hscope
  have hsecond : StepReads readField ⟨some c.stepper, none⟩ "scope" _
      ⟨some c.stepper, some ⟨c.scope.dialog, vars⟩⟩ :=
    stepReads_slot (Slots.mk (some c.stepper)) rfl hread
  exact reads_record hbefore hafter
    (.cons hgap (stepReads_stepper hpath hstepper) (.cons hgap' hsecond .nil)) fun _ => rfl

/-- A checkpoint with an entry that is refused is refused. -/
theorem refuses_checkpoint (hpath : c.stepper.PathFits)
    (hentries : Scope.rereadAll? entries = none) (h : Spells (c.arranged entries) text) :
    Refuses reader text := by
  rcases h with _ | _ | _ | _ | _ | ⟨hbefore, hafter, hlines⟩
  rcases hlines with _ | ⟨hgap, hstepper, hlines⟩
  rcases hlines with _ | ⟨hgap', hscope, hlines⟩
  have hrefused : Refuses readScope _ := Scope.refuses_scope hentries hscope
  have hsecond : StepRefuses readField ⟨some c.stepper, none⟩ "scope" _ :=
    stepRefuses_slot (Slots.mk (some c.stepper)) rfl hrefused
  exact refuses_record hbefore hafter
    (.later hgap (stepReads_stepper hpath hstepper) (.here hgap' hsecond))

/-- A checkpoint that is read has a path that fits. -/
theorem pathFits_of_read {text : String} (h : read text = .ok c) : c.stepper.PathFits := by
  have hstep : ∀ (s : Slots) (key : String), (∀ st, s.stepper = some st → st.PathFits) →
      Yields (readField s key) fun s => ∀ st, s.stepper = some st → st.PathFits := by
    intro s key hs
    unfold readField
    split
    · exact yields_bind (yields_slot State.yields_reader) fun _ hstepper => yields_pure hstepper
    · exact yields_then fun _ => yields_pure hs
    · exact yields_then fun _ => yields_pure hs
  have hreader : Yields reader fun c => c.stepper.PathFits := by
    refine yields_record (yields_object hstep ?_ fun s hs => ?_) ?_
    · intro st hst
      cases hst
    · have hrequire : Yields (Record.require "stepper" s.stepper) State.PathFits := by
        cases hstepper : s.stepper with
        | none => exact yields_fail _
        | some st => exact yields_pure (hs st hstepper)
      exact yields_bind hrequire fun _ hst => yields_then fun _ => yields_pure hst
    · exact yields_bind (yields_itemAt State.yields_reader) fun _ hstepper =>
        yields_then fun _ => yields_pure hstepper
  exact run_of_yields (P := fun c => c.stepper.PathFits) hreader h

/-- **A stored checkpoint is read back, or refused for a number without a written form.** The
texts are the two that are written, with the variables in any order. -/
theorem read_arranged (c : Checkpoint) (entries : List (String × Value))
    (hpath : c.stepper.PathFits) (hperm : entries.Perm c.scope.vars.entries) :
    (c.write = (c.arranged c.scope.vars.entries).compact ∧
      c.writePretty = (c.arranged c.scope.vars.entries).pretty) ∧
    ((∀ e ∈ c.scope.vars.entries, e.2.Reproduced) →
      read (c.arranged entries).compact = .ok c ∧ read (c.arranged entries).pretty = .ok c) ∧
    ((∃ e ∈ c.scope.vars.entries, e.2.Unwritable) →
      (∃ f, read (c.arranged entries).compact = .error f) ∧
        ∃ f, read (c.arranged entries).pretty = .error f) := by
  have hcompact := spells_compactChars (c.arranged entries)
  have hpretty := spells_prettyChars 0 (c.arranged entries)
  refine ⟨⟨rfl, rfl⟩, fun hnumbers => ?_, fun ⟨e, he, hlost⟩ => ?_⟩
  · have hentries : Scope.rereadAll? entries = some entries :=
      Scope.rereadAll?_eq_some_iff.2 fun e he => hnumbers e (hperm.mem_iff.1 he)
    exact ⟨run_of_reads (reads_checkpoint hpath hentries hperm hcompact),
      run_of_reads (reads_checkpoint hpath hentries hperm hpretty)⟩
  · have hentries : Scope.rereadAll? entries = none :=
      Scope.rereadAll?_eq_none ⟨e, hperm.mem_iff.2 he, Value.reread?_eq_none hlost⟩
    exact ⟨run_of_refuses (refuses_checkpoint hpath hentries hcompact),
      run_of_refuses (refuses_checkpoint hpath hentries hpretty)⟩

/-- A checkpoint in the middle of a run, its two variables in reverse, and the same with an
infinite number in front of one that would be read. -/
theorem read_arranged_reversed :
    let vars : Variables := ⟨[("a\"\n", .string "\x00é\\"), ("b", .number 0.5)], by decide⟩
    let lost : Variables := ⟨[("a\"\n", .number (1.0 / 0.0)), ("b", .number 0.5)], by decide⟩
    let c : Checkpoint := ⟨⟨false, some [0, indexLimit], true⟩, ⟨"said\t", vars⟩⟩
    let d : Checkpoint := ⟨⟨true, none, false⟩, ⟨"", lost⟩⟩
    read (c.arranged vars.entries.reverse).pretty = .ok c ∧
      ∃ f, read (d.arranged lost.entries.reverse).compact = .error f := by
  intro vars lost c d
  have hpath : c.stepper.PathFits := by
    rintro p ⟨⟩
    decide
  have hc := read_arranged c vars.entries.reverse hpath (List.reverse_perm _)
  have hd := read_arranged d lost.entries.reverse nofun (List.reverse_perm _)
  refine ⟨(hc.2.1 ?_).2, (hd.2.2 ⟨("a\"\n", .number (1.0 / 0.0)), by simp [d, lost], ?_⟩).1⟩
  · intro e he
    rcases List.mem_cons.1 he with rfl | he
    · trivial
    · rw [List.mem_singleton.1 he]
      change Json.Reproduced 0.5
      decide
  · exact .inl (by decide)

end Checkpoint

end DialogueScript
