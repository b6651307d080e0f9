import DialogueScript.Proofs.Json.Integers
import DialogueScript.Proofs.Session.Resume
import DialogueScript.Proofs.Session.Stored
/-!
# Runs that are written and opened again

A run is left by writing its checkpoint and taken up by reading the text. Its
place and its dialogue always come back (`read_eq_ok_iff`), and what is
resumed from an equal checkpoint is the run that was left
(`reopen?_eq_some_iff`). So it all comes down to the numbers among the
variables, and not every number comes back: `reopen?_eq_some_iff_reproduced`
says which whole ones do. In which order the variables are written, which is up
to the host, makes no difference (`Kept.read`).
-/

namespace DialogueScript

open Json Reader Traversal

variable {script : Instruction} {i : Interpreter} {c : Checkpoint}
variable {text : String} {chars : List Char}

/-! ## The place -/

/-- In a tree that is not too wide every index fits. -/
theorem Traversal.State.Fits.pathFits {st : State} (hfits : st.Fits script)
    (hwidest : widest script ≤ indexLimit) : st.PathFits := by
  intro p hp k hk
  obtain ⟨n, hn⟩ := hfits.resolves p hp
  exact (lt_widest_of_mem hn hk).le.trans hwidest

/-! ## The variables -/

/-- **A checkpoint is read as it was written if and only if every number is**, in whatever order
its variables were written. -/
theorem Checkpoint.read_eq_ok_iff {entries : List (String × Value)} (hpath : c.stepper.PathFits)
    (hperm : entries.Perm c.scope.vars.entries) (h : Spells (c.arranged entries) chars) :
    read (String.ofList chars) = .ok c ↔ ∀ e ∈ c.scope.vars.entries, e.2.Reproduced := by
  rw [← Scope.rereadAll?_eq_some_iff]
  cases hentries : Scope.rereadAll? entries with
  | none =>
    obtain ⟨f, hf⟩ := run_of_refuses (refuses_checkpoint hpath hentries h)
    have hread : read (String.ofList chars) = .error f := hf
    have hnot : Scope.rereadAll? c.scope.vars.entries ≠ some c.scope.vars.entries := by
      intro hall
      obtain ⟨_, hsome, -⟩ := Scope.exists_rereadAll?_of_perm hperm.symm hall
      cases hentries.symm.trans hsome
    simp [hread, hnot]
  | some read' =>
    obtain ⟨entries', hentries', hperm'⟩ := Scope.exists_rereadAll?_of_perm hperm hentries
    -- names stay, so the entries that are read are in order if the ones written are
    have hordered : (entries'.map Prod.fst).Pairwise (· < ·) := by
      rw [Scope.names_rereadAll? hentries', List.pairwise_map]
      exact c.scope.vars.ordered
    let vars : Variables := ⟨entries', List.pairwise_map.1 hordered⟩
    have hread : read (String.ofList chars) = .ok ⟨c.stepper, c.scope.dialog, vars⟩ :=
      run_of_reads (reads_checkpoint hpath hentries hperm' h)
    rw [hentries']
    obtain ⟨stepper, dialog, vars'⟩ := c
    obtain ⟨kept, hkept⟩ := vars'
    simp [hread, vars]

namespace Checkpoint

/-- A text that is written for a checkpoint: in which order its variables stand there is up to the
host. -/
def Written (c : Checkpoint) (text : String) : Prop :=
  ∃ entries, entries.Perm c.scope.vars.entries ∧ text = (c.arranged entries).pretty

/-- A checkpoint that is read back from a text that is written for it. -/
def Kept (c : Checkpoint) : Prop := ∃ text, c.Written text ∧ read text = .ok c

theorem Written.read_eq_ok_iff (hpath : c.stepper.PathFits) (h : c.Written text) :
    read text = .ok c ↔ ∀ e ∈ c.scope.vars.entries, e.2.Reproduced := by
  obtain ⟨entries, hperm, rfl⟩ := h
  exact Checkpoint.read_eq_ok_iff hpath hperm (spells_prettyChars 0 _)

/-- It is if every number among its variables is reproduced. -/
theorem kept_iff (hpath : c.stepper.PathFits) :
    c.Kept ↔ ∀ e ∈ c.scope.vars.entries, e.2.Reproduced := by
  constructor
  · rintro ⟨text, hwritten, hread⟩
    exact (hwritten.read_eq_ok_iff hpath).1 hread
  · intro hentries
    have hwritten : c.Written (c.arranged c.scope.vars.entries).pretty := ⟨_, .refl _, rfl⟩
    exact ⟨_, hwritten, (hwritten.read_eq_ok_iff hpath).2 hentries⟩

/-- **If it is read back from one of these texts, it is from all.** -/
theorem Kept.read (h : c.Kept) (hwritten : c.Written text) : read text = .ok c := by
  have hpath : c.stepper.PathFits := by
    obtain ⟨text', -, hread⟩ := h
    exact pathFits_of_read hread
  exact (hwritten.read_eq_ok_iff hpath).2 ((kept_iff hpath).1 h)

end Checkpoint

/-! ## The run -/

namespace Interpreter

/-- Takes up a run of a script from the text of a checkpoint. -/
def reopen? (script : Instruction) (text : String) : Option Interpreter :=
  match Checkpoint.read text with
  | .ok c => (resume script c).toOption
  | .error _ => none

/-- **A run is taken up where it was left if its checkpoint is what is read.** -/
theorem reopen?_eq_some_iff (h : Reached script i) :
    reopen? script text = some i ↔ Checkpoint.read text = .ok i.checkpoint := by
  obtain ⟨st, scope, hfits, rfl⟩ := h.exists_standing
  rw [reopen?]
  constructor
  · intro hopen
    split at hopen
    · rename_i c hread
      have hresume : resume script c = .ok (.standing script st scope) := by
        cases hc : resume script c <;> rw [hc] at hopen <;> cases hopen
        rfl
      rw [hread, checkpoint_of_resume hresume]
    · cases hopen
  · intro hread
    rw [hread]
    simp only [resume_standing hfits]
    rfl

/-- **What comes back of a run that is written and opened again.** A number comes back whose
digits and power of ten are both doubles. Of the whole numbers below `2 ^ 53` some do not come
back, and these are counted out. The run comes back if and only if all numbers among its
variables do, in whatever order the variables are written. -/
theorem reopen?_eq_some_iff_reproduced (x : Float) (l : Literal) (z : Int)
    (h : Reached script i) (hwidest : widest script ≤ indexLimit) :
    (Literal.scan (.unfinished .value) (Decimal.stored.write x).toList = .ok (l, []) →
      Decimal.Short l.significand → l.power.natAbs ≤ 22 → Json.Reproduced x) ∧
    (z.natAbs < 2 ^ 53 → (Json.Reproduced (Float.ofInt z) ↔ ¬ Lossy z.natAbs)) ∧
    ∀ entries : List (String × Value), entries.Perm i.scope.vars.entries →
      (reopen? script (i.checkpoint.arranged entries).compact = some i ↔
        ∀ e ∈ i.scope.vars.entries, e.2.Reproduced) ∧
      (reopen? script (i.checkpoint.arranged entries).pretty = some i ↔
        ∀ e ∈ i.scope.vars.entries, e.2.Reproduced) := by
  have hpath : i.checkpoint.stepper.PathFits := by
    obtain ⟨st, scope, hfits, rfl⟩ := h.exists_standing
    exact hfits.pathFits hwidest
  refine ⟨reproduced_of_short, reproduced_ofInt_iff z, fun entries hperm => ⟨?_, ?_⟩⟩
  · rw [reopen?_eq_some_iff h]
    exact Checkpoint.read_eq_ok_iff hpath hperm (spells_compactChars _)
  · rw [reopen?_eq_some_iff h]
    exact Checkpoint.read_eq_ok_iff hpath hperm (spells_prettyChars 0 _)

/-- A run with a tenth and one of the largest whole numbers among its variables. -/
theorem reopen?_tenth_and_large :
    let script : Instruction := .composite .script [.pause]
    let z : Int := -9007199254740989
    let vars : Variables := ⟨[("x", .number 0.1), ("y", .number (Float.ofInt z))], by decide⟩
    let i := withScope script ⟨"said", vars⟩
    z.natAbs < 2 ^ 53 ∧ reopen? script i.checkpoint.write = some i ∧
      reopen? script i.checkpoint.writePretty = some i ∧
      reopen? script (i.checkpoint.arranged vars.entries.reverse).pretty = some i := by
  intro script z vars i
  obtain ⟨htenth, hlarge, hopens⟩ := reopen?_eq_some_iff_reproduced 0.1
    ⟨false, [0], some [1], none⟩ z (.withScope _ : Reached script i) (by decide)
  have hx : Json.Reproduced 0.1 := htenth rfl (by decide) (by decide)
  have hy : Json.Reproduced (Float.ofInt z) := (hlarge (by decide)).2 (by decide)
  have hentries : ∀ e ∈ i.scope.vars.entries, e.2.Reproduced := by
    intro e he
    rcases List.mem_cons.1 he with rfl | he
    · exact hx
    · rw [List.mem_singleton.1 he]
      exact hy
  have hsorted := hopens vars.entries (.refl _)
  have hreversed := hopens vars.entries.reverse (List.reverse_perm _)
  exact ⟨by decide, hsorted.1.2 hentries, hsorted.2.2 hentries, hreversed.2.2 hentries⟩

/-- A run that comes back with another number: ten times the largest whole number below
`2 ^ 53` is rounded down by six, and a tenth of that to the whole number below. -/
theorem reopen?_ne_of_large :
    let script : Instruction := .composite .script []
    let vars (x : Float) : Variables := ⟨[("x", .number x)], List.pairwise_singleton _ _⟩
    let left := withScope script ⟨"", vars 9007199254740991⟩
    let taken := withScope script ⟨"", vars 9007199254740990⟩
    9007199254740991 < 2 ^ 53 ∧ reopen? script left.checkpoint.writePretty = some taken ∧
      left.scope.vars.entries ≠ taken.scope.vars.entries := by
  intro script vars left taken
  have hreread : Json.reread? 9007199254740991 = some 9007199254740990 := by decide +kernel
  have hentries : Scope.rereadAll? left.scope.vars.entries = some taken.scope.vars.entries := by
    simp [left, taken, withScope, vars, Scope.rereadAll?, Value.reread?, hreread]
  have hpath : left.checkpoint.stepper.PathFits := fun p hp => by cases hp
  have hread : Checkpoint.read left.checkpoint.writePretty = .ok taken.checkpoint :=
    run_of_reads (Checkpoint.reads_checkpoint hpath hentries (.refl taken.scope.vars.entries)
      (spells_prettyChars 0 left.checkpoint.toJson))
  have hne : (9007199254740991 : Float) ≠ 9007199254740990 := by decide +kernel
  refine ⟨by decide, (reopen?_eq_some_iff (.withScope _)).2 hread, ?_⟩
  simpa [left, taken, withScope, vars] using hne

end Interpreter

end DialogueScript
