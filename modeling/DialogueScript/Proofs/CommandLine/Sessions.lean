import DialogueScript.Proofs.CommandLine.Processes
import Mathlib.Data.List.Forall2
/-!
# Sessions of processes

A session is played by processes one after the other. Each of them reads the
script, begins afresh or takes up the checkpoint in the file, and goes through
turns: through all that are left, or for as long as there are lines to read. A
turn is printed and saved before a line is asked for, and behind the last turn
none is.

A whole loop is `exists_runTurns`, by induction on the turns that are left. So a
process prints the turns between the one it starts behind and the one it
reaches, and stores the checkpoint of that one (`exists_perform_stores`). There
the next process starts, which is all that `exists_pieces` needs to put together
what they have printed.

What is stored is some text for the checkpoint (`Stores`), and what a process
starts from is any text that is read as it (`Holds`). The first is the second
where checkpoints are read back, and that is all that is asked of them. That the
script is still where it was is asked only of processes that follow one another
(`Ready`): one that is on its way has read it.
-/

namespace DialogueScript

namespace CommandLine

open Host Interpreter

/-! ## What is printed -/

/-- What is printed for turns, each with its number among all of them: its report, and the prompt
behind it if the process waits there for a line. -/
def printed (echoVars all : Bool) (count : Nat) : List (Interpreter × Nat) → String
  | [] => ""
  | (i, n) :: rest =>
    turnReport echoVars i.scope ++
      ((if !all && n < count then prompt else "") ++ printed echoVars all count rest)

variable {checkpoint : Option String} {all echoVars : Bool} {i : Interpreter}
variable {w : World} {fuel n count : Nat}

/-- A turn behind which there is no need to wait. -/
theorem printed_cons_goes (rest : List (Interpreter × Nat)) (h : all = true ∨ n = count) :
    printed echoVars all count ((i, n) :: rest) =
      turnReport echoVars i.scope ++ printed echoVars all count rest := by
  have hprompt : (!all && decide (n < count)) = false := by
    rcases h with rfl | rfl
    · rfl
    · rw [decide_eq_false (Nat.lt_irrefl n), Bool.and_false]
  rw [printed, hprompt, if_neg Bool.false_ne_true, String.empty_append]

/-- A turn behind which the process waits. -/
theorem printed_cons_waits (rest : List (Interpreter × Nat)) (hall : all = false)
    (h : n < count) :
    printed echoVars all count ((i, n) :: rest) =
      turnReport echoVars i.scope ++ (prompt ++ printed echoVars all count rest) := by
  have hprompt : (!all && decide (n < count)) = true := by
    rw [hall, decide_eq_true h]
    rfl
  rw [printed, hprompt, if_pos rfl]

/-! ## Loops -/

/-- The turns that a loop goes through: all of them, or one and then one for each line. -/
def reached (all : Bool) (lines count : Nat) : Nat := if all then count else min (lines + 1) count

/-- A turn that needs no line: all are wanted, or it is the last one. -/
theorem reached_succ (lines : Nat) (h : all = true ∨ count = 0) :
    reached all lines (count + 1) = reached all lines count + 1 := by
  rcases h with rfl | rfl
  · rfl
  · simp [reached]

/-- A turn behind which there is no line. -/
theorem reached_zero_lines (hall : all = false) : reached all 0 (count + 1) = 1 := by
  simp [reached, hall]

/-- A turn behind which there is one. -/
theorem reached_succ_lines {lines : Nat} (hall : all = false) :
    reached all (lines + 1) (count + 1) = reached all lines count + 1 := by
  rw [reached, reached, hall, if_neg Bool.false_ne_true, if_neg Bool.false_ne_true]
  omega

/-- **A loop goes through the turns it can reach**: it prints each and saves it, and waits for a
line behind each but the last of all. -/
theorem exists_runTurns {k : Nat} {rest : List Interpreter} (h : Turns i rest)
    (hcount : k + rest.length = count) (hfuel : rest.length < fuel)
    (hwritable : rest ≠ [] → Writable w.files checkpoint) :
    ∃ w', (runTurns all echoVars checkpoint fuel i : StateM World _) w =
        (ending all w.input rest.length, w') ∧
      w'.output = w.output ++ printed echoVars all count
        ((rest.zipIdx (k + 1)).take (reached all w.input.readable rest.length)) ∧
      Saved checkpoint w.files (rest.take (reached all w.input.readable rest.length))
        w'.files := by
  -- `k` turns lie behind the loop, so the first of the rest is the turn with number `k + 1`
  induction h generalizing w k fuel with
  | @ended i hdone =>
    obtain ⟨fuel, rfl⟩ := Nat.exists_eq_add_of_le' hfuel
    have hending : ending all w.input 0 = .done := if_pos (.inr (Nat.zero_le _))
    refine ⟨w, (runTurns_over hdone).trans (by rw [List.length_nil, hending]), ?_, ?_⟩
    · simp [printed]
    · simpa using saved_nil checkpoint w.files
  | @turn i j rest hnext hturns ih =>
    obtain ⟨fuel, rfl⟩ := Nat.exists_eq_add_of_le' (Nat.lt_of_le_of_lt (Nat.zero_le _) hfuel)
    rw [List.length_cons] at hcount hfuel
    obtain ⟨w₁, hsave, htold⟩ := exists_told echoVars j (hwritable (List.cons_ne_nil j rest))
    rw [List.length_cons]
    by_cases hgoes : all = true ∨ rest = []
    · -- no line is needed here
      have hgo : (all || j.isDone) = true := by
        rw [Bool.or_eq_true, hturns.isDone_iff]
        exact hgoes
      have hcount' : all = true ∨ rest.length = 0 := hgoes.imp_right List.length_eq_zero_iff.2
      obtain ⟨w', hrun, houtput, hsaved⟩ := ih (k := k + 1) (w := w₁) (by omega)
        (show rest.length < fuel by omega) fun _ => htold.writable
      rw [htold.input] at hrun houtput hsaved
      rw [runTurns_goes hnext hsave hgo, ending_of_goes hcount', reached_succ _ hcount']
      refine ⟨w', hrun, ?_, htold.saved _ _ hsaved⟩
      have hlast : all = true ∨ k + 1 = count := hcount'.imp_right fun hzero => by omega
      rw [houtput, htold.output, List.zipIdx_cons, List.take_succ_cons, printed_cons_goes _ hlast,
        String.append_assoc]
    · obtain ⟨hall, hrest⟩ := not_or.1 hgoes
      replace hall : all = false := Bool.eq_false_iff.2 hall
      have hlength : 0 < rest.length := List.length_pos_iff.2 hrest
      have hwait : (all || j.isDone) = false := by
        rw [hall, Bool.false_or, Bool.eq_false_iff]
        exact fun hdone => hrest (hturns.isDone_iff.1 hdone)
      have hmore : k + 1 < count := by omega
      rcases runTurns_waits fuel hnext hsave hwait with
        ⟨hnone, w', hrun, houtput, hfiles⟩ | ⟨w₂, hlines, hstop, hrun, hwaited, hfiles⟩
      · -- no line can be read, and the run stays where it is
        rw [htold.input] at hnone hrun
        rw [ending_of_unreadable hall hlength hnone, hnone, reached_zero_lines hall]
        refine ⟨w', hrun, ?_, ?_⟩
        · rw [houtput, htold.output, List.zipIdx_cons, List.take_succ_cons, List.take_zero,
            printed_cons_waits _ hall hmore, printed, String.append_empty, String.append_assoc]
        · rw [hfiles]
          exact htold.saved [] _ (saved_nil _ _)
      · rw [htold.input] at hlines hstop
        rw [hrun, ending_of_read hlines hstop, hlines, reached_succ_lines hall]
        obtain ⟨w', hrun', houtput, hsaved⟩ := ih (k := k + 1) (w := w₂) (by omega)
          (show rest.length < fuel by omega) fun _ => hfiles ▸ htold.writable
        refine ⟨w', hrun', ?_, htold.saved _ _ (hfiles ▸ hsaved)⟩
        rw [houtput, hwaited, htold.output, List.zipIdx_cons, List.take_succ_cons,
          printed_cons_waits _ hall hmore, String.append_assoc, String.append_assoc]

namespace Setup

variable {s : Setup} {script : Instruction} {files files' : Files} {p : Process}
variable {file : String} {k : Nat}

/-! ## From turn to turn -/

/-- The interpreters behind the turns of a script, each with the number of the turn. -/
def turns (script : Instruction) : List (Interpreter × Nat) :=
  (Interpreter.fresh script).stages.zipIdx 1

/-- A file in which the checkpoint taken after a turn has been stored. -/
def Stores (script : Instruction) (files : Files) (file : String) (k : Nat) : Prop :=
  ∃ i text, (i, k) ∈ turns script ∧ files.read file = .ok (.text text) ∧ i.checkpoint.Written text

/-- A file that is read as the checkpoint taken after a turn. -/
def Holds (script : Instruction) (files : Files) (file : String) (k : Nat) : Prop :=
  ∃ i text, (i, k) ∈ turns script ∧ files.read file = .ok (.text text) ∧
    Checkpoint.read text = .ok i.checkpoint

/-- A process that starts behind a turn: a fresh one behind none, any other behind the one whose
checkpoint is in the file. -/
def Starts (s : Setup) (script : Instruction) (files : Files) (p : Process) (k : Nat) : Prop :=
  (p.resume = false ∧ k = 0) ∨
    (p.resume = true ∧ ∃ file, s.file? = some file ∧ Holds script files file k)

/-- The last turn that a process reaches which starts behind a turn. -/
def reach (count k : Nat) (p : Process) : Nat :=
  if p.all then count else min (k + p.input.readable + 1) count

/-- What is stored is held if checkpoints are read back. -/
theorem Stores.holds (h : Stores script files file k)
    (hkept : ∀ i ∈ (Interpreter.fresh script).stages, i.checkpoint.Kept) :
    Holds script files file k := by
  obtain ⟨i, text, hi, hread, hwritten⟩ := h
  have hmem : i ∈ (Interpreter.fresh script).stages := List.fst_mem_of_mem_zipIdx hi
  exact ⟨i, text, hi, hread, (hkept i hmem).read hwritten⟩

theorem length_turns : (turns script).length = (Interpreter.fresh script).stages.length :=
  List.length_zipIdx

theorem mem_turns_iff {i : Interpreter} : (i, k) ∈ turns script ↔
    1 ≤ k ∧ (Interpreter.fresh script).stages[k - 1]? = some i :=
  List.mem_zipIdx_iff_le_and_getElem?_sub

theorem drop_turns (k : Nat) :
    (turns script).drop k = ((Interpreter.fresh script).stages.drop k).zipIdx (k + 1) := by
  refine List.ext_getElem? fun m => ?_
  rw [turns, List.getElem?_drop, List.getElem?_zipIdx, List.getElem?_zipIdx, List.getElem?_drop]
  congr 1
  funext i
  congr 1
  omega

/-- A process gets on by at least one turn if there is one, and never beyond the last. -/
theorem reach_bounds (h : k ≤ count) :
    k ≤ reach count k p ∧ reach count k p ≤ count ∧ (k < count → k < reach count k p) := by
  unfold reach
  split <;> omega

theorem turns_pos (hflawless : (Interpreter.fresh script).Flawless) :
    0 < (turns script).length := by
  rw [length_turns, List.length_pos_iff]
  intro hnil
  have hdone := (turns_stages hflawless).1.isDone_iff.2 hnil
  cases hdone

/-- **A process that starts behind a turn has the turns behind it before it**, and is allowed as
many as the script has. -/
theorem exists_begins (hflawless : (Interpreter.fresh script).Flawless)
    (hstarts : s.Starts script files p k) :
    k ≤ (turns script).length ∧ ∃ i, s.Begins files p script i ∧
      Turns i ((Interpreter.fresh script).stages.drop k) ∧
      i.stepper.bound = (Interpreter.fresh script).stepper.bound := by
  have hturns := (turns_stages hflawless).1
  rcases hstarts with ⟨hresume, rfl⟩ | ⟨hresume, file, hfile, i, text, hi, hread, hkept⟩
  · exact ⟨Nat.zero_le _, _, .inl ⟨hresume, rfl⟩, hturns, rfl⟩
  · -- turns are counted from one, so the one behind which the checkpoint was taken is at `k - 1`
    obtain ⟨hpos, hstage⟩ := mem_turns_iff.1 hi
    obtain ⟨hi', hbound⟩ := resume_of_mem_stages hflawless (List.mem_of_getElem? hstage)
    have hlt := (List.getElem?_eq_some_iff.1 hstage).1
    have hdrop := hturns.drop hstage
    rw [Nat.sub_add_cancel hpos] at hdrop
    refine ⟨?_, i, .inr ⟨hresume, file, text, _, hfile, hread, hkept, hi'⟩, hdrop, hbound⟩
    rw [length_turns]
    omega

/-- **What a process does that starts behind a turn.** -/
theorem exists_perform (hflawless : (Interpreter.fresh script).Flawless)
    (hfinds : s.Finds files script) (hstarts : s.Starts script files p k)
    (hwritable : k < (turns script).length → Writable files s.file?) :
    k ≤ (turns script).length ∧ ∃ w,
      s.perform files p = (ending p.all p.input ((turns script).length - k), w) ∧
      w.output = printed s.settings.echoVars p.all (turns script).length
        (((turns script).drop k).take (reach (turns script).length k p - k)) ∧
      Saved s.file? files (((Interpreter.fresh script).stages.drop k).take
        (reach (turns script).length k p - k)) w.files := by
  have hbound := (turns_stages hflawless).2
  obtain ⟨hk, i, hbegins, hleft, hfuel⟩ := exists_begins hflawless hstarts
  rw [length_turns] at hk hwritable ⊢
  have hlength : ((Interpreter.fresh script).stages.drop k).length =
      (Interpreter.fresh script).stages.length - k := List.length_drop
  have hmore : (Interpreter.fresh script).stages.drop k ≠ [] → Writable files s.file? := by
    intro hne
    rw [← List.length_pos_iff] at hne
    exact hwritable (by omega)
  obtain ⟨w, hrun, houtput, hsaved⟩ :
      ∃ w, (runTurns p.all s.settings.echoVars s.file? (i.stepper.bound + 1) i : StateM World _)
        (s.world files p) = (_, w) ∧ _ :=
    exists_runTurns (k := k) hleft rfl (by omega) hmore
  have hreach : reach (Interpreter.fresh script).stages.length k p - k =
      reached p.all p.input.readable ((Interpreter.fresh script).stages.length - k) := by
    simp only [reach, reached]
    split <;> omega
  have hinput : (s.world files p).input = p.input := rfl
  rw [hlength, hinput] at hrun houtput hsaved
  rw [Nat.add_sub_cancel' hk] at houtput
  refine ⟨hk, w, (perform_of_begins hfinds hbegins).trans hrun, ?_, ?_⟩
  · rw [houtput, drop_turns, hreach]
    exact String.empty_append
  · rw [hreach]
    exact hsaved

/-- The checkpoint of the last turn that was saved is stored. -/
theorem stores_of_saved {n : Nat} (hfile : s.file? = some file) (hn : 0 < n)
    (hlength : k + n ≤ (turns script).length)
    (hsaved : Saved s.file? files (((Interpreter.fresh script).stages.drop k).take n) files') :
    Stores script files' file (k + n) := by
  rw [length_turns] at hlength
  obtain ⟨i, hi⟩ : ∃ i, (Interpreter.fresh script).stages[k + n - 1]? = some i :=
    ⟨_, List.getElem?_eq_getElem (by omega)⟩
  have hlast : (((Interpreter.fresh script).stages.drop k).take n).getLast? = some i := by
    rw [List.getLast?_take, if_neg (by omega), List.getElem?_drop,
      show k + (n - 1) = k + n - 1 by omega, hi]
    rfl
  obtain ⟨text, hwritten, hread⟩ := exists_read_of_saved (hfile ▸ hsaved) hlast
  exact ⟨i, text, mem_turns_iff.2 ⟨by omega, hi⟩, hread, hwritten⟩

/-- **A process goes on where the file says, and stores in it where it stopped.** -/
theorem exists_perform_stores (hflawless : (Interpreter.fresh script).Flawless)
    (hfinds : s.Finds files script) (hstarts : s.Starts script files p k)
    (hwritable : k < (turns script).length → Writable files s.file?) :
    k ≤ (turns script).length ∧ ∃ w,
      s.perform files p = (ending p.all p.input ((turns script).length - k), w) ∧
      w.output = printed s.settings.echoVars p.all (turns script).length
        (((turns script).drop k).take (reach (turns script).length k p - k)) ∧
      (k < (turns script).length → ∀ file, s.file? = some file →
        Stores script w.files file (reach (turns script).length k p)) ∧
      (k = (turns script).length → w.files = files) ∧
      (s.Ready script files → s.Ready script w.files) := by
  obtain ⟨hk, w, hperform, houtput, hsaved⟩ := exists_perform hflawless hfinds hstarts hwritable
  obtain ⟨hle, hle', hlt⟩ := reach_bounds (p := p) hk
  refine ⟨hk, w, hperform, houtput, ?_, ?_, fun hready => hready.of_saved hsaved⟩
  · intro hmore file hfile
    have hstores := stores_of_saved hfile (Nat.sub_pos_of_lt (hlt hmore)) (by omega) hsaved
    rwa [Nat.add_sub_cancel' hle] at hstores
  · -- behind the last turn nothing is saved
    intro hlast
    rw [show reach (turns script).length k p - k = 0 by omega, List.take_zero] at hsaved
    exact eq_of_saved_nil hsaved

/-! ## Sessions -/

/-- What processes do one after the other, each with the files the one before has left. -/
def session (s : Setup) : Files → List Process → List (Status × World)
  | _, [] => []
  | files, p :: ps => s.perform files p :: s.session (s.perform files p).2.files ps

/-- What a process printed are turns, and it ended well unless there was a line it could not
read. -/
def Printed (s : Setup) (script : Instruction) (run : Process × Status × World)
    (piece : List (Interpreter × Nat)) : Prop :=
  (run.2.1 = .done ∨ run.2.1 = stop run.1.input) ∧
    run.2.2.output = printed s.settings.echoVars run.1.all (turns script).length piece

/-- Turns up to one, and on from there to another. -/
theorem take_drop_append {α : Type} (l : List α) {k m n : Nat} (hkm : k ≤ m) (hmn : m ≤ n) :
    (l.drop k).take (m - k) ++ (l.drop m).take (n - m) = (l.drop k).take (n - k) := by
  have hm : l.drop m = (l.drop k).drop (m - k) := by
    rw [List.drop_drop, Nat.add_sub_cancel' hkm]
  rw [hm, ← List.take_add]
  congr 1
  omega

/-- **Processes one after the other print the turns in order**, from the one on behind which the
first of them starts, if all others go on from the file. -/
theorem exists_pieces (ps : List Process) (hflawless : (Interpreter.fresh script).Flawless)
    (hkept : ∀ i ∈ (Interpreter.fresh script).stages, i.checkpoint.Kept)
    (hready : s.Ready script files) (hfile : s.file? = some file)
    (hk : k ≤ (turns script).length) (hfirst : ∀ p ∈ ps.head?, s.Starts script files p k)
    (hothers : ∀ p ∈ ps.tail, p.resume = true) :
    k ≤ ps.foldl (reach (turns script).length) k ∧
      ∃ pieces, List.Forall₂ (s.Printed script) (ps.zip (s.session files ps)) pieces ∧
        pieces.flatten = ((turns script).drop k).take
          (ps.foldl (reach (turns script).length) k - k) := by
  induction ps generalizing files k with
  | nil => exact ⟨Nat.le_refl k, [], .nil, by simp⟩
  | cons p ps ih =>
    have hstarts := hfirst p rfl
    obtain ⟨-, w, hperform, houtput, hstores, hlast, hready'⟩ :=
      exists_perform_stores hflawless hready.finds hstarts fun _ => hready.writable
    obtain ⟨hle, hle', -⟩ := reach_bounds (p := p) hk
    have hholds : Holds script w.files file (reach (turns script).length k p) := by
      by_cases hmore : k < (turns script).length
      · exact (hstores hmore file hfile).holds hkept
      · -- behind the last turn the file stays as it is, and no fresh process comes here
        rw [show reach (turns script).length k p = k by omega, hlast (by omega)]
        rcases hstarts with ⟨-, rfl⟩ | ⟨-, file', hfile', hholds⟩
        · exact absurd (turns_pos hflawless) hmore
        · obtain rfl : file' = file := Option.some.inj (hfile'.symm.trans hfile)
          exact hholds
    -- the next one finds the turn in the file that this one has reached
    have hnext : ∀ q ∈ ps.head?, s.Starts script w.files q (reach (turns script).length k p) :=
      fun q hq => .inr ⟨hothers q (List.mem_of_mem_head? hq), file, hfile, hholds⟩
    obtain ⟨hmore, pieces, hpieces, hflatten⟩ :=
      ih (hready' hready) hle' hnext fun q hq => hothers q (List.mem_of_mem_tail hq)
    refine ⟨Nat.le_trans hle hmore,
      ((turns script).drop k).take (reach (turns script).length k p - k) :: pieces, ?_, ?_⟩
    · rw [session, hperform, List.zip_cons_cons]
      exact .cons ⟨ending_cases _ _ _, houtput⟩ hpieces
    · rw [List.flatten_cons, hflatten, List.foldl_cons]
      exact take_drop_append _ hle hmore

/-- The turns behind one begin with the next. -/
theorem drop_turns_eq_cons {i : Interpreter} (h : (i, k + 1) ∈ turns script) :
    k < (turns script).length ∧
      (turns script).drop k = (i, k + 1) :: (turns script).drop (k + 1) := by
  have hstage : (Interpreter.fresh script).stages[k]? = some i := (mem_turns_iff.1 h).2
  obtain ⟨hlt, hi⟩ := List.getElem?_eq_some_iff.1 hstage
  refine ⟨by rwa [length_turns], ?_⟩
  rw [drop_turns, List.drop_eq_getElem_cons hlt, List.zipIdx_cons, drop_turns, hi]

/-- **However a session is cut into processes, it tells the turns of the script**, each once and in
order. The turns are those of a fresh run to its end. A fresh process prints all of them and no
prompt, or one more than it has lines to read, and stores the checkpoint of the last one in the
file. A process that finds the checkpoint of a turn in the file goes on with the next turn. If
there is none it prints nothing and leaves the files as they are. So if checkpoints are read back,
a fresh process and those that go on from it print the turns in pieces, which are all of the turns
as soon as the last one is reached, unless checkpoints are stored over the script. -/
theorem session_tells_turns (s : Setup) (script : Instruction)
    (hflawless : (Interpreter.fresh script).Flawless) :
    Turns (.fresh script) ((turns script).map Prod.fst) ∧
    (∀ files p, p.resume = false → s.Finds files script → Writable files s.file? →
      ∃ w, s.perform files p = (ending p.all p.input (turns script).length, w) ∧
        w.output = printed s.settings.echoVars p.all (turns script).length ((turns script).take
          (if p.all then (turns script).length
            else min (p.input.readable + 1) (turns script).length)) ∧
        (∀ file, s.file? = some file → Stores script w.files file
          (if p.all then (turns script).length
            else min (p.input.readable + 1) (turns script).length)) ∧
        (s.Ready script files → s.Ready script w.files)) ∧
    (∀ files p file k, p.resume = true → s.file? = some file → s.Finds files script →
      Holds script files file k → (k < (turns script).length → Writable files s.file?) →
      ∃ w, s.perform files p = (ending p.all p.input ((turns script).length - k), w) ∧
        w.output = printed s.settings.echoVars p.all (turns script).length
          (((turns script).drop k).take (reach (turns script).length k p - k)) ∧
        (k < (turns script).length →
          Stores script w.files file (reach (turns script).length k p)) ∧
        (∀ i, (i, k + 1) ∈ turns script →
          ∃ later, w.output = turnReport s.settings.echoVars i.scope ++ later) ∧
        (k = (turns script).length → w.output = "" ∧ w.files = files) ∧
        (s.Ready script files → s.Ready script w.files)) ∧
    ((∀ i ∈ (Interpreter.fresh script).stages, i.checkpoint.Kept) →
      (∀ files file k, Stores script files file k → Holds script files file k) ∧
      ∀ files file p ps, s.Ready script files → s.file? = some file → p.resume = false →
        (∀ q ∈ ps, q.resume = true) →
        ∃ pieces,
          List.Forall₂ (s.Printed script) ((p :: ps).zip (s.session files (p :: ps))) pieces ∧
          pieces.flatten = (turns script).take ((p :: ps).foldl (reach (turns script).length) 0) ∧
          ((p :: ps).foldl (reach (turns script).length) 0 = (turns script).length →
            pieces.flatten = turns script)) := by
  refine ⟨?_, ?_, ?_, fun hkept => ⟨fun files file k hstores => hstores.holds hkept, ?_⟩⟩
  · rw [turns, List.zipIdx_map_fst]
    exact (turns_stages hflawless).1
  · intro files p hp hfinds hwritable
    have hstarts : s.Starts script files p 0 := .inl ⟨hp, rfl⟩
    obtain ⟨-, w, hperform, houtput, hstores, -, hready⟩ :=
      exists_perform_stores hflawless hfinds hstarts fun _ => hwritable
    have hreach : reach (turns script).length 0 p =
        if p.all then (turns script).length
          else min (p.input.readable + 1) (turns script).length := by
      rw [reach, Nat.zero_add]
    rw [List.drop_zero, Nat.sub_zero, hreach] at houtput
    rw [hreach] at hstores
    exact ⟨w, hperform, houtput, hstores (turns_pos hflawless), hready⟩
  · intro files p file k hp hfile hfinds hholds hwritable
    have hstarts : s.Starts script files p k := .inr ⟨hp, file, hfile, hholds⟩
    obtain ⟨hk, w, hperform, houtput, hstores, hlast, hready⟩ :=
      exists_perform_stores hflawless hfinds hstarts hwritable
    obtain ⟨hle, hle', hlt⟩ := reach_bounds (p := p) hk
    refine ⟨w, hperform, houtput, fun hmore => hstores hmore file hfile, fun i hi => ?_,
      fun heq => ⟨?_, hlast heq⟩, hready⟩
    · obtain ⟨hmore, hcons⟩ := drop_turns_eq_cons hi
      obtain ⟨n, hn⟩ := Nat.exists_eq_add_of_lt (hlt hmore)
      rw [houtput, hcons, show reach (turns script).length k p - k = n + 1 by omega,
        List.take_succ_cons, printed]
      exact ⟨_, rfl⟩
    · rw [houtput, show reach (turns script).length k p - k = 0 by omega]
      rfl
  · intro files file p ps hready hfile hp hps
    have hfirst : ∀ q ∈ (p :: ps).head?, s.Starts script files q 0 := by
      rintro q ⟨⟩
      exact .inl ⟨hp, rfl⟩
    obtain ⟨-, pieces, hpieces, hflatten⟩ :=
      exists_pieces (p :: ps) hflawless hkept hready hfile (Nat.zero_le _) hfirst hps
    rw [List.drop_zero, Nat.sub_zero] at hflatten
    refine ⟨pieces, hpieces, hflatten, fun hall => ?_⟩
    rw [hflatten, hall, List.take_length]

/-- Two variables, and two lines of dialogue with a pause behind each: three turns, of which the
first process prints one, the second, which has a line to read, the other two, and the third none.
The first of them stores the variables the other way round. -/
theorem session_tells_turns_pausing :
    let script : Instruction := .composite .script [.expression (.assign "y" .null),
      .expression (.assign "x" (.boolean true)), .dialog "a", .pause, .dialog "b", .pause]
    let s : Setup := ⟨{ echoVars := true }, [], "s.json", some "c.json"⟩
    let files : Files := ⟨[(["s.json"], .text script.write)]⟩
    let p : Process := { all := false, resume := false, orders := [[1]] }
    let q : Process := { all := false, resume := true, input := ['\n'] }
    let r : Process := { all := true, resume := true }
    s.Ready script files ∧ (turns script).length = 3 ∧
      (s.session files [p, q, r]).map (fun run => run.2.output) =
        ["a\n  x = true\n  y = null\n" ++ prompt,
          "b\n  x = true\n  y = null\n" ++ prompt ++ "  x = true\n  y = null\n", ""] ∧
      ∃ pieces,
        List.Forall₂ (s.Printed script) ([p, q, r].zip (s.session files [p, q, r])) pieces ∧
        pieces.flatten = turns script := by
  intro script s files p q r
  have hflawless : (Interpreter.fresh script).Flawless :=
    Turns.flawless (.turn rfl (.turn rfl (.turn rfl (.ended rfl))))
  have hkept : ∀ i ∈ (Interpreter.fresh script).stages, i.checkpoint.Kept := by
    intro i hi
    have hvalues : ∀ i ∈ (Interpreter.fresh script).stages,
        ∀ e ∈ i.scope.vars.entries, e.2.type ≠ .number := by decide +kernel
    have hentries : ∀ e ∈ i.checkpoint.scope.vars.entries, e.2.Reproduced :=
      fun e he => Value.reproduced_of_type (hvalues i hi e he)
    obtain ⟨st, scope, hfits, rfl⟩ := (turns_stages hflawless).1.exists_standing
      (Traversal.State.fits_of_none false false) {} i hi
    exact (Checkpoint.kept_iff (hfits.pathFits (by decide))).2 hentries
  have hready : s.Ready script files := by
    have hread : files.read "s.json" = .ok (.text script.write) := by
      with_unfolding_all rfl
    refine ⟨finds_of_read_write hread (by decide) (by rintro x ⟨⟩), ?_, ?_⟩
    · rintro _ ⟨⟩
      decide +kernel
    · rintro _ ⟨⟩
      decide +kernel
  have hcount : (turns script).length = 3 := by decide +kernel
  obtain ⟨-, hfresh, hresumed, hsession⟩ := session_tells_turns s script hflawless
  obtain ⟨hholds, hcut⟩ := hsession hkept
  obtain ⟨w₁, hfirst, houtput₁, hstores₁, hready₁⟩ :=
    hfresh files p rfl hready.finds hready.writable
  have hholds₁ : Holds script w₁.files "c.json" 1 := by
    have hstores := hstores₁ "c.json" rfl
    rw [hcount] at hstores
    exact hholds _ _ _ hstores
  replace hready₁ := hready₁ hready
  obtain ⟨w₂, hsecond, houtput₂, hstores₂, -, -, hready₂⟩ :=
    hresumed w₁.files q "c.json" 1 rfl rfl hready₁.finds hholds₁ fun _ => hready₁.writable
  have hholds₂ : Holds script w₂.files "c.json" 3 := by
    have hstores := hstores₂ (by rw [hcount]; decide)
    rw [hcount] at hstores
    exact hholds _ _ _ hstores
  replace hready₂ := hready₂ hready₁
  obtain ⟨w₃, hthird, -, -, -, hlast, -⟩ :=
    hresumed w₂.files r "c.json" 3 rfl rfl hready₂.finds hholds₂ fun _ => hready₂.writable
  have hprinted : (s.session files [p, q, r]).map (fun run => run.2.output) =
      [w₁.output, w₂.output, w₃.output] := by
    simp only [session, hfirst, hsecond, hthird, List.map_cons, List.map_nil]
  obtain ⟨pieces, hpieces, -, hall⟩ := hcut files "c.json" p [q, r] hready rfl rfl (by decide)
  refine ⟨hready, hcount, ?_, pieces, hpieces, hall (by rw [hcount]; decide)⟩
  rw [hprinted, houtput₁, houtput₂, (hlast hcount.symm).1]
  decide +kernel

end Setup

end CommandLine

end DialogueScript
