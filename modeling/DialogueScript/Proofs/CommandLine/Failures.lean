import DialogueScript.Proofs.CommandLine.Sessions
import DialogueScript.Proofs.Session.Course
/-!
# Processes in which a turn fails

An interpreter keeps what a failing turn has done and goes on behind the
instruction that failed. A process does not: it prints and saves a turn when the
turn is over, so a turn that fails is neither printed nor saved, and the process
ends there. What it leaves in the file is the checkpoint of the turn before, if
there was one.

`FailsAfter` is a run that fails behind some turns. A loop over its turns ends
with the failure exactly if it gets there, that is, if there is a line to read
behind each of the turns and each of them can be saved
(`exists_runTurns_failing` and `exists_failsAfter`). The next process to take up
the checkpoint stands in front of the same turn, and ends at once in the same way
(`perform_again`).
-/

namespace DialogueScript

open Traversal

/-! ## Runs that fail -/

namespace Interpreter

/-- A run goes through turns, and the turn behind the last of them fails. -/
inductive FailsAfter (path : Path) (err : EvalError) : Interpreter → List Interpreter → Prop
  | failed {i : Interpreter} : i.next.1 = .error (.eval path err) → FailsAfter path err i []
  | turn {i j : Interpreter} {rest : List Interpreter} :
      i.next = (.ok (.yielded j.scope), j) → FailsAfter path err j rest →
      FailsAfter path err i (j :: rest)

variable {path : Path} {err : EvalError} {i j : Interpreter} {turns rest : List Interpreter}
variable {script root : Instruction} {st : State}

theorem scope_eq_of_next {scope : Scope} (h : i.next = (.ok (.yielded scope), j)) :
    scope = j.scope := by
  unfold next at h
  split at h
  · cases h
  · split at h <;> cases h
    rfl

/-- A run that fails is not over before. -/
theorem FailsAfter.not_done (h : FailsAfter path err i turns) : i.isDone = false := by
  rw [Bool.eq_false_iff]
  intro hdone
  have hover := next_of_isDone hdone
  cases h with
  | failed hfail =>
    rw [hover] at hfail
    cases hfail
  | turn hnext _ =>
    rw [hover] at hnext
    cases hnext

/-- The failure comes in the turn behind the last one. -/
theorem FailsAfter.last (h : FailsAfter path err i turns) :
    (turns.getLast?.getD i).next.1 = .error (.eval path err) := by
  induction h with
  | failed hfail => exact hfail
  | turn _ _ ih => rwa [List.getLast?_cons]

theorem FailsAfter.reached (h : FailsAfter path err i turns) (hi : Reached script i) :
    Reached script (turns.getLast?.getD i) := by
  induction h with
  | failed _ => exact hi
  | @turn i j rest hnext _ ih =>
    have hj : Reached script j := by
      have hserve := Reached.serve .next hi
      rw [serve, hnext] at hserve
      exact hserve
    rw [List.getLast?_cons]
    exact ih hj

/-- Each turn in front of the failure stops at a pause, so there are no more of
them than the script has instructions. -/
theorem FailsAfter.length_le (hfits : st.Fits root) (s : Scope)
    (h : FailsAfter path err (.standing root st s) turns) :
    turns.length ≤ (visits (ahead root st)).length := by
  generalize hi : standing root st s = i at h
  induction h generalizing st s with
  | failed _ => exact Nat.zero_le _
  | @turn i j rest hnext hfails ih =>
    subst hi
    have hdone : st.done = false := FailsAfter.not_done (.turn hnext hfails)
    obtain ⟨log, r, st', t, hfits', -, hnext', hends⟩ := exists_advances_next hfits hdone s
    obtain ⟨hr, rfl⟩ := Prod.mk.inj (hnext'.symm.trans hnext)
    have hrest := ih hfits' t rfl
    generalize visits (ahead root st') = left at hrest hends
    cases hends with
    | ended _ =>
      have hover := hfails.not_done
      cases hover
    | paused htodo _ =>
      rw [htodo, List.length_append, List.length_cons, List.length_cons]
      omega
    | failed _ _ _ => cases hr

end Interpreter

namespace CommandLine

open Host Interpreter

/-! ## Loops that fail -/

/-- What is printed for turns behind each of which the process goes on. -/
def toldTurns (echoVars all : Bool) (turns : List Interpreter) : String :=
  String.join (turns.map fun j => turnReport echoVars j.scope ++ if all then "" else prompt)

variable {checkpoint : Option String} {all echoVars : Bool} {i j : Interpreter}
variable {turns : List Interpreter} {w : World} {fuel : Nat} {path : Path} {err : EvalError}

theorem toldTurns_cons (echoVars all : Bool) (j : Interpreter) (turns : List Interpreter) :
    toldTurns echoVars all (j :: turns) = turnReport echoVars j.scope ++
      ((if all then "" else prompt) ++ toldTurns echoVars all turns) := by
  rw [toldTurns, List.map_cons, String.join_cons, String.append_assoc]
  rfl

theorem runTurns_failed (hfail : i.next.1 = .error (.eval path err)) :
    (runTurns all echoVars checkpoint (fuel + 1) i : StateM World _) w =
      (.failed (.run (.eval path err)), w) := by
  rcases hnext : i.next with ⟨r, j⟩
  rw [hnext] at hfail
  obtain rfl : r = .error (.eval path err) := hfail
  rw [runTurns, hnext]
  rfl

/-- **A loop that gets to the failure ends with it.** It has printed and saved the
turns in front, and nothing of the one that failed. -/
theorem exists_runTurns_failing (h : FailsAfter path err i turns) (hfuel : turns.length < fuel)
    (hlines : all = true ∨ turns.length ≤ w.input.readable)
    (hwritable : turns ≠ [] → Writable w.files checkpoint) :
    ∃ w', (runTurns all echoVars checkpoint fuel i : StateM World _) w =
        (.failed (.run (.eval path err)), w') ∧
      w'.output = w.output ++ toldTurns echoVars all turns ∧
      Saved checkpoint w.files turns w'.files := by
  induction h generalizing w fuel with
  | @failed i hfail =>
    obtain ⟨fuel, rfl⟩ := Nat.exists_eq_add_of_le' (Nat.lt_of_le_of_lt (Nat.zero_le _) hfuel)
    exact ⟨w, runTurns_failed hfail, by simp [toldTurns], saved_nil checkpoint w.files⟩
  | @turn i j rest hnext hfails ih =>
    obtain ⟨fuel, rfl⟩ := Nat.exists_eq_add_of_le' (Nat.lt_of_le_of_lt (Nat.zero_le _) hfuel)
    rw [List.length_cons] at hfuel hlines
    obtain ⟨w₁, hsave, htold⟩ := exists_told echoVars j (hwritable (List.cons_ne_nil j rest))
    by_cases hall : all = true
    · have hgoes : (all || j.isDone) = true := by rw [hall, Bool.true_or]
      obtain ⟨w', hrun, houtput, hsaved⟩ := ih (w := w₁) (show rest.length < fuel by omega)
        (.inl hall) fun _ => htold.writable
      refine ⟨w', (runTurns_goes hnext hsave hgoes).trans hrun, ?_, htold.saved _ _ hsaved⟩
      rw [houtput, htold.output, toldTurns_cons, if_pos hall, String.empty_append,
        String.append_assoc]
    · -- the loop waits behind the turn, and there is a line for it
      have hwaits : (all || j.isDone) = false := by
        rw [hfails.not_done, Bool.or_false, Bool.eq_false_iff]
        exact hall
      replace hlines := hlines.resolve_left hall
      rw [← htold.input] at hlines
      rcases runTurns_waits fuel hnext hsave hwaits with
        ⟨hnone, -⟩ | ⟨w₂, hread, -, hrun, hwaited, hfiles⟩
      · omega
      · obtain ⟨w', hrun', houtput, hsaved⟩ := ih (w := w₂) (show rest.length < fuel by omega)
          (.inr (show rest.length ≤ w₂.input.readable by omega)) fun _ => hfiles ▸ htold.writable
        refine ⟨w', hrun.trans hrun', ?_, htold.saved _ _ (hfiles ▸ hsaved)⟩
        rw [houtput, hwaited, htold.output, toldTurns_cons, if_neg hall, String.append_assoc,
          String.append_assoc]

/-- A turn that cannot be saved ends the loop, but not with a failed evaluation. -/
theorem runTurns_unsaved (all : Bool) (fuel : Nat) (hnext : i.next = (.ok (.yielded j.scope), j))
    (hwritable : ¬ Writable w.files checkpoint) :
    ∃ file e, ((runTurns all echoVars checkpoint (fuel + 1) i : StateM World _) w).1 =
      .failed (.writeCheckpoint file e) := by
  have hprint : (Host.print (turnReport echoVars j.scope) : StateM World _) w =
      ((), w.print (turnReport echoVars j.scope)) := rfl
  obtain ⟨file, e, hsave⟩ := exists_saveRun_error (w := w.print (turnReport echoVars j.scope)) j
    hwritable
  refine ⟨file, e, ?_⟩
  rw [runTurns, hnext]
  dsimp only
  rw [bind_apply, hprint, bind_apply]
  dsimp only
  rw [hsave]
  rfl

/-- **Only a loop that gets to the failure ends with it.** -/
theorem exists_failsAfter
    (h : ((runTurns all echoVars checkpoint fuel i : StateM World _) w).1 =
      .failed (.run (.eval path err))) :
    ∃ turns, FailsAfter path err i turns ∧
      (all = true ∨ turns.length ≤ w.input.readable) ∧
      (turns ≠ [] → Writable w.files checkpoint) := by
  induction fuel generalizing i w with
  | zero => cases h
  | succ fuel ih =>
    rcases hnext : i.next with ⟨e | ⟨scope⟩ | _, j⟩
    · -- the turn fails, and it is this failure
      rw [runTurns, hnext] at h
      cases h
      exact ⟨[], .failed (by rw [hnext]), .inr (Nat.zero_le _), fun hne => absurd rfl hne⟩
    · obtain rfl := scope_eq_of_next hnext
      by_cases hwritable : Writable w.files checkpoint
      · obtain ⟨w₁, hsave, htold⟩ := exists_told echoVars j hwritable
        cases hgoes : all || j.isDone with
        | true =>
          rw [runTurns_goes hnext hsave hgoes] at h
          obtain ⟨rest, hfails, -, -⟩ := ih h
          -- behind the last turn there is no failure, so all of them are wanted
          rw [hfails.not_done, Bool.or_false] at hgoes
          exact ⟨j :: rest, .turn hnext hfails, .inl hgoes, fun _ => hwritable⟩
        | false =>
          rcases runTurns_waits fuel hnext hsave hgoes with
            ⟨-, w', hrun, -, -⟩ | ⟨w₂, hread, -, hrun, -, -⟩
          · rw [hrun] at h
            exact absurd h (stop_ne_run _ _)
          · rw [hrun] at h
            obtain ⟨rest, hfails, hlines, -⟩ := ih h
            refine ⟨j :: rest, .turn hnext hfails, hlines.imp_right fun hle => ?_,
              fun _ => hwritable⟩
            rw [← htold.input, hread, List.length_cons]
            exact Nat.succ_le_succ hle
      · obtain ⟨file, e, hunsaved⟩ := runTurns_unsaved all fuel hnext hwritable
        cases hunsaved.symm.trans h
    · rw [runTurns, hnext] at h
      cases h

/-! ## Processes that fail -/

namespace Setup

/-- A process that gets through some turns and fails in the one behind them: unless all turns are
wanted at once, there is a line to read behind each, and each can be saved. -/
structure Fails (s : Setup) (files : Files) (p : Process) (script : Instruction) (i : Interpreter)
    (turns : List Interpreter) (path : Path) (err : EvalError) : Prop where
  finds : s.Finds files script
  begins : s.Begins files p script i
  fails : FailsAfter path err i turns
  lines : p.all = true ∨ turns.length ≤ p.input.readable
  writable : turns ≠ [] → Writable files s.file?

variable {s : Setup} {script : Instruction} {files files' : Files} {p : Process}

theorem Begins.reached (h : s.Begins files p script i) : Reached script i := by
  rcases h with ⟨-, rfl⟩ | ⟨-, file, text, c, -, -, -, hi⟩
  · exact .fresh
  · exact .resume hi

/-- **Only a process that gets to a failing turn fails with it.** -/
theorem exists_fails (h : (s.perform files p).1 = .failed (.run (.eval path err))) :
    ∃ script i turns, s.Fails files p script i turns path err := by
  rcases loadScript_cases s.path (s.world files p) with ⟨f, hload, hne⟩ | ⟨source, script, hsource⟩
  · rw [perform, carryOut, bind_apply, hload] at h
    cases h
    exact absurd rfl (hne _)
  have hfinds : s.Finds files script := ⟨source, hsource⟩
  rcases beginRun_cases s files p script with ⟨f, hbegin, hne⟩ | ⟨i, hbegins⟩
  · rw [perform_eq_runScript hfinds, runScript] at h
    change ((beginRun script p.resume s.file? >>= _ : StateM World _) _).1 = _ at h
    rw [bind_apply, hbegin] at h
    cases h
    exact absurd rfl (hne _ _)
  rw [perform_of_begins hfinds hbegins] at h
  obtain ⟨turns, hfails, hlines, hwritable⟩ := exists_failsAfter h
  exact ⟨script, i, turns, hfinds, hbegins, hfails, hlines, hwritable⟩

variable {turns : List Interpreter}

/-- **A process that gets to a failing turn fails with it**, and has printed and saved the turns in
front. -/
theorem Fails.exists_perform (h : s.Fails files p script i turns path err) :
    ∃ w, s.perform files p = (.failed (.run (.eval path err)), w) ∧
      w.output = toldTurns s.settings.echoVars p.all turns ∧ Saved s.file? files turns w.files := by
  have hfuel : turns.length < i.stepper.bound + 1 := by
    obtain ⟨st, scope, hfits, rfl⟩ := h.begins.reached.exists_standing
    have hturns := FailsAfter.length_le hfits scope h.fails
    have hbound : (visits (ahead script st)).length + 2 ≤
        (standing script st scope).stepper.bound := length_visits_ahead_le hfits
    omega
  obtain ⟨w, hrun, houtput, hsaved⟩ := exists_runTurns_failing (w := s.world files p)
    h.fails hfuel h.lines h.writable
  refine ⟨w, (perform_of_begins h.finds h.begins).trans hrun, ?_, hsaved⟩
  rw [houtput]
  exact String.empty_append

/-- **The last turn stands in front of the failing one**, and is taken up from its checkpoint. -/
theorem Fails.resume_last (h : s.Fails files p script i turns path err) :
    Interpreter.resume script (turns.getLast?.getD i).checkpoint = .ok (turns.getLast?.getD i) := by
  obtain ⟨st, scope, hfits, hlast⟩ := (h.fails.reached h.begins.reached).exists_standing
  rw [hlast]
  exact resume_standing hfits scope

/-- **What is then in the file is its checkpoint**, if there is a checkpoint in it at all. -/
theorem Fails.exists_text {file : String} (h : s.Fails files p script i turns path err)
    (hfile : s.file? = some file) (hsaved : Saved s.file? files turns files')
    (hsome : turns ≠ [] ∨ p.resume = true)
    (hkept : ∀ j, turns.getLast? = some j → j.checkpoint.Kept) :
    ∃ text, files'.read file = .ok (.text text) ∧
      Checkpoint.read text = .ok (turns.getLast?.getD i).checkpoint := by
  cases hlast : turns.getLast? with
  | none =>
    obtain rfl := List.getLast?_eq_none_iff.1 hlast
    have hresume := hsome.resolve_left fun hne => hne rfl
    obtain rfl := eq_of_saved_nil hsaved
    rcases h.begins with ⟨hfresh, -⟩ | ⟨-, file', text, c, hfile', hread, hparse, hi⟩
    · rw [hresume] at hfresh
      cases hfresh
    · obtain rfl : file' = file := Option.some.inj (hfile'.symm.trans hfile)
      refine ⟨text, hread, ?_⟩
      rw [Option.getD_none, checkpoint_of_resume hi]
      exact hparse
  | some j =>
    obtain ⟨text, hwritten, hread⟩ := exists_read_of_saved (hfile ▸ hsaved) hlast
    exact ⟨text, hread, (hkept j hlast).read hwritten⟩

/-- A process that begins in front of a failing turn does nothing but fail. -/
theorem perform_again (hfinds : s.Finds files script) (hbegins : s.Begins files p script i)
    (hfail : i.next.1 = .error (.eval path err)) :
    s.perform files p = (.failed (.run (.eval path err)), s.world files p) := by
  rw [perform_of_begins hfinds hbegins]
  exact runTurns_failed hfail

/-- A script that is not where checkpoints are saved is found again. -/
theorem Fails.finds_again {file : String} (h : s.Fails files p script i turns path err)
    (hfile : s.file? = some file) (hsaved : Saved s.file? files turns files')
    (hapart : files.target? .writing file ≠ files.target? .reading s.path) :
    s.Finds files' script := by
  by_cases hnil : turns = []
  · subst hnil
    rw [eq_of_saved_nil hsaved]
    exact h.finds
  · have hready : s.Ready script files := by
      refine ⟨h.finds, h.writable hnil, fun file' hfile' => ?_⟩
      obtain rfl : file' = file := Option.some.inj (hfile'.symm.trans hfile)
      exact hapart
    exact (hready.of_saved hsaved).finds

/-- **A turn that fails leaves no trace.** A process with a file for checkpoints fails in a turn
exactly if it gets there. It then ends with code 1, has printed the turns in front and a prompt
behind each unless all were wanted at once, and what is in the file is a text for the checkpoint of
the last of them. If there was none, all files are as they were. Any process that takes up this
checkpoint, from whatever text and with whatever settings and input, fails in the same way, prints
nothing and leaves the files as they are. So if there is one in the file, and it can be read back,
all do that follow one after the other, unless checkpoints are saved over the script. -/
theorem failing_turn_leaves_no_trace (s : Setup) (files : Files) (p : Process) (file : String)
    (path : Path) (err : EvalError) (hfile : s.file? = some file) :
    ((s.perform files p).1 = .failed (.run (.eval path err)) ↔
      ∃ script i turns, s.Fails files p script i turns path err) ∧
    ∀ script i turns, s.Fails files p script i turns path err →
      (s.perform files p).1.code = 1 ∧
      (s.perform files p).2.output = toldTurns s.settings.echoVars p.all turns ∧
      (turns = [] → (s.perform files p).2.files = files) ∧
      (∀ j, turns.getLast? = some j → ∃ text, j.checkpoint.Written text ∧
        (s.perform files p).2.files.read file = .ok (.text text)) ∧
      (∀ text, Checkpoint.read text = .ok (turns.getLast?.getD i).checkpoint →
        ∀ (later : Setup) (files' : Files) (q : Process) (file' : String),
          later.file? = some file' → files'.read file' = .ok (.text text) →
          later.Finds files' script → q.resume = true →
          later.perform files' q = (.failed (.run (.eval path err)), later.world files' q)) ∧
      ((turns ≠ [] ∨ p.resume = true) →
        (∀ j, turns.getLast? = some j → j.checkpoint.Kept) →
        (∃ text, (s.perform files p).2.files.read file = .ok (.text text) ∧
          Checkpoint.read text = .ok (turns.getLast?.getD i).checkpoint) ∧
        (files.target? .writing file ≠ files.target? .reading s.path →
          ∀ ps : List Process, (∀ q ∈ ps, q.resume = true) →
            s.session (s.perform files p).2.files ps = ps.map fun q =>
              (.failed (.run (.eval path err)), s.world (s.perform files p).2.files q))) := by
  refine ⟨⟨exists_fails, ?_⟩, ?_⟩
  · rintro ⟨script, i, turns, h⟩
    obtain ⟨w, hperform, -, -⟩ := h.exists_perform
    rw [hperform]
  intro script i turns h
  obtain ⟨w, hperform, houtput, hsaved⟩ := h.exists_perform
  have hlater : ∀ text, Checkpoint.read text = .ok (turns.getLast?.getD i).checkpoint →
      ∀ (later : Setup) (files' : Files) (q : Process) (file' : String),
        later.file? = some file' → files'.read file' = .ok (.text text) →
        later.Finds files' script → q.resume = true →
        later.perform files' q = (.failed (.run (.eval path err)), later.world files' q) := by
    intro text hparse later files' q file' hfile' hread hfinds hq
    exact perform_again hfinds (.inr ⟨hq, file', text, _, hfile', hread, hparse, h.resume_last⟩)
      h.fails.last
  rw [hperform]
  refine ⟨rfl, houtput, ?_, fun j hj => exists_read_of_saved (hfile ▸ hsaved) hj, hlater,
    fun hsome hkept => ?_⟩
  · rintro rfl
    exact eq_of_saved_nil hsaved
  obtain ⟨text, hread, hparse⟩ := h.exists_text hfile hsaved hsome hkept
  refine ⟨⟨text, hread, hparse⟩, fun hapart ps hps => ?_⟩
  have hfinds := h.finds_again hfile hsaved hapart
  induction ps with
  | nil => rfl
  | cons q ps ih =>
    have hq := hlater text hparse s w.files q file hfile hread hfinds (hps q List.mem_cons_self)
    rw [session, hq, List.map_cons]
    exact congrArg _ (ih fun q' hq' => hps q' (List.mem_cons_of_mem q hq'))

/-- Two variables, a line of dialogue and a pause, and behind it an expression that gives a third
variable a value and then fails. The process prints one turn and saves it with its variables the
other way round, and the third is not among them. Two later ones fail in the same way. -/
theorem failing_turn_leaves_no_trace_behind_pause :
    let script : Instruction := .composite .script [.expression (.assign "y" .null),
      .expression (.assign "x" (.boolean true)), .dialog "a", .pause,
      .expression (.binary .and (.assign "z" (.boolean true)) (.ident "u"))]
    let s : Setup := ⟨{}, [], "s.json", some "c.json"⟩
    let files : Files := ⟨[(["s.json"], .text script.write)]⟩
    let p : Process := { all := false, resume := false, input := ['\n'], orders := [[1]] }
    let j := (Interpreter.fresh script).next.2
    let ps : List Process :=
      [{ all := true, resume := true }, { all := false, resume := true, input := ['\n'] }]
    s.Fails files p script (.fresh script) [j] [4] (.undefinedVariable "u") ∧
      (s.perform files p).1.code = 1 ∧
      (s.perform files p).2.output = "a\n" ++ prompt ∧
      (∃ text, j.checkpoint.Written text ∧
        (s.perform files p).2.files.read "c.json" = .ok (.text text)) ∧
      j.checkpoint.scope.vars.entries.map Prod.fst = ["x", "y"] ∧
      s.session (s.perform files p).2.files ps = ps.map fun q =>
        (.failed (.run (.eval [4] (.undefinedVariable "u"))),
          s.world (s.perform files p).2.files q) := by
  intro script s files p j ps
  have hread : files.read "s.json" = .ok (.text script.write) := by
    with_unfolding_all rfl
  have hfinds : s.Finds files script :=
    finds_of_read_write hread (by decide) (by rintro x ⟨⟩)
  have hfails : s.Fails files p script (.fresh script) [j] [4] (.undefinedVariable "u") := by
    refine ⟨hfinds, .inl ⟨rfl, rfl⟩, .turn rfl (.failed rfl), .inr (by decide), ?_⟩
    rintro - _ ⟨⟩
    decide +kernel
  have hkept : ∀ i, [j].getLast? = some i → i.checkpoint.Kept := by
    rintro i ⟨⟩
    have hvalues : ∀ e ∈ j.checkpoint.scope.vars.entries, e.2.type ≠ .number := by decide +kernel
    refine (Checkpoint.kept_iff ?_).2 fun e he => Value.reproduced_of_type (hvalues e he)
    rintro q ⟨⟩ k hk
    obtain rfl := List.mem_singleton.1 hk
    decide
  have hapart : files.target? .writing "c.json" ≠ files.target? .reading s.path := by
    decide +kernel
  obtain ⟨-, htrace⟩ := failing_turn_leaves_no_trace s files p "c.json" [4]
    (.undefinedVariable "u") rfl
  obtain ⟨hcode, houtput, -, hlast, -, hagain⟩ := htrace script _ _ hfails
  obtain ⟨-, hsession⟩ := hagain (.inl (List.cons_ne_nil _ _)) hkept
  exact ⟨hfails, hcode, houtput.trans (by decide +kernel), hlast j rfl, by decide +kernel,
    hsession hapart ps (by decide)⟩

end Setup

end CommandLine

end DialogueScript
