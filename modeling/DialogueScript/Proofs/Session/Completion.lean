import DialogueScript.Proofs.Script.Variables
import DialogueScript.Proofs.Session.Course
import DialogueScript.Proofs.Session.Lockstep
import DialogueScript.Proofs.Session.Preorder
import DialogueScript.Proofs.Session.Turns
/-!
# Running to the end

What a run has left to do is the list of instructions behind its place
(`remaining`). From that list and the variables alone one can tell which
expressions will fail (`failures`) and what the variables will be in the
end (`settled`), since no instruction asks a variable where to go on.

`RunsOut` is running to the end as turns one after the other, each with
its course, so again nothing is counted. It stops at the first failure,
with the run standing at the expression that failed, and otherwise it
comes to the end of the list (`exists_runsOut`). The work that a failure
leaves is what is behind it, so a host that runs to the end again and
again needs one call for every failure and one more, and nothing on the
list is applied twice or left out (`exists_repeats`).
-/

namespace DialogueScript

open Traversal

/-! ## What is left -/

/-- The instructions that a run has still to come upon: all below the root, or
those behind the path it stands at. -/
def Interpreter.remaining (i : Interpreter) : Work :=
  if i.isDone then []
  else
    match i.stepper.path with
    | none => if i.stepper.exiting then [] else below i.stepper.root []
    | some p => (below i.stepper.root []).filter fun w => Remains p i.stepper.exiting w.1

/-- The expressions among work that fail if all of it is applied, with their
paths. What a failing one has assigned stays. -/
def failures : Work → Variables → List (Path × EvalError)
  | [], _ => []
  | (p, n) :: rest, vars =>
    match n.apply (.withVars vars) with
    | (.ok _, s) => failures rest s.vars
    | (.error err, s) => (p, err) :: failures rest s.vars

/-- The variables when all of some work has been applied. -/
def settled : Work → Variables → Variables
  | [], vars => vars
  | (_, n) :: rest, vars => settled rest (n.apply (.withVars vars)).2.vars

/-- How many pauses are among work. -/
def pauses (work : Work) : Nat := work.countP fun w => w.2.isPause

/-- The dialogue of work. -/
def spoken (work : Work) : String := String.join (work.map fun w => w.2.text)

namespace Interpreter

/-- A run goes through all turns that are left, and so much is applied on the
way. The dialogue of each turn is kept unless one of them fails. -/
inductive RunsOut : Interpreter → Work → Except RunError (List String) → Interpreter → Prop
  | ended {i : Interpreter} : i.isDone = true → RunsOut i [] (.ok []) i
  | turn {i j k : Interpreter} {log log' : Work} {r : Except RunError (List String)} :
      i.isDone = false → Advances ⟨i.stepper, i.scope.clearDialog⟩ log (.ok ()) j →
      RunsOut j log' r k → RunsOut i (log ++ log') (r.map (j.scope.dialog :: ·)) k
  | failed {i j : Interpreter} {log : Work} {e : RunError} :
      i.isDone = false → Advances ⟨i.stepper, i.scope.clearDialog⟩ log (.error e) j →
      RunsOut i log (.error e) j

/-- A host runs to the end one time after the other, with these results, and so
much is applied on the way. -/
inductive Repeats :
    Interpreter → Work → List (Except RunError (List String)) → Interpreter → Prop
  | nil (i : Interpreter) : Repeats i [] [] i
  | cons {i j k : Interpreter} {log log' : Work} {r : Except RunError (List String)}
      {results : List (Except RunError (List String))} :
      i.runToEnd = (r, j) → RunsOut i log r j → Repeats j log' results k →
      Repeats i (log ++ log') (r :: results) k

end Interpreter

/-- How running to the end ends that has some work before it: what was applied,
the result, the state, the work that is left, and the variables. -/
inductive Completes (todo : Work) (vars : Variables) :
    Work → Except RunError (List String) → State → Work → Variables → Prop
  | ended {dialogs : List String} :
      failures todo vars = [] → dialogs.length = 1 + pauses todo →
      String.join dialogs = spoken todo →
      Completes todo vars (effects todo) (.ok dialogs) ⟨true, none, false⟩ [] (settled todo vars)
  | failed {before rest : Work} {p : Path} {e : Expr} {err : EvalError} {vars' : Variables} :
      todo = before ++ (p, .expression e) :: rest → failures before vars = [] →
      failures todo vars = (p, err) :: failures rest vars' →
      settled todo vars = settled rest vars' →
      Completes todo vars (effects before ++ [(p, .expression e)]) (.error (.eval p err))
        ⟨false, some p, false⟩ rest vars'

variable {script root n : Instruction} {st st' : State} {i : Interpreter} {p : Path}
variable {s t u : Scope} {vars : Variables} {before rest todo log : Work}

/-! ## One instruction -/

theorem Instruction.apply_expression (e : Expr) (s : Scope) :
    (Instruction.expression e).apply s = ((e.eval s).1.map fun _ => (), (e.eval s).2) := by
  rw [apply]
  rcases e.eval s with ⟨_ | _, t⟩ <;> rfl

/-- **What an instruction does in a turn that goes on** can be told from the
variables: it does not fail on them alone either, and they become the same. -/
theorem perform_goes (h : perform p n s = (.ok false, t)) :
    n.isPause = false ∧ t.dialog = s.dialog ++ n.text ∧
      (n.apply (.withVars s.vars)).1 = .ok () ∧ (n.apply (.withVars s.vars)).2.vars = t.vars := by
  cases n with
  | pause => cases h
  | dialog text =>
    cases h
    exact ⟨rfl, rfl, rfl, rfl⟩
  | expression e =>
    obtain ⟨hresult, hvars⟩ := e.eval_eq_of_vars_eq (s := .withVars s.vars) (t := s) rfl
    have hdialog := e.dialog_eval s
    rw [perform] at h
    rcases heval : e.eval s with ⟨_ | v, s₁⟩ <;> rw [heval] at h hresult hvars hdialog <;> cases h
    rw [Instruction.apply_expression, hresult]
    exact ⟨rfl, by rw [hdialog]; exact String.append_empty.symm, rfl, hvars⟩
  | _ =>
    cases h
    exact ⟨rfl, String.append_empty.symm, rfl, rfl⟩

/-! ## Work that is performed -/

/-- Performing work says its dialogue. -/
theorem Performed.dialog_eq (h : Performed before s t) : t.dialog = s.dialog ++ spoken before := by
  induction h with
  | nil s => exact String.append_empty.symm
  | cons hperform _ ih =>
    rw [ih, (perform_goes hperform).2.1]
    simp [spoken, String.append_assoc]

theorem Performed.pauses_eq (h : Performed before s t) : pauses before = 0 := by
  induction h with
  | nil s => rfl
  | cons hperform _ ih =>
    rw [pauses, List.countP_cons_of_neg (by simp [(perform_goes hperform).1])]
    exact ih

/-- **Performing work brings the variables to where the rest is reckoned from.** -/
theorem Performed.reckoned (h : Performed before s t) (rest : Work) :
    failures (before ++ rest) s.vars = failures rest t.vars ∧
      settled (before ++ rest) s.vars = settled rest t.vars := by
  induction h with
  | nil s => exact ⟨rfl, rfl⟩
  | @cons p n before s t u hperform _ ih =>
    obtain ⟨-, -, hresult, hvars⟩ := perform_goes hperform
    rw [List.cons_append, failures, settled, hvars]
    rcases happly : n.apply (.withVars s.vars) with ⟨err | u, s₁⟩ <;>
      rw [happly] at hresult hvars
    · cases hresult
    · refine ⟨?_, ih.2⟩
      dsimp only at hvars ⊢
      rw [hvars]
      exact ih.1

/-- An expression that fails is reckoned to fail. -/
theorem reckoned_failing (p : Path) (rest : Work) {e : Expr} {err : EvalError}
    (heval : e.eval t = (.error err, u)) :
    failures ((p, .expression e) :: rest) t.vars = (p, err) :: failures rest u.vars ∧
      settled ((p, .expression e) :: rest) t.vars = settled rest u.vars := by
  obtain ⟨hresult, hvars⟩ := e.eval_eq_of_vars_eq (s := .withVars t.vars) (t := t) rfl
  rw [heval] at hresult hvars
  have happly : (Instruction.expression e).apply (.withVars t.vars) =
      (.error err, (e.eval (.withVars t.vars)).2) := by
    rw [Instruction.apply_expression, hresult]
    rfl
  rw [failures, settled, happly]
  dsimp only at hvars ⊢
  rw [hvars]
  exact ⟨rfl, rfl⟩

theorem effects_append (v w : Work) : effects (v ++ w) = effects v ++ effects w :=
  List.filter_append v w

/-- A turn that takes all of the work. -/
theorem Completes.at_end (hempty : s.dialog = "") (hperformed : Performed todo s t) :
    Completes todo s.vars (effects todo) (.ok [t.dialog]) ⟨true, none, false⟩ [] t.vars := by
  obtain ⟨hfailures, hsettled⟩ := hperformed.reckoned []
  rw [List.append_nil] at hfailures hsettled
  rw [show t.vars = settled todo s.vars from hsettled.symm]
  refine .ended hfailures ?_ ?_
  · rw [hperformed.pauses_eq]
    rfl
  · rw [hperformed.dialog_eq, hempty]
    simp

/-- A turn that comes to an expression that fails. -/
theorem Completes.at_failure {e : Expr} {err : EvalError} (hperformed : Performed before s t)
    (heval : e.eval t = (.error err, u)) :
    Completes (before ++ (p, .expression e) :: rest) s.vars
      (effects before ++ [(p, .expression e)]) (.error (.eval p err)) ⟨false, some p, false⟩ rest
      u.vars := by
  obtain ⟨hbefore, -⟩ := hperformed.reckoned []
  obtain ⟨hfailures, hsettled⟩ := hperformed.reckoned ((p, .expression e) :: rest)
  obtain ⟨hfails, hleaves⟩ := reckoned_failing p rest heval
  rw [List.append_nil] at hbefore
  exact .failed rfl hbefore (hfailures.trans hfails) (hsettled.trans hleaves)

/-- A turn that stops at a pause, in front of what running to the end then does. -/
theorem Completes.behind_pause {r : Except RunError (List String)} {left : Work}
    {vars' : Variables} (hempty : s.dialog = "") (hperformed : Performed before s t)
    (h : Completes rest t.vars log r st left vars') :
    Completes (before ++ (p, .pause) :: rest) s.vars (effects before ++ log)
      (r.map (t.dialog :: ·)) st left vars' := by
  obtain ⟨hfailures, hsettled⟩ := hperformed.reckoned ((p, .pause) :: rest)
  have heffects : effects (before ++ (p, .pause) :: rest) = effects before ++ effects rest :=
    effects_append before ((p, .pause) :: rest)
  cases h with
  | @ended dialogs hnone hlength hjoin =>
    rw [← heffects, show settled rest t.vars = settled (before ++ (p, .pause) :: rest) s.vars from
      hsettled.symm]
    refine .ended (hfailures.trans hnone) ?_ ?_
    · have hpauses : pauses (before ++ (p, .pause) :: rest) =
          pauses before + (pauses rest + 1) := by
        rw [pauses, List.countP_append, List.countP_cons_of_pos (by rfl)]
        rfl
      rw [List.length_cons, hlength, hpauses, hperformed.pauses_eq]
      omega
    · rw [String.join_cons, hjoin, hperformed.dialog_eq, hempty]
      simp [spoken, Instruction.text]
  | @failed before' rest' q e err vars' htodo hbefore hmore hsame =>
    have hlog : effects before ++ (effects before' ++ [(q, .expression e)]) =
        effects (before ++ (p, .pause) :: before') ++ [(q, .expression e)] := by
      rw [effects_append, List.append_assoc]
      rfl
    rw [hlog]
    refine .failed ?_ ?_ (hfailures.trans hmore) (hsettled.trans hsame)
    · rw [htodo, List.append_assoc, List.cons_append]
    · exact (hperformed.reckoned ((p, .pause) :: before')).1.trans hbefore

theorem Completes.of_none {r : Except RunError (List String)} {left : Work} {vars' : Variables}
    (h : Completes todo vars log r st left vars') (hnone : failures todo vars = []) :
    st = ⟨true, none, false⟩ ∧ log = effects todo ∧ vars' = settled todo vars ∧
      ∃ dialogs, r = .ok dialogs ∧ dialogs.length = 1 + pauses todo ∧
        String.join dialogs = spoken todo := by
  cases h with
  | ended _ hlength hjoin => exact ⟨rfl, rfl, rfl, _, rfl, hlength, hjoin⟩
  | failed _ _ hmore _ =>
    rw [hnone] at hmore
    cases hmore

theorem Completes.of_failures {r : Except RunError (List String)} {left : Work}
    {vars' : Variables} {err : EvalError} {more : List (Path × EvalError)}
    (h : Completes todo vars log r st left vars') (hsome : failures todo vars = (p, err) :: more) :
    st = ⟨false, some p, false⟩ ∧ r = .error (.eval p err) ∧ failures left vars' = more ∧
      settled todo vars = settled left vars' ∧
      ∃ before e, todo = before ++ (p, .expression e) :: left ∧ failures before vars = [] ∧
        log = effects before ++ [(p, .expression e)] := by
  cases h with
  | ended hnone _ _ =>
    rw [hsome] at hnone
    cases hnone
  | failed htodo hbefore hmore hsame =>
    obtain ⟨heq, rfl⟩ := List.cons.inj (hsome.symm.trans hmore)
    cases heq
    exact ⟨rfl, rfl, rfl, hsame, _, _, htodo, hbefore, rfl⟩

/-! ## Running to the end -/

theorem remaining_standing (hfits : st.Fits root) (s : Scope) :
    (Interpreter.standing root st s).remaining = visits (ahead root st) := by
  cases hdone : st.done with
  | true =>
    have hover : (Interpreter.standing root st s).isDone = true := hdone
    rw [Interpreter.remaining, if_pos hover, ahead_of_done hdone]
    rfl
  | false =>
    rcases hfits.cases hdone with ⟨x, rfl⟩ | ⟨p, x, n, rfl, hn⟩
    · cases x with
      | true => rfl
      | false => exact (visits_traversal root).symm
    · exact (visits_ahead hn).symm

/-- **Running to the end takes its course** through the work that is left, if as
many turns are allowed as that can have. -/
theorem exists_runsOut {k : Nat} (hfits : st.Fits root) (hdone : st.done = false)
    (hk : (visits (ahead root st)).length + 2 ≤ k) (s : Scope) :
    ∃ log r st' t, st'.Fits root ∧
      Interpreter.RunsOut (.standing root st s) log r (.standing root st' t) ∧
      Interpreter.runTurns k (.standing root st s) = (r, .standing root st' t) ∧
      Completes (visits (ahead root st)) s.vars log r st' (visits (ahead root st')) t.vars := by
  induction k generalizing st s with
  | zero => omega
  | succ k ih =>
    obtain ⟨log, r, st', t, hfits', hadvances, hnext, hends⟩ := exists_advances_next hfits hdone s
    generalize hleft : visits (ahead root st') = left at hends
    generalize htodo : visits (ahead root st) = todo at hk hends
    have hempty : s.clearDialog.dialog = "" := rfl
    rw [Interpreter.runTurns, hnext]
    cases hends with
    | ended hperformed =>
      -- the end is only found out by the turn after the last one
      obtain ⟨k, rfl⟩ := Nat.exists_eq_succ_of_ne_zero (show k ≠ 0 by omega)
      have hover : (Interpreter.standing root ⟨true, none, false⟩ t).isDone = true := rfl
      have hcourse := Interpreter.RunsOut.turn (i := .standing root st s) hdone hadvances
        (.ended hover)
      rw [List.append_nil] at hcourse
      refine ⟨_, _, _, t, hfits', hcourse, ?_, ?_⟩
      · dsimp only [Except.map]
        rw [Interpreter.runTurns, Interpreter.next_of_isDone hover]
        rfl
      · rw [hleft]
        exact Completes.at_end (s := s.clearDialog) hempty hperformed
    | @paused before rest p t hsplit hperformed =>
      have hrest : (visits (ahead root ⟨false, some p, false⟩)).length + 2 ≤ k := by
        rw [hsplit, List.length_append, List.length_cons] at hk
        rw [hleft]
        omega
      obtain ⟨log', r, st', u, hfits'', hruns, hturns, hcompletes⟩ := ih hfits' rfl hrest t
      rw [hleft] at hcompletes
      refine ⟨_, _, st', u, hfits'', .turn hdone hadvances hruns, ?_, ?_⟩
      · dsimp only [Except.map]
        rw [hturns]
        cases r with
        | ok dialogs => rfl
        | error e => rfl
      · rw [hsplit]
        exact Completes.behind_pause (s := s.clearDialog) hempty hperformed hcompletes
    | @failed before rest p e err s₁ _ hsplit hperformed heval =>
      refine ⟨_, _, _, t, hfits', .failed hdone hadvances, rfl, ?_⟩
      rw [hleft, hsplit]
      exact Completes.at_failure (s := s.clearDialog) hperformed heval

/-- So does `runToEnd`, which allows enough turns for any place in the script. -/
theorem exists_runsOut_runToEnd (hfits : st.Fits root) (hdone : st.done = false) (s : Scope) :
    ∃ log r st' t, st'.Fits root ∧
      Interpreter.RunsOut (.standing root st s) log r (.standing root st' t) ∧
      (Interpreter.standing root st s).runToEnd = (r, .standing root st' t) ∧
      Completes (visits (ahead root st)) s.vars log r st' (visits (ahead root st')) t.vars := by
  have hbound : (visits (ahead root st)).length + 2 ≤
      (Interpreter.standing root st s).stepper.bound + 1 :=
    Nat.le_succ_of_le (length_visits_ahead_le hfits)
  exact exists_runsOut hfits hdone hbound s

/-- **A host that runs to the end until it gets there** needs a call for every
failure and one more, and has then applied what was left once. -/
theorem exists_repeats (hfits : st.Fits root) (hdone : st.done = false) (s : Scope) :
    ∃ dialogs st' t, st'.done = true ∧ t.vars = settled (visits (ahead root st)) s.vars ∧
      Interpreter.Repeats (.standing root st s) (effects (visits (ahead root st)))
        ((failures (visits (ahead root st)) s.vars).map (fun f => .error (.eval f.1 f.2)) ++
          [.ok dialogs]) (.standing root st' t) := by
  generalize hfailures : failures (visits (ahead root st)) s.vars = failing
  induction failing generalizing st s with
  | nil =>
    obtain ⟨log, r, st', t, -, hruns, hrun, hcompletes⟩ := exists_runsOut_runToEnd hfits hdone s
    obtain ⟨rfl, rfl, hsettled, dialogs, rfl, -, -⟩ := hcompletes.of_none hfailures
    have hrepeats := Interpreter.Repeats.cons hrun hruns (.nil _)
    rw [List.append_nil] at hrepeats
    exact ⟨dialogs, _, t, rfl, hsettled, hrepeats⟩
  | cons f failing ih =>
    obtain ⟨log, r, st', t, hfits', hruns, hrun, hcompletes⟩ :=
      exists_runsOut_runToEnd hfits hdone s
    obtain ⟨rfl, rfl, hmore, hsame, before, e, htodo, -, rfl⟩ := hcompletes.of_failures hfailures
    obtain ⟨dialogs, st'', u, hover, hsettled, hrepeats⟩ := ih hfits' rfl t hmore
    refine ⟨dialogs, st'', u, hover, hsettled.trans hsame.symm, ?_⟩
    have heffects : effects (visits (ahead root st)) = (effects before ++ [(f.1, .expression e)]) ++
        effects (visits (ahead root ⟨false, some f.1, false⟩)) := by
      rw [htodo, effects_append, List.append_assoc]
      rfl
    rw [heffects]
    exact .cons hrun hruns hrepeats

theorem pairwise_remaining (i : Interpreter) :
    i.remaining.Pairwise fun v w => v.1 < w.1 := by
  have hbelow := pairwise_below i.stepper.root []
  unfold Interpreter.remaining
  split
  · exact .nil
  · split
    · split
      · exact .nil
      · exact hbelow
    · exact hbelow.sublist List.filter_sublist

/-- **Running to the end always comes back.** On a run that is over it gives no
dialogue. Otherwise, if nothing that is left fails, it gives one dialogue more
than there are pauses, which together are the dialogue that is left, and the run
is over. If something fails, it gives the first failure, and the run stands at
the expression that failed, with what is behind that still to come. And a host
that then runs to the end again, until it gets there, needs as many calls as
expressions fail and one more, and they have applied all that was left, in
order and once. -/
theorem Interpreter.runToEnd_completes (h : Reached script i) :
    (∃ log, RunsOut i log i.runToEnd.1 i.runToEnd.2) ∧
    (i.isDone = true → i.runToEnd = (.ok [], i)) ∧
    (i.isDone = false →
      (failures i.remaining i.scope.vars = [] →
        ∃ dialogs, i.runToEnd.1 = .ok dialogs ∧ dialogs.length = 1 + pauses i.remaining ∧
          String.join dialogs = spoken i.remaining ∧ i.runToEnd.2.isDone = true) ∧
      (∀ p err more, failures i.remaining i.scope.vars = (p, err) :: more →
        i.runToEnd.1 = .error (.eval p err) ∧
        i.runToEnd.2.stepper.state = ⟨false, some p, false⟩ ∧
        (∃ before e, i.remaining = before ++ (p, .expression e) :: i.runToEnd.2.remaining ∧
          failures before i.scope.vars = []) ∧
        failures i.runToEnd.2.remaining i.runToEnd.2.scope.vars = more) ∧
      i.remaining.Pairwise (fun v w => v.1 < w.1) ∧
      ∃ dialogs j, Repeats i (effects i.remaining)
          ((failures i.remaining i.scope.vars).map (fun f => .error (.eval f.1 f.2)) ++
            [.ok dialogs]) j ∧
        j.isDone = true ∧ j.scope.vars = settled i.remaining i.scope.vars) := by
  have hordered := pairwise_remaining i
  obtain ⟨st, s, hfits, rfl⟩ := h.exists_standing
  have hremaining := remaining_standing hfits s
  cases hdone : st.done with
  | true =>
    have hover : (standing script st s).isDone = true := hdone
    have hrun : (standing script st s).runToEnd = (.ok [], standing script st s) := by
      rw [runToEnd, runTurns, next_of_isDone hover]
    rw [hrun]
    refine ⟨⟨[], .ended hover⟩, fun _ => rfl, fun hnot => ?_⟩
    rw [hover] at hnot
    cases hnot
  | false =>
    have hgoes : (standing script st s).isDone = false := hdone
    have hscope : (standing script st s).scope = s := rfl
    obtain ⟨log, r, st', t, hfits', hruns, hrun, hcompletes⟩ :=
      exists_runsOut_runToEnd hfits hdone s
    have hremaining' := remaining_standing hfits' t
    obtain ⟨dialogs, st'', u, hover, hsettled, hrepeats⟩ := exists_repeats hfits hdone s
    rw [hremaining] at hordered
    rw [hrun, hremaining, hscope]
    refine ⟨⟨log, hruns⟩, fun hnot => ?_, fun _ => ⟨?_, ?_, hordered, dialogs, _, hrepeats, hover,
      hsettled⟩⟩
    · rw [hgoes] at hnot
      cases hnot
    · intro hnone
      obtain ⟨rfl, -, -, dialogs, hr, hlength, hjoin⟩ := hcompletes.of_none hnone
      exact ⟨dialogs, hr, hlength, hjoin, rfl⟩
    · intro p err more hsome
      obtain ⟨rfl, hr, hmore, -, before, e, htodo, hbefore, -⟩ := hcompletes.of_failures hsome
      rw [hremaining']
      exact ⟨hr, rfl, ⟨before, e, htodo, hbefore⟩, hmore⟩

/-- A failure, a pause and another failure inside a block, with a pause at the very
end: three calls are needed. -/
theorem Interpreter.runToEnd_completes_failing_twice :
    let script : Instruction := .composite .script
      [.dialog "a", .expression (.ident "x"), .pause,
        .composite .eachBlock [.expression (.ident "y"), .dialog "b"], .pause]
    let i := fresh script
    (∃ log, RunsOut i log i.runToEnd.1 i.runToEnd.2) ∧
      i.runToEnd.1 = .error (.eval [1] (.undefinedVariable "x")) ∧
      i.runToEnd.2.stepper.state = ⟨false, some [1], false⟩ ∧
      ∃ dialogs j, Repeats i
          [([0], .dialog "a"), ([1], .expression (.ident "x")), ([3, 0], .expression (.ident "y")),
            ([3, 1], .dialog "b")]
          [.error (.eval [1] (.undefinedVariable "x")),
            .error (.eval [3, 0] (.undefinedVariable "y")), .ok dialogs] j ∧
        j.isDone = true := by
  intro script i
  have hreached : Reached script i := .fresh
  obtain ⟨hcourse, -, hgoes⟩ := runToEnd_completes hreached
  obtain ⟨-, hfails, -, dialogs, j, hrepeats, hover, -⟩ := hgoes rfl
  obtain ⟨hresult, hstate, -, -⟩ := hfails [1] (.undefinedVariable "x")
    [([3, 0], .undefinedVariable "y")] rfl
  exact ⟨hcourse, hresult, hstate, dialogs, j, hrepeats, hover⟩

end DialogueScript
