import DialogueScript.Proofs.Session.Course
/-!
# A run as a list of work

An `Agenda` is a run without a tree and without a traversal: the list of
the instructions still to come, and the scope. A turn takes instructions
off the list. `Interpreter.next`, which rides a stepper instead, is the
same turn (`next_standing`): the agenda of a run is what the traversal has
still to come upon, and a turn of the agenda ends as the course of the turn
does (`Ends.work_eq`).
-/

namespace DialogueScript

open Traversal

/-- A run as a list of work. It is over only when a turn has found the list at
its end, so it may have nothing left to do and not be over. -/
structure Agenda where
  todo : Work
  scope : Scope
  done : Bool := false

namespace Agenda

/-- The agenda of a script: all that is below the root, which is itself never
performed. -/
def ofScript (script : Instruction) (scope : Scope) : Agenda := ⟨below script [], scope, false⟩

/-- Takes instructions off a list until the turn is over. The one that ended
the turn is off the list. -/
def work : Work → Scope → Except RunError Unit × Agenda
  | [], scope => (.ok (), ⟨[], scope, true⟩)
  | (p, n) :: rest, scope =>
    match perform p n scope with
    | (.ok true, scope) => (.ok (), ⟨rest, scope, false⟩)
    | (.ok false, scope) => work rest scope
    | (.error e, scope) => (.error e, ⟨rest, scope, false⟩)

/-- Runs one turn, from an empty dialogue on. -/
def next (a : Agenda) : Except RunError Turn × Agenda :=
  if a.done then (.ok .done, a)
  else
    match work a.todo a.scope.clearDialog with
    | (.ok (), a) => (.ok (.yielded a.scope), a)
    | (.error e, a) => (.error e, a)

end Agenda

/-- What a caller sees of a turn: its result, and then the scope and whether
the run is over. -/
structure Call where
  result : Except RunError Turn
  scope : Scope
  isDone : Bool

/-- What a caller sees of so many turns of an agenda. -/
def Agenda.calls : Nat → Agenda → List Call
  | 0, _ => []
  | k + 1, a => ⟨a.next.1, a.next.2.scope, a.next.2.done⟩ :: calls k a.next.2

/-- What a caller sees of so many turns of an interpreter. -/
def Interpreter.calls : Nat → Interpreter → List Call
  | 0, _ => []
  | k + 1, i => ⟨i.next.1, i.next.2.scope, i.next.2.isDone⟩ :: calls k i.next.2

variable {root : Instruction} {st st' : State} {todo rest before log : Work} {s t u : Scope}

/-! ## A turn -/

/-- Work that is performed is taken off the list. -/
theorem Performed.work_append (h : Performed before s t) (rest : Work) :
    Agenda.work (before ++ rest) s = Agenda.work rest t := by
  induction h with
  | nil s => rfl
  | cons hperform _ ih =>
    rw [List.cons_append, Agenda.work, hperform]
    exact ih

/-- **Working off a list ends as the course of a turn does.** -/
theorem Ends.work_eq {r : Except RunError Unit} (h : Ends todo s log r st rest t) :
    Agenda.work todo s = (r, ⟨rest, t, st.done⟩) := by
  cases h with
  | ended hperformed =>
    have hwork := hperformed.work_append []
    rw [List.append_nil] at hwork
    rw [hwork]
    rfl
  | paused htodo hperformed =>
    rw [htodo, hperformed.work_append]
    rfl
  | failed htodo hperformed heval =>
    rw [htodo, hperformed.work_append, Agenda.work, perform, heval]

/-- The agenda of a run that stands at a state. -/
def Agenda.standing (root : Instruction) (st : State) (scope : Scope) : Agenda :=
  ⟨visits (ahead root st), scope, st.done⟩

/-- **A turn of a run is a turn of its agenda**: the same result, and then the
same scope and what is left. -/
theorem next_standing (hfits : st.Fits root) (scope : Scope) :
    ∃ r st' scope', st'.Fits root ∧
      (Interpreter.standing root st scope).next = (r, .standing root st' scope') ∧
      (Agenda.standing root st scope).next = (r, .standing root st' scope') := by
  cases hdone : st.done with
  | true =>
    have hi : (Interpreter.standing root st scope).isDone = true := hdone
    have ha : (Agenda.standing root st scope).done = true := hdone
    exact ⟨.ok .done, st, scope, hfits, by rw [Interpreter.next, if_pos hi],
      by rw [Agenda.next, if_pos ha]⟩
  | false =>
    obtain ⟨log, r, st', t, hfits', -, hnext, hends⟩ := exists_advances_next hfits hdone scope
    refine ⟨_, st', t, hfits', hnext, ?_⟩
    have ha : ¬ (Agenda.standing root st scope).done = true := by simp [Agenda.standing, hdone]
    have hwork : Agenda.work (Agenda.standing root st scope).todo scope.clearDialog =
        (r, .standing root st' t) := hends.work_eq
    rw [Agenda.next, if_neg ha, show (Agenda.standing root st scope).scope = scope from rfl, hwork]
    cases r with
    | ok u => rfl
    | error err => rfl

/-! ## Any number of turns -/

/-- **Turn by turn a caller sees of a run what it sees of its agenda.** -/
theorem calls_standing (hfits : st.Fits root) (scope : Scope) (k : Nat) :
    (Interpreter.standing root st scope).calls k = (Agenda.standing root st scope).calls k := by
  induction k generalizing st scope with
  | zero => rfl
  | succ k ih =>
    obtain ⟨r, st', scope', hfits', hinterpreter, hagenda⟩ := next_standing hfits scope
    rw [Interpreter.calls, Agenda.calls, hinterpreter, hagenda, ih hfits']
    rfl

/-- A fresh run stands before the root with the whole script ahead. -/
theorem standing_fresh (script : Instruction) (scope : Scope) :
    Agenda.standing script {} scope = Agenda.ofScript script scope := by
  rw [Agenda.ofScript, ← visits_traversal]
  rfl

/-- **An interpreter works off the instructions below its root in
pre-order.** However many turns are run, from any scope, each has the result
that it has on the agenda of the script, and leaves the same scope, and the
run is over behind the same turn. -/
theorem Interpreter.calls_eq_agenda (script : Instruction) (scope : Scope) (k : Nat) :
    (withScope script scope).calls k = (Agenda.ofScript script scope).calls k ∧
      (fresh script).calls k = (Agenda.ofScript script {}).calls k := by
  have hfits : State.Fits {} script := State.fits_of_none false false
  rw [← standing_fresh, ← standing_fresh]
  exact ⟨calls_standing hfits scope k, calls_standing hfits {} k⟩

/-- A pause at the very end: the turn that stops there leaves the run not
over, and there is one more turn, with nothing to say. -/
example : (Agenda.ofScript (.composite .script [.dialog "a", .pause]) {}).calls 3 =
    [⟨.ok (.yielded ⟨"a", .empty⟩), ⟨"a", .empty⟩, false⟩,
      ⟨.ok (.yielded ⟨"", .empty⟩), ⟨"", .empty⟩, true⟩,
      ⟨.ok .done, ⟨"", .empty⟩, true⟩] := rfl

end DialogueScript
