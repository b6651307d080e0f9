import DialogueScript.Proofs.Session.Work
/-!
# The course of a turn

A turn goes from event to event until one of them ends it, and nothing
but the tree bounds how many there are. `Passes` is the part of a turn
in which nothing ends it, with the instructions that are applied on the
way, and `Advances` is a whole turn: both are finite, and neither counts.
`advance`, which does count, comes to the end of such a course
(`exists_advances`), so a turn always has one.

Against the work that is left the course of a turn is told by `Ends`: it
takes all of the work, or all in front of a pause, or all up to an
expression that fails, and stops there.
-/

namespace DialogueScript

open Traversal

/-! ## Courses -/

namespace Interpreter

/-- What an event applies: the instruction it comes upon, if that has an
effect. -/
def applied (event : Event) : Work :=
  match event.action, event.node with
  | .start, _ => []
  | .exit, _ => []
  | _, none => []
  | _, some node =>
    if node.isPause then []
    else if node.hasEffect then [(event.path.getD [], node)]
    else []

/-- A run goes on within a turn, and so much is applied on the way. -/
inductive Passes : Interpreter → Work → Interpreter → Prop
  | refl (i : Interpreter) : Passes i [] i
  | step {i j : Interpreter} {event : Event} {stepper : Stepper} {scope : Scope} {log : Work} :
      i.stepper.next = .ok (event, stepper) → stepper.done = false →
      visit event i.scope = (.ok false, scope) → Passes ⟨stepper, scope⟩ log j →
      Passes i (applied event ++ log) j

/-- A run goes on to the end of a turn, and so much is applied on the way. -/
inductive Advances : Interpreter → Work → Except RunError Unit → Interpreter → Prop
  /-- The traversal ends. -/
  | ended {i j : Interpreter} {event : Event} {stepper : Stepper} {log : Work} :
      Passes i log j → j.stepper.next = .ok (event, stepper) → stepper.done = true →
      Advances i log (.ok ()) ⟨stepper, j.scope⟩
  /-- There is a pause. -/
  | paused {i j : Interpreter} {event : Event} {stepper : Stepper} {scope : Scope} {log : Work} :
      Passes i log j → j.stepper.next = .ok (event, stepper) → stepper.done = false →
      visit event j.scope = (.ok true, scope) → Advances i log (.ok ()) ⟨stepper, scope⟩
  /-- An instruction fails, which was applied as well. -/
  | failed {i j : Interpreter} {event : Event} {stepper : Stepper} {scope : Scope} {log : Work}
      {e : RunError} :
      Passes i log j → j.stepper.next = .ok (event, stepper) → stepper.done = false →
      visit event j.scope = (.error e, scope) →
      Advances i (log ++ applied event) (.error e) ⟨stepper, scope⟩

variable {i j : Interpreter} {event : Event} {stepper : Stepper} {scope : Scope} {log : Work}

/-- One more event in front of a course. -/
theorem Advances.step {r : Except RunError Unit} (hnext : i.stepper.next = .ok (event, stepper))
    (hgoes : stepper.done = false) (hvisit : visit event i.scope = (.ok false, scope))
    (h : Advances ⟨stepper, scope⟩ log r j) : Advances i (applied event ++ log) r j := by
  cases h with
  | ended hpasses hlast hdone => exact .ended (.step hnext hgoes hvisit hpasses) hlast hdone
  | paused hpasses hlast hdone hstop =>
    exact .paused (.step hnext hgoes hvisit hpasses) hlast hdone hstop
  | failed hpasses hlast hdone hfail =>
    rw [← List.append_assoc]
    exact .failed (.step hnext hgoes hvisit hpasses) hlast hdone hfail

end Interpreter

/-! ## Work in one go -/

/-- The dialogue and the expressions among work. -/
def effects (work : Work) : Work := work.filter fun w => w.2.hasEffect

/-- Work that is performed from one scope to another, with no pause and no
failure in it. -/
inductive Performed : Work → Scope → Scope → Prop
  | nil (s : Scope) : Performed [] s s
  | cons {p : Path} {n : Instruction} {rest : Work} {s t u : Scope} :
      perform p n s = (.ok false, t) → Performed rest t u → Performed ((p, n) :: rest) s u

/-- How a turn ends that has some work before it: what was applied, the result,
the state, the work that is left, and the scope. -/
inductive Ends (todo : Work) (s : Scope) :
    Work → Except RunError Unit → State → Work → Scope → Prop
  | ended {t : Scope} :
      Performed todo s t → Ends todo s (effects todo) (.ok ()) ⟨true, none, false⟩ [] t
  | paused {before rest : Work} {p : Path} {t : Scope} :
      todo = before ++ (p, .pause) :: rest → Performed before s t →
      Ends todo s (effects before) (.ok ()) ⟨false, some p, false⟩ rest t
  | failed {before rest : Work} {p : Path} {e : Expr} {err : EvalError} {t u : Scope} :
      todo = before ++ (p, .expression e) :: rest → Performed before s t →
      e.eval t = (.error err, u) →
      Ends todo s (effects before ++ [(p, .expression e)]) (.error (.eval p err))
        ⟨false, some p, false⟩ rest u

variable {root n : Instruction} {st st' : State} {event : Event} {p : Path} {s t u : Scope}
variable {todo rest log : Work} {r : Except RunError Unit}

/-- One more instruction in front of a turn. -/
theorem Ends.cons (hperform : perform p n s = (.ok false, t)) (h : Ends todo t log r st rest u) :
    Ends ((p, n) :: todo) s (effects [(p, n)] ++ log) r st rest u := by
  have heffects : ∀ work : Work, effects ((p, n) :: work) = effects [(p, n)] ++ effects work :=
    fun work => List.filter_append [(p, n)] work
  cases h with
  | ended hperformed =>
    rw [← heffects]
    exact .ended (.cons hperform hperformed)
  | @paused before rest q t' htodo hperformed =>
    rw [← heffects]
    exact .paused (by rw [htodo]; rfl) (.cons hperform hperformed)
  | @failed before rest q e err t' u htodo hperformed heval =>
    rw [← List.append_assoc, ← heffects]
    exact .failed (by rw [htodo]; rfl) (.cons hperform hperformed) heval

/-- Only a pause ends a turn. -/
theorem eq_pause_of_perform (h : perform p n s = (.ok true, t)) : n = .pause ∧ t = s := by
  unfold perform at h
  split at h <;> try split at h
  all_goals cases h
  exact ⟨rfl, rfl⟩

/-- Only an expression fails. -/
theorem exists_eval_of_perform {e : RunError} (h : perform p n s = (.error e, t)) :
    ∃ expr err, n = .expression expr ∧ e = .eval p err ∧ expr.eval s = (.error err, t) := by
  unfold perform at h
  split at h <;> try split at h
  all_goals cases h
  exact ⟨_, _, rfl, rfl, ‹_›⟩

/-! ## Events of a course -/

/-- **An event ends the traversal, or passes something by, or comes upon the
instruction at its path**, which is then where the traversal stands. -/
theorem Traversal.Moves.course (h : Moves root st event st') :
    (event.visited = none ∧ st' = ⟨true, none, false⟩) ∨
      (event.visited = none ∧ st'.done = false ∧ Interpreter.applied event = [] ∧
        ∀ s, Interpreter.visit event s = (.ok false, s)) ∨
      ∃ p n, event.visited = some (p, n) ∧ event.path = some p ∧ event.node = some n ∧
        root.resolve p = some n ∧ st' = ⟨false, some p, false⟩ ∧
        Interpreter.applied event = effects [(p, n)] ∧
        ∀ s, Interpreter.visit event s = perform p n s := by
  have happlied : ∀ (a : Action) (p : Path) (n : Instruction), a = .enter ∨ a = .skip →
      Interpreter.applied ⟨a, some n, some p⟩ = effects [(p, n)] := by
    rintro a p n (rfl | rfl) <;> cases n <;> rfl
  cases h with
  | start => exact .inr (.inl ⟨rfl, rfl, rfl, fun _ => rfl⟩)
  | enter hn hcs =>
    exact .inr (.inr ⟨_, _, rfl, rfl, rfl, Instruction.resolve_child hn hcs rfl, rfl,
      happlied _ _ _ (.inl rfl), visit_arrival (.inl rfl) _ _⟩)
  | skip hm hcs _ _ hc =>
    exact .inr (.inr ⟨_, _, rfl, rfl, rfl, Instruction.resolve_child hm hcs hc, rfl,
      happlied _ _ _ (.inr rfl), visit_arrival (.inr rfl) _ _⟩)
  | exit => exact .inr (.inl ⟨rfl, rfl, rfl, fun _ => rfl⟩)
  | finish => exact .inl ⟨rfl, rfl⟩

/-- **A run in order takes its course to the end of a turn**, and counting as
many events as are ahead comes to that end. -/
theorem exists_advances {fuel : Nat} (hfits : st.Fits root) (hdone : st.done = false)
    (hfuel : (ahead root st).length ≤ fuel) (s : Scope) :
    ∃ log r st' t, st'.Fits root ∧
      Interpreter.Advances (.standing root st s) log r (.standing root st' t) ∧
      Interpreter.advance fuel (.standing root st s) = (r, .standing root st' t) ∧
      Ends (visits (ahead root st)) s log r st' (visits (ahead root st')) t := by
  induction fuel generalizing st s with
  | zero =>
    have hnil := List.length_eq_zero_iff.1 (Nat.le_zero.1 hfuel)
    rw [done_of_ahead_eq_nil hfits hnil] at hdone
    cases hdone
  | succ fuel ih =>
    obtain ⟨event, st₁, hmoves, hnext⟩ := Stepper.exists_moves hfits hdone
    rw [ahead_eq_of_moves hmoves] at hfuel ⊢
    have hfuel₁ : (ahead root st₁).length ≤ fuel := Nat.le_of_succ_le_succ hfuel
    have hnext' : (Interpreter.standing root st s).stepper.next =
        .ok (event, Stepper.standing root st₁) := hnext
    have hscope : (Interpreter.standing root st s).scope = s := rfl
    rw [Interpreter.advance, hnext']
    dsimp only
    rw [hscope]
    rcases hmoves.course with ⟨hnone, rfl⟩ | ⟨hnone, hgoes, happlied, hvisit⟩ |
      ⟨p, n, hsome, -, -, -, rfl, happlied, hvisit⟩
    · refine ⟨_, _, _, s, hmoves.fits, .ended (.refl _) hnext' rfl, rfl, ?_⟩
      rw [visits_cons_none hnone, ahead_of_done rfl]
      exact .ended (.nil s)
    · obtain ⟨log, r, st', t, hfits', hadvances, hadvance, hends⟩ :=
        ih hmoves.fits hgoes hfuel₁ s
      have hcourse := hadvances.step hnext' hgoes (hvisit s)
      rw [happlied] at hcourse
      refine ⟨log, r, st', t, hfits', hcourse, ?_, by rwa [visits_cons_none hnone]⟩
      rw [Stepper.done_standing, hgoes, hvisit]
      exact hadvance
    · rw [visits_cons_some hsome, Stepper.done_standing]
      rcases hperform : perform p n s with ⟨e | stop, t⟩
      · obtain ⟨expr, err, rfl, rfl, heval⟩ := exists_eval_of_perform hperform
        have hvisit' := (hvisit s).trans hperform
        have hcourse := Interpreter.Advances.failed (.refl _) hnext' rfl hvisit'
        rw [happlied] at hcourse
        refine ⟨_, _, _, t, hmoves.fits, hcourse, ?_, .failed rfl (.nil s) heval⟩
        rw [hvisit, hperform]
        rfl
      · cases stop with
        | true =>
          obtain ⟨rfl, rfl⟩ := eq_pause_of_perform hperform
          refine ⟨_, _, _, t, hmoves.fits,
            .paused (.refl _) hnext' rfl ((hvisit t).trans hperform), ?_, .paused rfl (.nil t)⟩
          rw [hvisit, hperform]
          rfl
        | false =>
          obtain ⟨log, r, st', u, hfits', hadvances, hadvance, hends⟩ :=
            ih hmoves.fits rfl hfuel₁ t
          have hcourse := hadvances.step hnext' rfl ((hvisit s).trans hperform)
          rw [happlied] at hcourse
          refine ⟨_, r, st', u, hfits', hcourse, ?_, hends.cons hperform⟩
          rw [hvisit, hperform]
          exact hadvance

/-- There is less to come upon than the events that are allowed. -/
theorem length_visits_ahead_le (hfits : st.Fits root) :
    (visits (ahead root st)).length + 2 ≤ (Stepper.standing root st).bound := by
  have hvisits : (visits (ahead root st)).length ≤ (ahead root st).length :=
    List.length_filterMap_le _ _
  have hahead := length_ahead_le hfits
  rw [Stepper.bound_standing]
  omega

/-- **So a turn of a run that is not over has a course**, from an empty dialogue
on, and its result and what it leaves are those at the end of it. -/
theorem exists_advances_next (hfits : st.Fits root) (hdone : st.done = false) (s : Scope) :
    ∃ log r st' t, st'.Fits root ∧
      Interpreter.Advances (.standing root st s.clearDialog) log r (.standing root st' t) ∧
      (Interpreter.standing root st s).next =
        (r.map fun _ => .yielded t, .standing root st' t) ∧
      Ends (visits (ahead root st)) s.clearDialog log r st' (visits (ahead root st')) t := by
  have hfuel : (ahead root st).length ≤ (Stepper.standing root st).bound := by
    have := length_ahead_le hfits
    rw [Stepper.bound_standing]
    omega
  obtain ⟨log, r, st', t, hfits', hadvances, hadvance, hends⟩ :=
    exists_advances hfits hdone hfuel s.clearDialog
  refine ⟨log, r, st', t, hfits', hadvances, ?_, hends⟩
  have hnot : ¬ (Interpreter.standing root st s).isDone = true := by
    rw [Interpreter.isDone, Interpreter.standing, Stepper.done_standing, hdone]
    exact Bool.false_ne_true
  rw [Interpreter.standing] at hadvance
  rw [Interpreter.next, if_neg hnot, Interpreter.standing]
  dsimp only
  rw [hadvance]
  cases r with
  | ok u => rfl
  | error err => rfl

end DialogueScript
