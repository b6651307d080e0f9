import DialogueScript.Session.Interpreter
import DialogueScript.Proofs.Traversal.Moves
/-!
# What a run has to do

The instructions below the root of a script, in pre-order and with their
paths, are the `Work` of a run. An event of the traversal comes upon the
next of them or upon nothing new (`visits_traversal`), and coming upon an
instruction performs it (`visit_arrival`).
-/

namespace DialogueScript

open Traversal

/-- Instructions to come upon, each with its path. -/
abbrev Work := List (Path × Instruction)

mutual

/-- The instructions below one at a path, in pre-order. -/
def below : Instruction → Path → Work
  | .composite _ cs, p => belowFrom cs p 0
  | _, _ => []

/-- Children of the instruction at a path, the first of which has the given
index, each followed by what is below it. -/
def belowFrom : List Instruction → Path → Nat → Work
  | [], _, _ => []
  | c :: cs, p, i => (p ++ [i], c) :: (below c (p ++ [i]) ++ belowFrom cs p (i + 1))

end

/-- What coming upon an instruction does: whether the turn is over, and the
scope. A pause ends the turn, and a failure names the path. -/
def perform (p : Path) : Instruction → Scope → Except RunError Bool × Scope
  | .pause, s => (.ok true, s)
  | .dialog text, s => (.ok false, s.say text)
  | .expression e, s =>
    match e.eval s with
    | (.ok _, s) => (.ok false, s)
    | (.error err, s) => (.error (.eval p err), s)
  | _, s => (.ok false, s)

variable {root : Instruction} {st : State} {e : Event}

/-! ## What a traversal comes upon -/

namespace Traversal

/-- The instruction an event comes upon for the first time. -/
def Event.visited (e : Event) : Option (Path × Instruction) :=
  match e.action, e.path, e.node with
  | .enter, some p, some n => some (p, n)
  | .skip, some p, some n => some (p, n)
  | _, _, _ => none

/-- The instructions that events come upon. -/
def visits (events : List Event) : Work := events.filterMap Event.visited

theorem visits_append (l r : List Event) : visits (l ++ r) = visits l ++ visits r :=
  List.filterMap_append

theorem visits_cons_none {l : List Event} (h : e.visited = none) : visits (e :: l) = visits l :=
  List.filterMap_cons_none h

theorem visits_cons_some {l : List Event} {w : Path × Instruction} (h : e.visited = some w) :
    visits (e :: l) = w :: visits l :=
  List.filterMap_cons_some h

theorem Event.visited_arrival (i : Nat) (n : Instruction) (p : Path) :
    Event.visited ⟨arrival i, some n, some p⟩ = some (p, n) := by
  cases i with
  | zero => rfl
  | succ i => rfl

mutual

/-- **A walk comes upon what is below, in pre-order.** -/
theorem visits_walk : ∀ (n : Instruction) (p : Path), visits (walk n p) = below n p
  | .composite form (c :: cs), p => by
    rw [walk, visits_append, visits_walkFrom (c :: cs) p 0, visits_cons_none rfl, below]
    exact List.append_nil _
  | .composite _ [], _ | .dialog _, _ | .expression _, _ | .pause, _ | .unknownCommand, _
  | .unknown, _ => rfl

theorem visits_walkFrom : ∀ (cs : List Instruction) (p : Path) (i : Nat),
    visits (walkFrom cs p i) = belowFrom cs p i
  | [], p, i => rfl
  | c :: cs, p, i => by
    rw [walkFrom, visits_cons_some (Event.visited_arrival i c (p ++ [i])), visits_append,
      visits_walk c (p ++ [i]), visits_walkFrom cs p (i + 1), belowFrom]

end

/-- A whole traversal comes upon what is below the root. -/
theorem visits_traversal (root : Instruction) : visits (traversal root) = below root [] := by
  rw [traversal, visits_cons_none rfl, visits_append, visits_walk, visits_cons_none rfl]
  exact List.append_nil _

end Traversal

/-- The run that stands at a state. -/
def Interpreter.standing (root : Instruction) (st : State) (scope : Scope) : Interpreter :=
  ⟨.standing root st, scope⟩

/-- Coming upon an instruction does what the instruction does. -/
theorem visit_arrival {a : Action} (ha : a = .enter ∨ a = .skip) (n : Instruction) (p : Path)
    (scope : Scope) : Interpreter.visit ⟨a, some n, some p⟩ scope = perform p n scope := by
  rcases ha with rfl | rfl
  all_goals
    cases n with
    | expression e =>
      simp only [Interpreter.visit, Instruction.isPause, Instruction.hasEffect,
        Instruction.apply, perform]
      obtain ⟨answer, after⟩ := e.eval scope
      cases answer with
      | ok v => rfl
      | error err => rfl
    | _ => rfl

end DialogueScript
