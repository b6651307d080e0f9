import DialogueScript.Proofs.Session.Agenda
import DialogueScript.Proofs.Traversal.Events
/-!
# Going on from a checkpoint

A checkpoint holds the state of the traversal and the scope, and leaves
out the instruction the stepper stands at. That loses nothing: whatever
a host does with an interpreter, its stepper stays in order
(`Reached.exists_standing`), and a stepper in order is known by its
state. So what is resumed is what was captured, and a host that renews
its interpreter from a checkpoint, at any points of a run, sees no
difference (`exchangesRenewing_standing`).
-/

namespace DialogueScript

open Traversal

/-- What a host asks of an interpreter. It may change the scope as it likes. -/
inductive Request
  | next
  | runToEnd
  | edit (change : Scope → Scope)
  | checkpoint

/-- What a host is answered. -/
inductive Reply
  | turn (result : Except RunError Turn)
  | turns (result : Except RunError (List String))
  | edited
  | checkpoint (captured : Checkpoint)

/-- What a host sees of a request: the answer, and then the scope and whether
the script is over. -/
structure Exchange where
  reply : Reply
  scope : Scope
  isDone : Bool

namespace Interpreter

/-- Does what a host asks. -/
def serve (i : Interpreter) : Request → Reply × Interpreter
  | .next => (.turn i.next.1, i.next.2)
  | .runToEnd => (.turns i.runToEnd.1, i.runToEnd.2)
  | .edit change => (.edited, ⟨i.stepper, change i.scope⟩)
  | .checkpoint => (.checkpoint i.checkpoint, i)

/-- What a host sees of one request. -/
def exchange (i : Interpreter) (r : Request) : Exchange :=
  ⟨(i.serve r).1, (i.serve r).2.scope, (i.serve r).2.isDone⟩

/-- What a host sees of requests one after the other. -/
def exchanges : Interpreter → List Request → List Exchange
  | _, [] => []
  | i, r :: rs => i.exchange r :: exchanges (i.serve r).2 rs

/-- The interpreter to go on with: at a mark, one resumed from the checkpoint
of the one there was. -/
def renewed (script : Instruction) (marked : Bool) (i : Interpreter) :
    Except RunError Interpreter :=
  if marked then resume script i.checkpoint else .ok i

/-- What a host sees that renews the interpreter before each marked request. -/
def exchangesRenewing (script : Instruction) :
    Interpreter → List (Bool × Request) → Except RunError (List Exchange)
  | _, [] => .ok []
  | i, (marked, r) :: rs => do
    let i ← renewed script marked i
    let later ← exchangesRenewing script (i.serve r).2 rs
    return i.exchange r :: later

end Interpreter

/-- The interpreters a host can come to have over a script. -/
inductive Reached (script : Instruction) : Interpreter → Prop
  | fresh : Reached script (.fresh script)
  | withScope (scope : Scope) : Reached script (.withScope script scope)
  | resume {c : Checkpoint} {i : Interpreter} :
      Interpreter.resume script c = .ok i → Reached script i
  | serve {i : Interpreter} (r : Request) : Reached script i → Reached script (i.serve r).2

variable {script : Instruction} {st : State} {i : Interpreter}

/-! ## Interpreters in order -/

/-- Turns one after the other keep the stepper in order. -/
theorem runTurns_standing (hfits : st.Fits script) (scope : Scope) (k : Nat) :
    ∃ st' scope', st'.Fits script ∧
      (Interpreter.runTurns k (.standing script st scope)).2 = .standing script st' scope' := by
  induction k generalizing st scope with
  | zero => exact ⟨st, scope, hfits, rfl⟩
  | succ k ih =>
    obtain ⟨r, st₁, scope₁, hfits₁, hnext, -⟩ := next_standing hfits scope
    rw [Interpreter.runTurns, hnext]
    cases r with
    | error e => exact ⟨st₁, scope₁, hfits₁, rfl⟩
    | ok turn =>
      cases turn with
      | done => exact ⟨st₁, scope₁, hfits₁, rfl⟩
      | yielded said =>
        obtain ⟨st', scope', hfits', hturns⟩ := ih hfits₁ scope₁
        refine ⟨st', scope', hfits', ?_⟩
        dsimp only
        rcases hrun : Interpreter.runTurns k (.standing script st₁ scope₁) with ⟨answer, after⟩
        rw [hrun] at hturns
        cases answer with
        | ok dialogs => exact hturns
        | error e => exact hturns

/-- Whatever is asked, the stepper stays in order. -/
theorem serve_standing (hfits : st.Fits script) (scope : Scope) (r : Request) :
    ∃ st' scope', st'.Fits script ∧
      ((Interpreter.standing script st scope).serve r).2 = .standing script st' scope' := by
  cases r with
  | next =>
    obtain ⟨_, st', scope', hfits', hnext, -⟩ := next_standing hfits scope
    exact ⟨st', scope', hfits', congrArg Prod.snd hnext⟩
  | runToEnd => exact runTurns_standing hfits scope _
  | edit change => exact ⟨st, change scope, hfits, rfl⟩
  | checkpoint => exact ⟨st, scope, hfits, rfl⟩

theorem checkpoint_standing (scope : Scope) :
    (Interpreter.standing script st scope).checkpoint = ⟨st, scope⟩ := rfl

/-- **A checkpoint of an interpreter in order gives back the interpreter.** -/
theorem resume_standing (hfits : st.Fits script) (scope : Scope) :
    Interpreter.resume script (Interpreter.standing script st scope).checkpoint =
      .ok (.standing script st scope) := by
  rw [checkpoint_standing, Interpreter.resume, Stepper.ofState_of_fits hfits]
  rfl

/-- What can be resumed is in order. -/
theorem exists_standing_of_resume {c : Checkpoint}
    (h : Interpreter.resume script c = .ok i) :
    c.stepper.Fits script ∧ i = .standing script c.stepper c.scope := by
  rw [Interpreter.resume] at h
  by_cases hfits : c.stepper.Fits script
  · rw [Stepper.ofState_of_fits hfits] at h
    cases h
    exact ⟨hfits, rfl⟩
  · obtain ⟨e, he⟩ := Stepper.ofState_of_not_fits hfits
    rw [he] at h
    cases h

/-- What is resumed has the checkpoint it was resumed from. -/
theorem checkpoint_of_resume {c : Checkpoint} (h : Interpreter.resume script c = .ok i) :
    i.checkpoint = c := by
  obtain ⟨-, rfl⟩ := exists_standing_of_resume h
  exact checkpoint_standing c.scope

/-- **Every interpreter a host can come to have is in order.** -/
theorem Reached.exists_standing (h : Reached script i) :
    ∃ st scope, st.Fits script ∧ i = .standing script st scope := by
  induction h with
  | fresh => exact ⟨{}, {}, State.fits_of_none _ _, rfl⟩
  | withScope scope => exact ⟨{}, scope, State.fits_of_none _ _, rfl⟩
  | @resume c i h =>
    obtain ⟨hfits, hi⟩ := exists_standing_of_resume h
    exact ⟨c.stepper, c.scope, hfits, hi⟩
  | serve r _ ih =>
    obtain ⟨st, scope, hfits, rfl⟩ := ih
    exact serve_standing hfits scope r

/-! ## Renewing an interpreter -/

/-- **Resuming at any points of a run changes nothing that is seen.** -/
theorem exchangesRenewing_standing (hfits : st.Fits script) (scope : Scope)
    (plan : List (Bool × Request)) :
    (Interpreter.standing script st scope).exchangesRenewing script plan =
      .ok ((Interpreter.standing script st scope).exchanges (plan.map Prod.snd)) := by
  induction plan generalizing st scope with
  | nil => rfl
  | cons step plan ih =>
    obtain ⟨marked, r⟩ := step
    obtain ⟨st', scope', hfits', hserve⟩ := serve_standing hfits scope r
    have hrenewed : Interpreter.renewed script marked (.standing script st scope) =
        .ok (.standing script st scope) := by
      rw [Interpreter.renewed, resume_standing hfits, ite_self]
    rw [Interpreter.exchangesRenewing, hrenewed, List.map_cons, Interpreter.exchanges]
    simp only [bind, Except.bind, hserve, ih hfits']
    rfl

/-- **A checkpoint is all that is needed to go on.** However a host came to an
interpreter, its checkpoint can be resumed over the same script. What is
resumed answers any further requests as the interpreter itself does, and a
host that renews it from its checkpoint before any of them sees the same. -/
theorem Interpreter.resume_checkpoint (h : Reached script i) :
    (∃ j, resume script i.checkpoint = .ok j ∧
      ∀ requests, j.exchanges requests = i.exchanges requests) ∧
      ∀ plan, i.exchangesRenewing script plan = .ok (i.exchanges (plan.map Prod.snd)) := by
  obtain ⟨st, scope, hfits, rfl⟩ := h.exists_standing
  refine ⟨⟨_, resume_standing hfits scope, fun _ => rfl⟩, fun plan => ?_⟩
  exact exchangesRenewing_standing hfits scope plan

/-- Behind a pause and a failure the run has one turn left, and a checkpoint
taken there keeps it. -/
theorem resume_checkpoint_after_failure :
    let script : Instruction := .composite .script [.pause, .expression (.ident "x")]
    let i := ((Interpreter.fresh script).serve .next).2
    let j := (i.serve .next).2
    (i.serve .next).1 = .turn (.error (.eval [1] (.undefinedVariable "x"))) ∧
      j.isDone = false ∧
      (∃ k, Interpreter.resume script j.checkpoint = .ok k ∧
        ∀ requests, k.exchanges requests = j.exchanges requests) ∧
      ∀ plan, j.exchangesRenewing script plan = .ok (j.exchanges (plan.map Prod.snd)) :=
  ⟨rfl, rfl, Interpreter.resume_checkpoint (.serve .next (.serve .next .fresh))⟩

end DialogueScript
