import DialogueScript.Proofs.Script.Variables
import DialogueScript.Proofs.Session.Course
import DialogueScript.Proofs.Session.Preorder
import DialogueScript.Proofs.Session.Resume
/-!
# Undefined variables

Nothing that a run does takes a variable away: not an instruction, not a
turn that fails, not a checkpoint that is resumed (`keeps_next`,
`Sustained.keeps`). So a turn that finds a variable undefined has found
it so from its beginning, and the instruction it blames reads that
variable (`exists_unbound`). A run that starts with all the variables its
script reads, and whose host takes none away, has no such failure.
-/

namespace DialogueScript

open Traversal

/-- The interpreters that a run over a script comes through from a scope on, if
its host takes no variable away. What it resumes may be any checkpoint with the
variables of an interpreter it had, such as the checkpoint of that one. -/
inductive Sustained (script : Instruction) (scope : Scope) : Interpreter → Prop
  | begun : Sustained script scope (.withScope script scope)
  | next {i : Interpreter} : Sustained script scope i → Sustained script scope i.next.2
  | runToEnd {i : Interpreter} : Sustained script scope i → Sustained script scope i.runToEnd.2
  | edit {i : Interpreter} (change : Scope → Scope) : Sustained script scope i →
      i.scope.Keeps (change i.scope) → Sustained script scope (i.serve (.edit change)).2
  | resume {i j : Interpreter} {c : Checkpoint} : Sustained script scope i →
      i.scope.Keeps c.scope → Interpreter.resume script c = .ok j → Sustained script scope j

variable {script root : Instruction} {st : State} {scope : Scope} {i j : Interpreter}
variable {log : Work} {p : Path} {x : String}

/-! ## No variable is taken away -/

/-- An instruction takes none away, also where it fails. -/
theorem Instruction.keeps_apply (n : Instruction) (s : Scope) : s.Keeps (n.apply s).2 := by
  cases n with
  | expression e =>
    have heval := e.keeps_eval s
    rw [apply]
    rcases h : e.eval s with ⟨_ | _, t⟩ <;> rw [h] at heval <;> exact heval
  | _ => exact .refl s

namespace Interpreter

theorem keeps_visit (event : Event) (s : Scope) : s.Keeps (visit event s).2 := by
  unfold visit
  split
  · exact .refl s
  · exact .refl s
  · exact .refl s
  · rename_i n _ _ _
    split
    · exact .refl s
    · split
      · have happly := n.keeps_apply s
        rcases h : n.apply s with ⟨_ | _, t⟩ <;> rw [h] at happly <;> exact happly
      · exact .refl s

theorem Passes.keeps (h : Passes i log j) : i.scope.Keeps j.scope := by
  induction h with
  | refl i => exact .refl i.scope
  | @step i j event stepper scope log _ _ hvisit _ ih =>
    have hkeeps := keeps_visit event i.scope
    rw [hvisit] at hkeeps
    exact hkeeps.trans ih

theorem keeps_advance (fuel : Nat) (i : Interpreter) : i.scope.Keeps (advance fuel i).2.scope := by
  induction fuel generalizing i with
  | zero => exact .refl i.scope
  | succ fuel ih =>
    rw [advance]
    split
    · exact .refl i.scope
    · rename_i event stepper _
      split
      · exact .refl i.scope
      · have hkeeps := keeps_visit event i.scope
        rcases h : visit event i.scope with ⟨_ | _ | _, s⟩ <;> rw [h] at hkeeps
        · exact hkeeps
        · exact hkeeps.trans (ih ⟨stepper, s⟩)
        · exact hkeeps

/-- **A turn takes no variable away**, also where it fails. -/
theorem keeps_next (i : Interpreter) : i.scope.Keeps i.next.2.scope := by
  have hadvance := keeps_advance i.stepper.bound ⟨i.stepper, i.scope.clearDialog⟩
  rw [next]
  split
  · exact .refl i.scope
  · rcases h : advance i.stepper.bound ⟨i.stepper, i.scope.clearDialog⟩ with ⟨_ | _, j⟩ <;>
      rw [h] at hadvance <;> exact hadvance

theorem keeps_runTurns (k : Nat) (i : Interpreter) : i.scope.Keeps (runTurns k i).2.scope := by
  induction k generalizing i with
  | zero => exact .refl i.scope
  | succ k ih =>
    have hnext := keeps_next i
    rw [runTurns]
    rcases h : i.next with ⟨_ | _ | _, j⟩ <;> rw [h] at hnext
    · exact hnext
    · have hrest := ih j
      rcases h' : runTurns k j with ⟨_ | _, j'⟩ <;> rw [h'] at hrest <;> simp only [h'] <;>
        exact hnext.trans hrest
    · exact hnext

end Interpreter

/-- A run whose host takes no variable away is one that a host can come to
have. -/
theorem Sustained.reached (h : Sustained script scope i) : Reached script i := by
  induction h with
  | begun => exact .withScope scope
  | next _ ih => exact .serve .next ih
  | runToEnd _ ih => exact .serve .runToEnd ih
  | edit change _ _ ih => exact .serve (.edit change) ih
  | resume _ _ hresume _ => exact .resume hresume

/-- **And it has the variables that it began with.** -/
theorem Sustained.keeps (h : Sustained script scope i) : scope.Keeps i.scope := by
  induction h with
  | begun => exact .refl scope
  | next _ ih => exact ih.trans (Interpreter.keeps_next _)
  | runToEnd _ ih => exact ih.trans (Interpreter.keeps_runTurns _ _)
  | edit change _ hchange ih => exact ih.trans hchange
  | resume _ hkeeps hresume ih =>
    obtain ⟨-, rfl⟩ := exists_standing_of_resume hresume
    exact ih.trans hkeeps

/-! ## The instruction that fails -/

/-- A run in order stays in order within a turn. -/
theorem Interpreter.Passes.exists_standing (h : Passes i log j) {s : Scope}
    (hi : i = .standing root st s) (hfits : st.Fits root) (hdone : st.done = false) :
    ∃ st' t, st'.Fits root ∧ st'.done = false ∧ j = .standing root st' t := by
  induction h generalizing st s with
  | refl i => exact ⟨st, s, hfits, hdone, hi⟩
  | @step i j event stepper scope log hnext hgoes _ _ ih =>
    subst hi
    obtain ⟨event', st₁, hmoves, hstanding⟩ := Stepper.exists_moves hfits hdone
    obtain ⟨rfl, rfl⟩ := Prod.mk.inj (Except.ok.inj (hstanding.symm.trans hnext))
    exact ih rfl hmoves.fits hgoes

/-- A turn that fails comes to an expression of the script, and evaluating it
fails. -/
theorem exists_failing (h : Reached script i) {err : EvalError}
    (hfail : i.next.1 = .error (.eval p err)) :
    ∃ e j log event, script.resolve p = some (.expression e) ∧
      Interpreter.Passes ⟨i.stepper, i.scope.clearDialog⟩ log j ∧
      j.stepper.next = .ok (event, i.next.2.stepper) ∧
      event.path = some p ∧ event.node = some (.expression e) ∧
      e.eval j.scope = (.error err, i.next.2.scope) := by
  obtain ⟨st, s, hfits, rfl⟩ := h.exists_standing
  cases hdone : st.done with
  | true =>
    have hover : (Interpreter.standing script st s).isDone = true := hdone
    rw [Interpreter.next, if_pos hover] at hfail
    cases hfail
  | false =>
    obtain ⟨log, r, st', t, hfits', hadvances, hnext, -⟩ := exists_advances_next hfits hdone s
    rw [hnext] at hfail ⊢
    cases r with
    | ok u => cases hfail
    | error err' =>
      cases hfail
      cases hadvances with
      | failed hpasses hlast hgoes hvisit =>
        obtain ⟨st₁, s₁, hfits₁, hdone₁, rfl⟩ := hpasses.exists_standing rfl hfits hdone
        obtain ⟨event, st₂, hmoves, hstanding⟩ := Stepper.exists_moves hfits₁ hdone₁
        obtain ⟨rfl, hsame⟩ := Prod.mk.inj (Except.ok.inj (hstanding.symm.trans hlast))
        -- of the events of a course only one that comes upon an instruction can fail
        rcases hmoves.course with ⟨-, rfl⟩ | ⟨-, -, -, hpassed⟩ |
          ⟨q, n, -, hpath, hnode, hresolve, -, -, hperform⟩
        · rw [← hsame] at hgoes
          cases hgoes
        · rw [hpassed] at hvisit
          cases hvisit
        · rw [hperform] at hvisit
          obtain ⟨e, err', rfl, herror, heval⟩ := exists_eval_of_perform hvisit
          cases herror
          exact ⟨e, _, _, event, hresolve, hpasses, hlast, hpath, hnode, heval⟩

/-- **A variable that a turn finds undefined was undefined when the turn began**,
and the instruction at fault reads it. -/
theorem exists_unbound (h : Reached script i)
    (hfail : i.next.1 = .error (.eval p (.undefinedVariable x))) :
    ∃ e j log event, script.resolve p = some (.expression e) ∧ x ∈ e.idents ∧
      Interpreter.Passes ⟨i.stepper, i.scope.clearDialog⟩ log j ∧
      j.stepper.next = .ok (event, i.next.2.stepper) ∧
      event.path = some p ∧ event.node = some (.expression e) ∧
      e.eval j.scope = (.error (.undefinedVariable x), i.next.2.scope) ∧
      i.scope.get? x = none ∧ j.scope.get? x = none ∧ i.next.2.scope.get? x = none := by
  obtain ⟨e, j, log, event, hresolve, hpasses, hnext, hpath, hnode, heval⟩ := exists_failing h hfail
  have hkeeps := e.keeps_eval j.scope
  obtain ⟨hident, hafter⟩ := e.unbound_of_eval j.scope (congrArg Prod.fst heval)
  rw [heval] at hkeeps hafter
  have hstarted : j.scope.get? x = none := hkeeps.unbound hafter
  have hbefore : i.scope.clearDialog.get? x = none := hpasses.keeps.unbound hstarted
  exact ⟨e, j, log, event, hresolve, hident, hpasses, hnext, hpath, hnode, heval, hbefore,
    hstarted, hafter⟩

/-! ## Runs that start with all variables -/

/-- A scope with every variable that a script reads. -/
def Instruction.Covered (script : Instruction) (scope : Scope) : Prop :=
  ∀ p e, script.resolve p = some (.expression e) → ∀ x ∈ e.idents, (scope.get? x).isSome = true

theorem Sustained.next_ne_undefined (h : Sustained script scope i) (hcovered : script.Covered scope)
    (p : Path) (x : String) : i.next.1 ≠ .error (.eval p (.undefinedVariable x)) := by
  intro hfail
  obtain ⟨e, -, -, -, hresolve, hident, -, -, -, -, -, hbefore, -, -⟩ :=
    exists_unbound h.reached hfail
  have hbound := h.keeps x (hcovered p e hresolve x hident)
  rw [hbefore] at hbound
  cases hbound

/-- Turns one after the other fail as the last of them does. -/
theorem Sustained.runTurns_ne_undefined (h : Sustained script scope i)
    (hcovered : script.Covered scope) (k : Nat) (p : Path) (x : String) :
    (Interpreter.runTurns k i).1 ≠ .error (.eval p (.undefinedVariable x)) := by
  induction k generalizing i with
  | zero => rintro ⟨⟩
  | succ k ih =>
    have hnext := h.next_ne_undefined hcovered p x
    have hrest := ih h.next
    rw [Interpreter.runTurns]
    rcases hresult : i.next with ⟨err | said | _, j⟩ <;> rw [hresult] at hnext hrest
    · rintro ⟨⟩
      exact hnext rfl
    · rcases hturns : Interpreter.runTurns k j with ⟨err | dialogs, j'⟩ <;> rw [hturns] at hrest <;>
        simp only [hturns]
      · exact hrest
      · rintro ⟨⟩
    · rintro ⟨⟩

/-- **Undefined variables were never defined.** However a host came to an
interpreter, if a turn of it fails at a path because a variable is undefined,
then the instruction there is an expression that reads the variable, and the
variable is undefined before the turn, when the turn comes to evaluate that
expression, and afterwards. So no run that starts with all the variables its
script reads fails that way, unless its host takes variables away. -/
theorem Interpreter.undefined_was_unbound (script : Instruction) :
    (∀ i p x, Reached script i → i.next.1 = .error (.eval p (.undefinedVariable x)) →
      ∃ e started log event, script.resolve p = some (.expression e) ∧ x ∈ e.idents ∧
        Passes ⟨i.stepper, i.scope.clearDialog⟩ log started ∧
        started.stepper.next = .ok (event, i.next.2.stepper) ∧
        event.path = some p ∧ event.node = some (.expression e) ∧
        e.eval started.scope = (.error (.undefinedVariable x), i.next.2.scope) ∧
        i.scope.get? x = none ∧ started.scope.get? x = none ∧ i.next.2.scope.get? x = none) ∧
    ∀ scope i, script.Covered scope → Sustained script scope i → ∀ p x,
      i.next.1 ≠ .error (.eval p (.undefinedVariable x)) ∧
        i.runToEnd.1 ≠ .error (.eval p (.undefinedVariable x)) :=
  ⟨fun _ _ _ h hfail => exists_unbound h hfail, fun _ _ hcovered h p x =>
    ⟨h.next_ne_undefined hcovered p x, h.runTurns_ne_undefined hcovered _ p x⟩⟩

/-- An expression that gives one variable a value and then reads another, behind
a pause. On an empty scope the second turn fails and keeps the first value. With
the other variable, and resumed behind the pause, it does not fail. -/
theorem Interpreter.undefined_was_unbound_behind_pause :
    let e : Expr := .binary .add (.assign "y" (.number 1)) (.ident "x")
    let script : Instruction := .composite .script [.pause, .composite .eachBlock [.expression e]]
    let scope : Scope := .withVars (Variables.empty.set "x" (.number 2))
    let i := (fresh script).next.2
    let j := (withScope script scope).next.2
    i.next.1 = .error (.eval [1, 0] (.undefinedVariable "x")) ∧
      (i.next.2.scope.get? "y").isSome = true ∧
      (∃ e started log event, script.resolve [1, 0] = some (.expression e) ∧ "x" ∈ e.idents ∧
        Passes ⟨i.stepper, i.scope.clearDialog⟩ log started ∧
        started.stepper.next = .ok (event, i.next.2.stepper) ∧
        event.path = some [1, 0] ∧ event.node = some (.expression e) ∧
        e.eval started.scope = (.error (.undefinedVariable "x"), i.next.2.scope) ∧
        i.scope.get? "x" = none ∧ started.scope.get? "x" = none ∧
        i.next.2.scope.get? "x" = none) ∧
      script.Covered scope ∧
      ∃ k, resume script j.checkpoint = .ok k ∧ ∀ p x,
        k.next.1 ≠ .error (.eval p (.undefinedVariable x)) ∧
          k.runToEnd.1 ≠ .error (.eval p (.undefinedVariable x)) := by
  intro e script scope i j
  have hreached : Reached script i := .serve .next .fresh
  have hfail : i.next.1 = .error (.eval [1, 0] (.undefinedVariable "x")) := rfl
  have hcovered : script.Covered scope := by
    intro p e' hresolve y hy
    have hmem := mem_inventory_iff.2 hresolve
    simp only [script, inventory, below, belowFrom, List.mem_cons, List.mem_append, Prod.mk.injEq,
      Instruction.expression.injEq, reduceCtorEq, and_false, false_or, or_false, List.not_mem_nil]
      at hmem
    obtain ⟨-, rfl⟩ := hmem
    obtain rfl : y = "x" := List.mem_singleton.1 hy
    rfl
  have hsustained : Sustained script scope j := .next .begun
  have hresume : resume script j.checkpoint = .ok j := rfl
  obtain ⟨hunbound, hsafe⟩ := undefined_was_unbound script
  exact ⟨hfail, rfl, hunbound i _ _ hreached hfail, hcovered, j, hresume,
    hsafe scope j hcovered (.resume hsustained (.refl _) hresume)⟩

end DialogueScript
