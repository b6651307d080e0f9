import DialogueScript.Proofs.Session.Resume
/-!
# What a run says does not depend on its variables

No instruction asks a variable where to go on. So two runs of a script
that are called in lockstep stop at the same places and say the same,
whatever their variables are and whatever their hosts do to them between
the turns, until a turn of one of them fails. Each turn starts from an
empty dialogue, so nothing that a host leaves there is said either.

What an event adds to the dialogue and whether it ends the turn can be
told from the event (`exists_told`). From there on one induction, over
the events of a turn, carries two runs along (`advance_agree`).
-/

namespace DialogueScript

open Traversal

/-- What a turn says. One that did not run says nothing at all. -/
def Turn.said : Turn → Option String
  | .yielded scope => some scope.dialog
  | .done => none

/-- What can be told of a turn without a look at the variables: what it says,
and then where the run stands and whether the script is over. -/
structure Glimpse where
  said : Option String
  place : State
  isDone : Bool
deriving DecidableEq

/-- What is told of turns whose host changes the scope before each of them. -/
def Interpreter.glimpses : Interpreter → List (Scope → Scope) → List (Except RunError Glimpse)
  | _, [] => []
  | i, change :: changes =>
    let after := (i.serve (.edit change)).2.next
    (after.1.map fun turn => ⟨turn.said, after.2.stepper.state, after.2.isDone⟩) ::
      glimpses after.2 changes

/-- What an instruction says. -/
def Instruction.text : Instruction → String
  | .dialog text => text
  | _ => ""

/-! ## One event -/

/-- **An instruction adds what it says to the dialogue**, and nothing else,
whatever the variables are and also where it fails. -/
theorem Instruction.dialog_apply (n : Instruction) (s : Scope) :
    (n.apply s).2.dialog = s.dialog ++ n.text := by
  cases n with
  | expression e =>
    have heval := e.dialog_eval s
    have htext : (Instruction.expression e).text = "" := rfl
    rw [apply, htext, String.append_empty]
    rcases h : e.eval s with ⟨_ | _, after⟩ <;> rw [h] at heval <;> exact heval
  | dialog text => rfl
  | _ => simp [apply, text]

namespace Interpreter

variable {s t : Scope} {fuel : Nat} {stepper : Stepper} {i j : Interpreter}

/-- Coming to an instruction, from above or from the side, stops at it or
applies it. -/
theorem visit_of_node {a : Action} (hstart : a ≠ .start) (hexit : a ≠ .exit) (n : Instruction)
    (p : Option Path) (s : Scope) :
    visit ⟨a, some n, p⟩ s =
      if n.isPause then (.ok true, s)
      else if n.hasEffect then
        match n.apply s with
        | (.ok (), s) => (.ok false, s)
        | (.error e, s) => (.error (.eval (p.getD []) e), s)
      else (.ok false, s) := by
  cases a with
  | start => exact absurd rfl hstart
  | exit => exact absurd rfl hexit
  | _ => rfl

/-- **What an event adds to the dialogue does not depend on the scope**, and
neither does whether it ends the turn, unless it fails. -/
theorem exists_told (e : Event) :
    ∃ text ended, ∀ s, (visit e s).2.dialog = s.dialog ++ text ∧
      ∀ b, (visit e s).1 = .ok b → b = ended := by
  obtain ⟨action, node, path⟩ := e
  cases node with
  | none =>
    refine ⟨"", false, fun s => ?_⟩
    cases action <;> simp [visit]
  | some n =>
    by_cases hpassed : action = .start ∨ action = .exit
    · refine ⟨"", false, fun s => ?_⟩
      rcases hpassed with rfl | rfl <;> simp [visit]
    · rw [not_or] at hpassed
      refine ⟨n.text, n.isPause, fun s => ?_⟩
      rw [visit_of_node hpassed.1 hpassed.2]
      have happly := n.dialog_apply s
      cases n with
      | dialog text => simp_all [Instruction.isPause, Instruction.hasEffect, Instruction.apply]
      | expression e =>
        rcases h : (Instruction.expression e).apply s with ⟨_ | _, after⟩ <;> rw [h] at happly <;>
          simp_all [Instruction.isPause, Instruction.hasEffect]
      | _ => simp [Instruction.isPause, Instruction.hasEffect, Instruction.text]

/-! ## One turn, and turns one after the other -/

/-- **Two runs that go on from one place and one dialogue come to one place and
one dialogue**, if neither of them fails. -/
theorem advance_agree (hdialog : s.dialog = t.dialog)
    (hi : advance fuel ⟨stepper, s⟩ = (.ok (), i)) (hj : advance fuel ⟨stepper, t⟩ = (.ok (), j)) :
    i.stepper = j.stepper ∧ i.scope.dialog = j.scope.dialog := by
  induction fuel generalizing stepper s t with
  | zero =>
    cases hi
    cases hj
    exact ⟨rfl, hdialog⟩
  | succ fuel ih =>
    rw [advance] at hi hj
    dsimp only at hi hj
    rcases hnext : stepper.next with e | ⟨event, after⟩ <;> rw [hnext] at hi hj
    · cases hi
    dsimp only at hi hj
    by_cases hdone : after.done = true
    · rw [if_pos hdone] at hi hj
      cases hi
      cases hj
      exact ⟨rfl, hdialog⟩
    rw [if_neg hdone] at hi hj
    obtain ⟨text, ended, htold⟩ := exists_told event
    obtain ⟨hs, hsended⟩ := htold s
    obtain ⟨ht, htended⟩ := htold t
    have hdialog' : (visit event s).2.dialog = (visit event t).2.dialog := by
      rw [hs, ht, hdialog]
    rcases hvisit₁ : visit event s with ⟨e₁ | b₁, s'⟩ <;> rw [hvisit₁] at hi hsended hdialog'
    · cases hi
    rcases hvisit₂ : visit event t with ⟨e₂ | b₂, t'⟩ <;> rw [hvisit₂] at hj htended hdialog'
    · cases hj
    obtain rfl : b₁ = ended := hsended b₁ rfl
    obtain rfl : b₂ = b₁ := htended b₂ rfl
    cases b₂ with
    | true =>
      cases hi
      cases hj
      exact ⟨rfl, hdialog'⟩
    | false => exact ih hdialog' hi hj

/-- A turn that does not fail is told by the place it starts from. -/
theorem next_agree {turn turn' : Turn} {i' j' : Interpreter} (hstepper : i.stepper = j.stepper)
    (hi : i.next = (.ok turn, i')) (hj : j.next = (.ok turn', j')) :
    turn.said = turn'.said ∧ i'.stepper = j'.stepper := by
  obtain ⟨stepper, s⟩ := i
  obtain ⟨_, t⟩ := j
  cases hstepper
  unfold next isDone at hi hj
  dsimp only at hi hj
  by_cases hdone : stepper.done = true
  · rw [if_pos hdone] at hi hj
    cases hi
    cases hj
    exact ⟨rfl, rfl⟩
  rw [if_neg hdone] at hi hj
  rcases hadvance₁ : advance stepper.bound ⟨stepper, s.clearDialog⟩ with ⟨_ | _, a⟩ <;>
    rw [hadvance₁] at hi
  · cases hi
  rcases hadvance₂ : advance stepper.bound ⟨stepper, t.clearDialog⟩ with ⟨_ | _, b⟩ <;>
    rw [hadvance₂] at hj
  · cases hj
  -- both dialogues are empty when the turn begins, whatever a host left there
  have hempty : s.clearDialog.dialog = t.clearDialog.dialog := rfl
  obtain ⟨hplace, hsaid⟩ := advance_agree hempty hadvance₁ hadvance₂
  cases hi
  cases hj
  exact ⟨congrArg some hsaid, hplace⟩

/-- Turns that do not fail are told by the place the first of them starts from. -/
theorem glimpses_agree (hstepper : i.stepper = j.stepper)
    (edits : List ((Scope → Scope) × (Scope → Scope)))
    (hi : ∀ r ∈ i.glimpses (edits.map Prod.fst), r.isOk = true)
    (hj : ∀ r ∈ j.glimpses (edits.map Prod.snd), r.isOk = true) :
    i.glimpses (edits.map Prod.fst) = j.glimpses (edits.map Prod.snd) := by
  induction edits generalizing i j with
  | nil => rfl
  | cons edit edits ih =>
    simp only [List.map_cons, glimpses, List.forall_mem_cons] at hi hj ⊢
    have hedited : (i.serve (.edit edit.1)).2.stepper = (j.serve (.edit edit.2)).2.stepper :=
      hstepper
    rcases hnext₁ : (i.serve (.edit edit.1)).2.next with ⟨_ | turn, i'⟩ <;> rw [hnext₁] at hi
    · cases hi.1
    rcases hnext₂ : (j.serve (.edit edit.2)).2.next with ⟨_ | turn', j'⟩ <;> rw [hnext₂] at hj
    · cases hj.1
    obtain ⟨hsaid, hplace⟩ := next_agree hedited hnext₁ hnext₂
    rw [ih hplace hi.2 hj.2]
    simp only [isDone, hsaid, hplace, Except.map]

/-- **Variables do not show in what a run says or in where it stops.** Two runs
of a script start from any two scopes, and their hosts change these as they
like before every turn. As long as no turn of either run has failed, each turn
says the same on both, and leaves both at the same place, over or not. -/
theorem glimpses_lockstep (script : Instruction) (s t : Scope)
    (edits : List ((Scope → Scope) × (Scope → Scope)))
    (hs : ∀ r ∈ (withScope script s).glimpses (edits.map Prod.fst), r.isOk = true)
    (ht : ∀ r ∈ (withScope script t).glimpses (edits.map Prod.snd), r.isOk = true) :
    (withScope script s).glimpses (edits.map Prod.fst) =
      (withScope script t).glimpses (edits.map Prod.snd) := by
  have hfresh : (withScope script s).stepper = (withScope script t).stepper := rfl
  exact glimpses_agree hfresh edits hs ht

/-- Two turns and one behind the end, on a scope that holds a number and on an
empty one. One host leaves a word in the dialogue, the other takes all variables
away. -/
theorem glimpses_lockstep_edited :
    let script : Instruction := .composite .script
      [.dialog "a", .expression (.assign "x" (.boolean true)), .composite .ifBlock [.pause],
        .expression (.binary .or (.boolean true) (.ident "y")), .dialog "b"]
    let s : Scope := Scope.withVars (Variables.empty.set "x" (.number 1))
    let edits : List ((Scope → Scope) × (Scope → Scope)) :=
      [(id, fun scope => scope.say "left"), (fun _ => {}, id), (id, id)]
    let told : List (Except RunError Glimpse) :=
      [.ok ⟨some "a", ⟨false, some [2, 0], false⟩, false⟩,
        .ok ⟨some "b", ⟨true, none, false⟩, true⟩, .ok ⟨none, ⟨true, none, false⟩, true⟩]
    (∀ r ∈ told, r.isOk = true) ∧ (withScope script s).glimpses (edits.map Prod.fst) = told ∧
      (withScope script {}).glimpses (edits.map Prod.snd) = told := by
  intro script s edits told
  have htold : ∀ r ∈ told, r.isOk = true := by decide
  have hs : (withScope script s).glimpses (edits.map Prod.fst) = told := rfl
  have ht : ∀ r ∈ (withScope script {}).glimpses (edits.map Prod.snd), r.isOk = true := by decide
  have hlockstep := glimpses_lockstep script s {} edits (hs ▸ htold) ht
  exact ⟨htold, hs, hlockstep ▸ hs⟩

end Interpreter

end DialogueScript
