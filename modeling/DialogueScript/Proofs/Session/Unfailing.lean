import DialogueScript.Proofs.Session.Resume
import DialogueScript.Proofs.Traversal.Operations
/-!
# Stepping never leads out of the tree

Whatever a host does with a stepper, its path, its cached instruction and
its flags agree with the tree, and no step comes to a path that leads
nowhere. An interpreter moves its stepper by `next` alone, which has no
fault at all, so the only faults of a turn are those of the expressions
in the script.
-/

namespace DialogueScript

open Traversal

variable {script : Instruction} {i : Interpreter}

/-- The faults of working off a list are those of its expressions. -/
theorem Agenda.work_ne_step (todo : Work) (scope : Scope) (e : StepError) :
    (work todo scope).1 ≠ .error (.step e) := by
  induction todo generalizing scope with
  | nil => simp [work]
  | cons w rest ih =>
    obtain ⟨p, n⟩ := w
    have hperform : ∀ scope', perform p n scope ≠ (.error (.step e), scope') := by
      intro scope' h
      unfold perform at h
      split at h <;> try split at h
      all_goals simp at h
    rw [work]
    split
    · simp
    · exact ih _
    · rename_i err scope' h
      intro herr
      cases herr
      exact hperform scope' h

/-- So are the faults of a turn. -/
theorem Agenda.next_ne_step (a : Agenda) (e : StepError) : a.next.1 ≠ .error (.step e) := by
  have hwork := work_ne_step a.todo a.scope.clearDialog e
  unfold next
  split
  · simp
  · split
    · simp
    · rename_i err after h
      rw [h] at hwork
      intro herr
      cases herr
      exact hwork rfl

/-- **No turn of an interpreter fails in its stepper**, however a host came to
it. -/
theorem Reached.next_ne_step (h : Reached script i) (e : StepError) :
    i.next.1 ≠ .error (.step e) := by
  obtain ⟨st, scope, hfits, rfl⟩ := h.exists_standing
  obtain ⟨r, st', scope', -, hnext, hagenda⟩ := next_standing hfits scope
  have hagenda' := Agenda.next_ne_step (.standing script st scope) e
  rw [hagenda] at hagenda'
  rw [hnext]
  exact hagenda'

/-- **Steppers are consistent, and steps stay in the tree.** A host that has a
stepper, fresh or from a state on, may do with it what it likes, and put it at
any states: behind every operation the stepper is consistent, no operation
answers with a path that leads nowhere, `next` has no fault, and the index
that a skip counts up is within sixty-four bits if the lists of children are
shorter than that. No turn of an interpreter fails in its stepper. -/
theorem Traversal.Stepper.consistent_after (root : Instruction) :
    (∀ place s, opened root place = .ok s → ∀ ops,
      (s.after ops).Consistent root ∧
      (∀ op q, ¬ ((s.after ops).perform op).1.HasFault (.unresolvable q)) ∧
      (∃ e s', (s.after ops).next = .ok (e, s')) ∧
      (widest root < indexLimit →
        ∀ i, (s.after ops).path.bind List.getLast? = some i → i + 1 ≤ indexLimit)) ∧
    (∀ place q, opened root place ≠ .error (.unresolvable q)) ∧
    (∀ i, Reached root i → ∀ e, i.next.1 ≠ .error (.step e)) := by
  refine ⟨fun place s hopened ops => ?_, fun place q => ?_, fun i h e => h.next_ne_step e⟩
  · obtain ⟨st₀, hfits₀, rfl⟩ := opened_standing hopened
    obtain ⟨st, hfits, hafter⟩ := after_standing hfits₀ ops
    rw [hafter]
    refine ⟨consistent_standing hfits, fun op => ?_, ?_, fun hwidest i => index_standing hfits hwidest⟩
    · obtain ⟨-, -, -, hfault⟩ := perform_standing hfits op
      exact hfault
    · cases hdone : st.done with
      | true => exact ⟨_, _, next_of_done hdone⟩
      | false =>
        obtain ⟨e, st', -, hnext⟩ := exists_moves hfits hdone
        exact ⟨e, _, hnext⟩
  · exact opened_ne_unresolvable root place q

/-- A stepper put at a leaf as if from above, then at a path that is not
there, and then drawn from: the second state is refused, and the stepper goes
on from the first. -/
theorem Traversal.Stepper.consistent_after_refusal :
    let root : Instruction := .composite .script [.pause, .dialog "a", .pause]
    let ops : List Operation :=
      [.restore ⟨false, some [0], false⟩, .restore ⟨false, some [3], false⟩, .draw 1]
    opened root none = .ok (fresh root) ∧ widest root < indexLimit ∧
      ((fresh root).after ops).path = some [1] ∧
      ((fresh root).after ops).Consistent root ∧ 1 + 1 ≤ indexLimit :=
  have h := (consistent_after (.composite .script [.pause, .dialog "a", .pause])).1 none _ rfl
    [.restore ⟨false, some [0], false⟩, .restore ⟨false, some [3], false⟩, .draw 1]
  ⟨rfl, by decide, rfl, h.1, h.2.2.2 (by decide) 1 rfl⟩

end DialogueScript
