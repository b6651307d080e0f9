import DialogueScript.Proofs.Session.Unfailing
/-!
# The turns of a run

A run in which no turn fails goes through finitely many turns, the last of
which reaches the end of the script. `stages` lists the interpreters behind
them. Each turn takes something off the agenda or finds it at its end
(`left_work_le`), so there are no more turns than a caller allows who counts by
the bound of the stepper (`turns_stages`). What is left of the turns behind
any stage is what a run from there goes through (`Turns.drop`), and from its
checkpoint that stage is taken up again (`resume_of_mem_stages`).
-/

namespace DialogueScript

open Traversal

variable {script root : Instruction} {st : State} {i j : Interpreter} {rest : List Interpreter}

/-! ## Work gets less -/

namespace Agenda

/-- How many instructions are left, and the end. -/
def left (a : Agenda) : Nat := a.todo.length + if a.done then 0 else 1

/-- A turn takes something off. -/
theorem left_work_le (todo : Work) (scope : Scope) : (work todo scope).2.left ≤ todo.length := by
  induction todo generalizing scope with
  | nil => exact Nat.le_refl 0
  | cons w rest ih =>
    obtain ⟨p, n⟩ := w
    rw [work]
    split
    · simp [left]
    · have := ih ‹_›
      rw [List.length_cons]
      omega
    · simp [left]

/-- A turn of an agenda that is not over fails or yields. -/
theorem next_of_not_done {a : Agenda} (h : a.done = false) :
    a.next.2.left < a.left ∧
      ((∃ e, a.next.1 = .error e) ∨ a.next.1 = .ok (.yielded a.next.2.scope)) := by
  have hleft := left_work_le a.todo a.scope.clearDialog
  have hless : a.todo.length < a.left := by
    rw [left, h]
    exact Nat.lt_succ_self _
  rw [next, h]
  simp only [Bool.false_eq_true, if_false]
  generalize work a.todo a.scope.clearDialog = worked at hleft ⊢
  obtain ⟨e | u, a'⟩ := worked
  · exact ⟨Nat.lt_of_le_of_lt hleft hless, .inl ⟨e, rfl⟩⟩
  · exact ⟨Nat.lt_of_le_of_lt hleft hless, .inr rfl⟩

end Agenda

/-! ## Runs without a failure -/

namespace Interpreter

/-- A run in which no evaluation fails. -/
def Flawless (i : Interpreter) : Prop :=
  ∀ k, ∀ c ∈ i.calls k, ∀ p e, c.result ≠ .error (.eval p e)

theorem Flawless.next_ne_eval (h : i.Flawless) (p : Path) (e : EvalError) :
    i.next.1 ≠ .error (.eval p e) :=
  h 1 ⟨i.next.1, i.next.2.scope, i.next.2.isDone⟩ (by simp [calls]) p e

theorem Flawless.next (h : i.Flawless) : i.next.2.Flawless :=
  fun k c hc => h (k + 1) c (by simp [calls, hc])

/-- A run goes through turns, and is over behind the last of them. -/
inductive Turns : Interpreter → List Interpreter → Prop
  | ended {i : Interpreter} : i.isDone = true → Turns i []
  | turn {i j : Interpreter} {rest : List Interpreter} :
      i.next = (.ok (.yielded j.scope), j) → Turns j rest → Turns i (j :: rest)

/-- The interpreters behind at most so many turns. -/
def stagesWithin : Nat → Interpreter → List Interpreter
  | 0, _ => []
  | fuel + 1, i =>
    match i.next with
    | (.ok (.yielded _), j) => j :: stagesWithin fuel j
    | _ => []

/-- The interpreters behind each turn of a run. -/
def stages (i : Interpreter) : List Interpreter := stagesWithin (i.stepper.bound + 1) i

theorem next_of_isDone (h : i.isDone = true) : i.next = (.ok .done, i) := by
  rw [next, if_pos h]

theorem stagesWithin_of_turns (h : Turns i rest) {fuel : Nat} (hfuel : rest.length ≤ fuel) :
    stagesWithin fuel i = rest := by
  induction h generalizing fuel with
  | @ended i hdone =>
    cases fuel with
    | zero => rfl
    | succ fuel => rw [stagesWithin, next_of_isDone hdone]
  | @turn i j rest hnext _ ih =>
    obtain ⟨fuel, rfl⟩ := Nat.exists_eq_add_of_le' hfuel
    rw [List.length_cons, ← Nat.add_assoc, stagesWithin, hnext]
    exact congrArg (j :: ·) (ih (Nat.le_add_left _ _))

theorem Turns.isDone_iff (h : Turns i rest) : i.isDone = true ↔ rest = [] := by
  cases h with
  | ended hdone => simp [hdone]
  | turn hnext _ =>
    simp only [reduceCtorEq, iff_false]
    intro hdone
    rw [next_of_isDone hdone] at hnext
    cases hnext

/-- **Behind each stage a run goes through the rest of the turns.** -/
theorem Turns.drop (h : Turns i rest) {k : Nat} (hj : rest[k]? = some j) :
    Turns j (rest.drop (k + 1)) := by
  induction h generalizing k with
  | ended => cases hj
  | turn _ hturns ih =>
    cases k with
    | zero =>
      cases hj
      exact hturns
    | succ k => exact ih hj

/-- **A run without a failure comes to an end.** -/
theorem exists_turns (hfits : st.Fits root) (scope : Scope)
    (h : (standing root st scope).Flawless) :
    ∃ rest, Turns (standing root st scope) rest ∧
      rest.length ≤ (Agenda.standing root st scope).left := by
  -- by what the agenda has left, which each turn makes less
  generalize hn : (Agenda.standing root st scope).left = n
  induction n using Nat.strongRecOn generalizing st scope with
  | _ n ih =>
    obtain ⟨r, st', scope', hfits', hnext, hagenda⟩ := next_standing hfits scope
    cases hdone : st.done with
    | true => exact ⟨[], .ended hdone, Nat.zero_le _⟩
    | false =>
      obtain ⟨hless, hresult⟩ :=
        Agenda.next_of_not_done (a := Agenda.standing root st scope) hdone
      rw [hagenda] at hless hresult
      have hyielded : r = .ok (.yielded scope') := by
        rcases hresult with ⟨e, rfl⟩ | hresult
        · -- the stepper has no faults, so what fails would be an evaluation
          cases e with
          | step e =>
            exact absurd (congrArg Prod.fst hagenda) (Agenda.next_ne_step _ e)
          | eval p e => exact absurd (congrArg Prod.fst hnext) (h.next_ne_eval p e)
        · exact hresult
      have hflawless := h.next
      rw [hnext] at hflawless
      obtain ⟨rest, hturns, hlength⟩ := ih _ (hn ▸ hless) hfits' scope' hflawless rfl
      refine ⟨_ :: rest, .turn (hnext.trans (by rw [hyielded]; rfl)) hturns, ?_⟩
      rw [List.length_cons]
      dsimp only at hless
      omega

/-- **And a run that comes to an end is without a failure.** -/
theorem Turns.flawless (h : Turns i rest) : i.Flawless := by
  intro k
  induction k generalizing i rest with
  | zero =>
    intro c hc
    cases hc
  | succ k ih =>
    intro c hc p e
    cases h with
    | ended hdone =>
      rw [calls, next_of_isDone hdone] at hc
      rcases List.mem_cons.1 hc with rfl | hc
      · simp
      · exact ih (.ended hdone) c hc p e
    | turn hnext hturns =>
      rw [calls, hnext] at hc
      rcases List.mem_cons.1 hc with rfl | hc
      · simp
      · exact ih hturns c hc p e

/-- **The stages of a script without a failure are those behind its turns**, and there are fewer
than a caller allows. -/
theorem turns_stages (h : (fresh script).Flawless) :
    Turns (fresh script) (fresh script).stages ∧
      (fresh script).stages.length < (fresh script).stepper.bound + 1 := by
  have hfits : State.Fits {} script := State.fits_of_none false false
  obtain ⟨rest, hturns, hlength⟩ := exists_turns hfits {} h
  have hahead := length_ahead_le hfits
  have hbound : rest.length < (fresh script).stepper.bound + 1 := by
    have hvisits : (visits (ahead script {})).length ≤ (ahead script {}).length :=
      List.length_filterMap_le _ _
    change _ < 2 * script.size + 2 + 1
    have hleft : (Agenda.standing script {} {}).left = (visits (ahead script {})).length + 1 := rfl
    omega
  have hstages : (fresh script).stages = rest := stagesWithin_of_turns hturns (Nat.le_of_lt hbound)
  rw [hstages]
  exact ⟨hturns, hbound⟩

/-- Each stage stands in order over the script. -/
theorem Turns.exists_standing (hfits : st.Fits root) (scope : Scope)
    (h : Turns (standing root st scope) rest) :
    ∀ j ∈ rest, ∃ st' scope', st'.Fits root ∧ j = standing root st' scope' := by
  induction rest generalizing st scope with
  | nil => nofun
  | cons first rest ih =>
    obtain ⟨r, st', scope', hfits', hstanding, -⟩ := next_standing hfits scope
    cases h with
    | turn hnext hturns =>
      obtain rfl : first = standing root st' scope' :=
        congrArg Prod.snd (hnext.symm.trans hstanding)
      intro j hj
      rcases List.mem_cons.1 hj with rfl | hj
      · exact ⟨st', scope', hfits', rfl⟩
      · exact ih hfits' scope' hturns j hj

/-- **A stage is taken up from its checkpoint**, and allows as many turns as the script does. -/
theorem resume_of_mem_stages (h : (fresh script).Flawless) (hj : j ∈ (fresh script).stages) :
    resume script j.checkpoint = .ok j ∧ j.stepper.bound = (fresh script).stepper.bound := by
  obtain ⟨st, scope, hfits, rfl⟩ :=
    (turns_stages h).1.exists_standing (State.fits_of_none false false) {} j hj
  exact ⟨resume_standing hfits scope, rfl⟩

end Interpreter

end DialogueScript
