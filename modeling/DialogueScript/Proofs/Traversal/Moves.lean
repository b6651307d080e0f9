import DialogueScript.Proofs.Traversal.Walk
import Mathlib.Data.List.Basic
/-!
# What one step of a stepper does

A stepper that is in order is known by its tree and its state
(`Stepper.standing`), and a state fits a tree when its path leads
somewhere in it and it is not over as well. `Moves` lists the steps
between such states, guards included, and `exists_moves` says that
`Stepper.next` takes one of them wherever it is not over. All that is
proved of steppers afterwards is read off that list.

The measure of a state is `ahead`, the events that are still to come: a
step gives the first of them and leaves the others
(`ahead_eq_of_moves`), so a run gives them all (`take_standing`).
-/

namespace DialogueScript

namespace Traversal

/-- A state fits a tree: its path leads to an instruction of it, and a
traversal that is over has none. -/
structure State.Fits (st : State) (root : Instruction) : Prop where
  path_eq_none : st.done = true → st.path = none
  resolves : ∀ p, st.path = some p → ∃ n, root.resolve p = some n

/-- The stepper that stands at a state of a tree. -/
def Stepper.standing (root : Instruction) (st : State) : Stepper :=
  ⟨root, st.done, st.path, st.exiting, st.path.bind root.resolve⟩

/-- The steps of a traversal. An instruction is left, for a sibling or for
the parent, when the traversal came to it from below or nothing is below
it. -/
inductive Moves (root : Instruction) : State → Event → State → Prop
  /-- To the root. -/
  | start {x : Bool} :
      Moves root ⟨false, none, x⟩ ⟨.start, some root, some []⟩ ⟨false, some [], x⟩
  /-- To the first child. -/
  | enter {p : Path} {n c : Instruction} {cs : List Instruction} :
      root.resolve p = some n → n.children = some (c :: cs) →
      Moves root ⟨false, some p, false⟩ ⟨.enter, some c, some (p ++ [0])⟩
        ⟨false, some (p ++ [0]), false⟩
  /-- To the next sibling. -/
  | skip {p : Path} {i : Nat} {x : Bool} {m n c : Instruction} {cs : List Instruction} :
      root.resolve p = some m → m.children = some cs → cs[i]? = some n →
      x = true ∨ n.children = none → cs[i + 1]? = some c →
      Moves root ⟨false, some (p ++ [i]), x⟩ ⟨.skip, some c, some (p ++ [i + 1])⟩
        ⟨false, some (p ++ [i + 1]), false⟩
  /-- From the last child to the parent. -/
  | exit {p : Path} {i : Nat} {x : Bool} {m n : Instruction} {cs : List Instruction} :
      root.resolve p = some m → m.children = some cs → cs[i]? = some n →
      x = true ∨ n.children = none → cs.length = i + 1 →
      Moves root ⟨false, some (p ++ [i]), x⟩ ⟨.exit, some m, some p⟩ ⟨false, some p, true⟩
  /-- Out of the tree. -/
  | finish {x : Bool} :
      x = true ∨ root.children = none →
      Moves root ⟨false, some [], x⟩ .finished ⟨true, none, false⟩

/-- What a stepper has still to do below the instruction it stands at:
nothing, if it came from there. -/
def descent (n : Instruction) (p : Path) (exiting : Bool) : List Event :=
  if exiting then [] else walk n p

/-- The events still to come from a state on. -/
def ahead (root : Instruction) (st : State) : List Event :=
  if st.done then []
  else
    match st.path with
    | none => ⟨.start, some root, some []⟩ :: (descent root [] st.exiting ++ [.finished])
    | some p =>
      match root.resolve p with
      | none => []
      | some n => descent n p st.exiting ++ climb root [] p ++ [.finished]

variable {root n m c : Instruction} {cs : List Instruction} {p : Path} {i : Nat} {x : Bool}
variable {st st' : State} {e : Event}

/-! ## States that fit -/

/-- A state without a path fits every tree. -/
theorem State.fits_of_none (done exiting : Bool) : State.Fits ⟨done, none, exiting⟩ root :=
  ⟨fun _ => rfl, nofun⟩

/-- A state at a path of the tree fits it, as long as it is not over. -/
theorem State.fits_of_resolve (h : root.resolve p = some n) :
    State.Fits ⟨false, some p, x⟩ root := by
  refine ⟨nofun, fun q hq => ?_⟩
  cases hq
  exact ⟨n, h⟩

/-- The two kinds of state that fit and are not over. -/
theorem State.Fits.cases (h : st.Fits root) (hdone : st.done = false) :
    (∃ x, st = ⟨false, none, x⟩) ∨
      ∃ p x n, st = ⟨false, some p, x⟩ ∧ root.resolve p = some n := by
  obtain ⟨done, path, x⟩ := st
  cases hdone
  cases path with
  | none => exact .inl ⟨x, rfl⟩
  | some p =>
    obtain ⟨n, hn⟩ := h.resolves p rfl
    exact .inr ⟨p, x, n, rfl, hn⟩

/-- The place of a state is that of the stepper standing there. -/
@[simp]
theorem Stepper.state_standing : (Stepper.standing root st).state = st := rfl

@[simp]
theorem Stepper.done_standing : (Stepper.standing root st).done = st.done := rfl

@[simp]
theorem Stepper.bound_standing : (Stepper.standing root st).bound = 2 * root.size + 2 := rfl

theorem Stepper.fresh_eq_standing : Stepper.fresh root = Stepper.standing root {} := rfl

/-! ## The transitions, from a path of the tree -/

namespace Stepper

/-- A stepper standing at a path of the tree moves to another. -/
theorem moveTo_standing (a : Action) (q : Option Path) (h : root.resolve p = some n) :
    (standing root ⟨false, q, x⟩).moveTo a p =
      .ok (⟨a, some n, some p⟩, standing root ⟨false, some p, x⟩) := by
  unfold moveTo standing
  simp [h]

theorem enter_standing_leaf (hn : root.resolve p = some n) (h : n.children = none) :
    (standing root ⟨false, some p, x⟩).enter = .ok (none, standing root ⟨false, some p, x⟩) := by
  unfold enter standing
  simp [hn, h]

theorem enter_standing (hn : root.resolve p = some n) (h : n.children = some (c :: cs)) :
    (standing root ⟨false, some p, x⟩).enter =
      .ok (some ⟨.enter, some c, some (p ++ [0])⟩, standing root ⟨false, some (p ++ [0]), x⟩) := by
  have hc : root.resolve (p ++ [0]) = some c := Instruction.resolve_child hn h rfl
  have hmove := moveTo_standing (x := x) .enter (some p) hc
  simp only [standing, Option.bind_some, hn] at hmove
  unfold enter standing
  simp [hn, h, hmove, bind, Except.bind, pure, Except.pure]

/-- From the root there is no sibling, and the traversal ends. -/
theorem skip_standing_nil :
    (standing root ⟨false, some [], x⟩).skip =
      .ok (some .finished, standing root ⟨true, none, x⟩) := rfl

theorem skip_standing (hm : root.resolve p = some m) (hcs : m.children = some cs)
    (hc : cs[i + 1]? = some c) :
    (standing root ⟨false, some (p ++ [i]), x⟩).skip =
      .ok (some ⟨.skip, some c, some (p ++ [i + 1])⟩,
        standing root ⟨false, some (p ++ [i + 1]), x⟩) := by
  have hlt : ¬ cs.length ≤ i + 1 := by
    obtain ⟨h, -⟩ := List.getElem?_eq_some_iff.1 hc
    omega
  have hc : root.resolve (p ++ [i + 1]) = some c := Instruction.resolve_child hm hcs hc
  have hmove := moveTo_standing (x := x) .skip (some (p ++ [i])) hc
  simp only [standing, Option.bind_some] at hmove
  unfold skip standing
  simp [hm, hcs, hlt, hmove, bind, Except.bind, pure, Except.pure]

theorem skip_standing_last (hm : root.resolve p = some m) (hcs : m.children = some cs)
    (hlast : cs.length = i + 1) :
    (standing root ⟨false, some (p ++ [i]), x⟩).skip =
      .ok (none, standing root ⟨false, some (p ++ [i]), x⟩) := by
  unfold skip standing
  simp [hm, hcs, hlast]

theorem exit_standing (hm : root.resolve p = some m) :
    (standing root ⟨false, some (p ++ [i]), x⟩).exit =
      .ok (⟨.exit, some m, some p⟩, standing root ⟨false, some p, x⟩) := by
  have hmove := moveTo_standing (x := x) .exit (some (p ++ [i])) hm
  simp only [standing, Option.bind_some] at hmove
  unfold exit standing
  simp [hmove]

/-- A child without a next sibling is the last. -/
theorem length_eq_of_getElem? (hi : cs[i]? = some n) (hc : cs[i + 1]? = none) :
    cs.length = i + 1 := by
  have hle := List.getElem?_eq_none_iff.1 hc
  obtain ⟨hlt, -⟩ := List.getElem?_eq_some_iff.1 hi
  omega

/-- Leaving an instruction is a step to a sibling, to the parent or out of
the tree. -/
theorem exists_moves_leave (hn : root.resolve p = some n) (hx : x = true ∨ n.children = none) :
    ∃ e st', Moves root ⟨false, some p, x⟩ e st' ∧
      (standing root ⟨false, some p, x⟩).leave = .ok (e, standing root st') := by
  rcases List.eq_nil_or_concat p with rfl | ⟨q, i, rfl⟩
  · cases hn
    refine ⟨_, _, .finish hx, ?_⟩
    rw [leave, skip_standing_nil]
    rfl
  rw [List.concat_eq_append] at hn ⊢
  obtain ⟨m, cs, hm, hcs, hi⟩ := Instruction.exists_parent_of_resolve hn
  unfold leave
  -- a sibling to go to decides between a skip and an exit
  cases hc : cs[i + 1]? with
  | some c =>
    refine ⟨_, _, .skip hm hcs hi hx hc, ?_⟩
    rw [skip_standing hm hcs hc]
    rfl
  | none =>
    have hlast : cs.length = i + 1 := length_eq_of_getElem? hi hc
    refine ⟨_, _, .exit hm hcs hi hx hlast, ?_⟩
    rw [skip_standing_last hm hcs hlast]
    exact exit_standing hm

/-- Where it did not come from below, a stepper tries to enter first. -/
theorem next_standing_eq_enter :
    (standing root ⟨false, some p, false⟩).next = (do
      match ← (standing root ⟨false, some p, false⟩).enter with
      | (some event, s) => return (event, { s with exiting := false })
      | (none, s) => s.leave) := rfl

/-- **A stepper in order takes a step wherever it is not over.** So `next`
never fails there, and what it does is one of the moves. -/
theorem exists_moves (hfits : st.Fits root) (hdone : st.done = false) :
    ∃ e st', Moves root st e st' ∧ (standing root st).next = .ok (e, standing root st') := by
  rcases hfits.cases hdone with ⟨x, rfl⟩ | ⟨p, x, n, rfl, hn⟩
  · exact ⟨_, _, .start, rfl⟩
  cases x with
  | true => exact exists_moves_leave hn (.inl rfl)
  | false =>
    cases hcs : n.children with
    | none =>
      obtain ⟨e, st', hmoves, hleave⟩ := exists_moves_leave hn (.inr hcs) (x := false)
      refine ⟨e, st', hmoves, ?_⟩
      rw [next_standing_eq_enter, enter_standing_leaf hn hcs]
      exact hleave
    | some cs =>
      obtain ⟨form, c, cs, -, rfl⟩ := Instruction.children_eq_some hcs
      refine ⟨_, _, .enter hn hcs, ?_⟩
      rw [next_standing_eq_enter, enter_standing hn hcs]
      rfl

/-- Once a traversal is over nothing changes any more. -/
theorem next_of_done {s : Stepper} (h : s.done = true) : s.next = .ok (.idle, s) := by
  rw [next, if_pos h]

end Stepper

/-! ## What a step keeps, and what it takes off -/

/-- **A step leads from a state that fits to one that fits.** -/
theorem Moves.fits (h : Moves root st e st') : st'.Fits root := by
  cases h with
  | start => exact State.fits_of_resolve rfl
  | enter hn hcs => exact State.fits_of_resolve (Instruction.resolve_child hn hcs rfl)
  | skip hm hcs _ _ hc => exact State.fits_of_resolve (Instruction.resolve_child hm hcs hc)
  | exit hm => exact State.fits_of_resolve hm
  | finish => exact State.fits_of_none _ _

/-- What is ahead of a stepper at a path of the tree. -/
theorem ahead_at (h : root.resolve p = some n) :
    ahead root ⟨false, some p, x⟩ = descent n p x ++ climb root [] p ++ [.finished] := by
  simp [ahead, h]

/-- Nothing is left below an instruction that is being left. -/
theorem descent_eq_nil (h : x = true ∨ n.children = none) : descent n p x = [] := by
  unfold descent
  rcases h with rfl | h
  · rfl
  · rw [walk_of_leaf h, ite_self]

/-- **A step gives the first of the events ahead and leaves the others.** -/
theorem ahead_eq_of_moves (h : Moves root st e st') : ahead root st = e :: ahead root st' := by
  cases h with
  | start =>
    rw [ahead_at rfl]
    simp [ahead, climb]
  | enter hn hcs =>
    rw [ahead_at hn, ahead_at (Instruction.resolve_child hn hcs rfl), climb_snoc hn hcs rfl]
    simp [descent, walk_of_children hcs, walkFrom, arrival]
  | @skip p i x m n c cs hm hcs hi hx hc =>
    -- the climb from `i` begins with the sibling that the climb from `i + 1` has behind it
    have hdrop : cs.drop (i + 1) = c :: cs.drop (i + 1 + 1) := by
      rw [List.drop_eq_getElem?_toList_append, hc]
      rfl
    rw [ahead_at (Instruction.resolve_child hm hcs hi),
      ahead_at (Instruction.resolve_child hm hcs hc), descent_eq_nil hx, climb_snoc hm hcs hi,
      climb_snoc hm hcs hc, hdrop]
    simp [descent, walkFrom, arrival]
  | exit hm hcs hi hx hlast =>
    -- the climb from the last child has no sibling to go through first
    rw [ahead_at (Instruction.resolve_child hm hcs hi), ahead_at hm, descent_eq_nil hx,
      climb_snoc hm hcs hi, List.drop_eq_nil_of_le (by omega)]
    simp [descent, walkFrom]
  | finish hx =>
    rw [ahead_at rfl, descent_eq_nil hx]
    rfl

/-! ## Runs of steps -/

/-- A traversal that is over has nothing ahead. -/
theorem ahead_of_done (h : st.done = true) : ahead root st = [] := by
  rw [ahead, if_pos h]

/-- As long as it is not over there is something ahead. -/
theorem done_of_ahead_eq_nil (hfits : st.Fits root) (h : ahead root st = []) :
    st.done = true := by
  by_contra hdone
  obtain ⟨e, st', hmoves, -⟩ := Stepper.exists_moves hfits (by simpa using hdone)
  rw [ahead_eq_of_moves hmoves] at h
  cases h

theorem descent_suffix : descent n p x <:+ walk n p := by
  unfold descent
  split
  · exact List.nil_suffix
  · exact List.suffix_rfl

/-- What is ahead at a path of the tree is the end of its traversal. -/
theorem ahead_suffix (hn : root.resolve p = some n) :
    ahead root ⟨false, some p, x⟩ <:+ traversal root := by
  obtain ⟨before, a, -, htraversal⟩ := exists_traversal_eq hn
  obtain ⟨skipped, hskipped⟩ := descent_suffix (n := n) (p := p) (x := x)
  refine ⟨before ++ ⟨a, some n, some p⟩ :: skipped, ?_⟩
  rw [ahead_at hn, htraversal, ← hskipped]
  simp

/-- **A stepper has no more ahead than its bound.** -/
theorem length_ahead_le (hfits : st.Fits root) : (ahead root st).length ≤ 2 * root.size := by
  have hwhole := length_traversal_le root
  cases hdone : st.done with
  | true => simp [ahead_of_done hdone]
  | false =>
    rcases hfits.cases hdone with ⟨x, rfl⟩ | ⟨p, x, n, rfl, hn⟩
    · have := (descent_suffix (n := root) (p := []) (x := x)).length_le
      simp only [traversal, ahead, Bool.false_eq_true, if_false, List.length_cons,
        List.length_append] at hwhole ⊢
      omega
    · exact Nat.le_trans (ahead_suffix hn).length_le hwhole

namespace Stepper

/-- **So many calls give so many of the events ahead**, without a fault, and
leave the others. -/
theorem take_standing (hfits : st.Fits root) (k : Nat) :
    ∃ st', st'.Fits root ∧ ahead root st' = (ahead root st).drop k ∧
      (standing root st).take k = (((ahead root st).take k).map .ok, standing root st') := by
  induction k generalizing st with
  | zero => exact ⟨st, hfits, rfl, by simp [take]⟩
  | succ k ih =>
    cases hdone : st.done with
    | true =>
      refine ⟨st, hfits, by simp [ahead_of_done hdone], ?_⟩
      rw [take, done_standing, if_pos hdone, ahead_of_done hdone]
      rfl
    | false =>
      obtain ⟨e, st₁, hmoves, hnext⟩ := exists_moves hfits hdone
      obtain ⟨st', hfits', hahead, htake⟩ := ih hmoves.fits
      refine ⟨st', hfits', by rw [hahead, ahead_eq_of_moves hmoves, List.drop_succ_cons], ?_⟩
      rw [take, done_standing, if_neg (by simp [hdone]), hnext, ahead_eq_of_moves hmoves]
      simp [htake]

/-- **All calls together give all the events ahead**, and then the traversal
is over. -/
theorem events_standing (hfits : st.Fits root) :
    ∃ st', st'.done = true ∧
      (standing root st).events = ((ahead root st).map .ok, standing root st') := by
  have hlength := length_ahead_le hfits
  obtain ⟨st', hfits', hahead, htake⟩ := take_standing hfits (standing root st).bound
  rw [bound_standing] at hahead htake
  rw [List.drop_eq_nil_of_le (by omega)] at hahead
  rw [List.take_of_length_le (by omega)] at htake
  exact ⟨st', done_of_ahead_eq_nil hfits' hahead, by rw [events, bound_standing, htake]⟩

end Stepper

end Traversal

end DialogueScript
