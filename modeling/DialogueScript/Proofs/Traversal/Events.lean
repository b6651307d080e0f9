import DialogueScript.Proofs.Traversal.Moves
import Mathlib.Data.List.Basic
/-!
# The events of a traversal, whole and from any state

A fresh stepper gives the events of the recursive traversal and no
others. A stepper can also be put at any state that fits its tree, among
them states that no traversal comes through: at a leaf as if from below,
or before the root as if from below. `Continues` says for every one of
them which events follow, as a part of the whole traversal, and
`continues_ahead` that these are the ones ahead. One state is no place in
the whole traversal: not begun and coming from below, over a root that
can be entered. From there the root is all that is visited.
-/

namespace DialogueScript

namespace Traversal

variable {root n : Instruction} {cs : List Instruction} {p : Path} {st : State}

/-! ## From the start -/

/-- Before the root everything is ahead. -/
theorem ahead_fresh : ahead root {} = traversal root := rfl

namespace Stepper

/-- **A fresh stepper gives the walk through its tree.** The iterator ends by
itself: so many draws give so many events of the walk, and all draws give
all of it. Each event but the last carries the instruction at its path, and
behind the last nothing changes any more. -/
theorem events_fresh (root : Instruction) :
    (fresh root).events.1 = (traversal root).map .ok ∧
      (∀ k, ((fresh root).take k).1 = ((traversal root).take k).map .ok) ∧
      (∀ e ∈ traversal root, e.action ≠ .finish →
        ∃ p n, e.path = some p ∧ e.node = some n ∧ root.resolve p = some n) ∧
      (fresh root).events.2.done = true ∧
      (fresh root).events.2.next = .ok (.idle, (fresh root).events.2) := by
  have hfits : State.Fits {} root := State.fits_of_none false false
  obtain ⟨st, hdone, hevents⟩ := events_standing hfits
  rw [fresh_eq_standing, hevents, ahead_fresh]
  refine ⟨rfl, fun k => ?_, fun e he hne => mem_traversal he hne, hdone, next_of_done hdone⟩
  obtain ⟨st', -, -, htake⟩ := take_standing hfits k
  rw [htake, ahead_fresh]

/-- A root that is no leaf, with an empty block in it: in, on to the block,
back, and out. -/
example : (fresh (.composite .script [.pause, .composite .eachBlock []])).events.1.map
    (Except.map fun e => (e.action, e.path)) =
      [.ok (.start, some []), .ok (.enter, some [0]), .ok (.skip, some [1]),
        .ok (.exit, some []), .ok (.finish, none)] := rfl

/-! ## From any state -/

/-- A state that fits is taken up as it is. -/
theorem restore_of_fits {s : Stepper} (h : st.Fits s.root) :
    s.restore st = (.ok (), standing s.root st) := by
  obtain ⟨done, path, x⟩ := st
  cases path with
  | none => rfl
  | some p =>
    obtain ⟨n, hn⟩ := h.resolves p rfl
    cases done with
    | true => cases h.path_eq_none rfl
    | false => simp [restore, standing, hn]

/-- Any other is refused, and nothing changes. -/
theorem restore_of_not_fits {s : Stepper} (h : ¬ st.Fits s.root) :
    ∃ e, s.restore st = (.error e, s) := by
  obtain ⟨done, path, x⟩ := st
  cases path with
  | none => exact absurd (State.fits_of_none done x) h
  | some p =>
    cases done with
    | true => exact ⟨_, rfl⟩
    | false =>
      cases hn : s.root.resolve p with
      | none => exact ⟨.unknownPath p, by simp [restore, hn]⟩
      | some n => exact absurd (State.fits_of_resolve hn) h

/-- So a traversal from a state on is the stepper standing there, or there is
none. -/
theorem ofState_of_fits (h : st.Fits root) : ofState root st = .ok (standing root st) := by
  rw [ofState, restore_of_fits h]
  rfl

theorem ofState_of_not_fits (h : ¬ st.Fits root) : ∃ e, ofState root st = .error e := by
  obtain ⟨e, he⟩ := restore_of_not_fits (s := fresh root) h
  exact ⟨e, by rw [ofState, he]⟩

theorem restore_ok_iff {s : Stepper} : (s.restore st).1 = .ok () ↔ st.Fits s.root := by
  by_cases h : st.Fits s.root
  · simp [restore_of_fits h, h]
  · obtain ⟨e, he⟩ := restore_of_not_fits h
    simp [he, h]

end Stepper

/-- An event comes to a path from above or from the side. -/
def Event.ArrivesAt (e : Event) (p : Path) : Prop :=
  (e.action = .start ∨ e.action = .enter ∨ e.action = .skip) ∧ e.path = some p

/-- An event comes back to a path from below. -/
def Event.ReturnsTo (e : Event) (p : Path) : Prop :=
  e.action = .exit ∧ e.path = some p

/-- What follows the one event of a kind: `rest` is the part of `all` behind
an event of which `P` holds, and `P` holds of no other. -/
def FollowsOnly (P : Event → Prop) (all rest : List Event) : Prop :=
  ∃ before e, all = before ++ e :: rest ∧ P e ∧ ∀ e' ∈ before ++ rest, ¬ P e'

/-- Which events follow from a state on: `all` are those of the whole
traversal, and `rest` those that follow. -/
structure Continues (root : Instruction) (st : State) (all rest : List Event) : Prop where
  /-- Over: nothing follows. -/
  of_done : st.done = true → rest = []
  /-- Not begun: everything does. -/
  of_fresh : st.done = false → st.path = none → st.exiting = false → rest = all
  /-- At a path, and not from below or with nothing below: what follows the
  arrival there. -/
  of_arrived : ∀ p n, st.path = some p → root.resolve p = some n →
    st.exiting = false ∨ n.children = none → FollowsOnly (·.ArrivesAt p) all rest
  /-- At a path, from below: what follows the return there. -/
  of_returned : ∀ p n, st.path = some p → root.resolve p = some n →
    st.exiting = true → n.children ≠ none → FollowsOnly (·.ReturnsTo p) all rest
  /-- Not begun, as if from below: only the root and the end. -/
  of_skipped : st = ⟨false, none, true⟩ →
    rest = [⟨.start, some root, some []⟩, .finished]
  /-- That is the one state from which no end of the whole follows, and only
  over a root that can be entered. -/
  not_suffix_iff : ¬ rest <:+ all ↔ st = ⟨false, none, true⟩ ∧ root.children ≠ none

/-- Where no two events are of a kind, what is behind one of the kind follows
it alone. -/
theorem followsOnly_of_apart {P : Event → Prop} {before rest : List Event} {e : Event}
    (hP : ∀ a b, P a → P b → ¬ a.Apart b) (h : (before ++ e :: rest).Pairwise Event.Apart)
    (he : P e) : FollowsOnly P (before ++ e :: rest) rest := by
  refine ⟨before, e, rfl, he, fun e' he' hPe' => ?_⟩
  rw [List.pairwise_append, List.pairwise_cons] at h
  obtain ⟨-, ⟨hrest, -⟩, hbefore⟩ := h
  rw [List.mem_append] at he'
  rcases he' with he' | he'
  · exact hP e' e hPe' he (hbefore e' he' e List.mem_cons_self)
  · exact hP e e' he hPe' (hrest e' he')

/-- Two arrivals at one path are not apart. -/
theorem Event.ArrivesAt.not_apart {a b : Event} (ha : a.ArrivesAt p) (hb : b.ArrivesAt p) :
    ¬ a.Apart b := by
  intro h
  obtain ⟨haction, hpath⟩ := ha
  obtain ⟨haction', hpath'⟩ := hb
  refine h (hpath.trans hpath'.symm) ?_
  rcases haction with h | h | h <;> rcases haction' with h' | h' | h' <;> simp [h, h']

/-- Two returns to one path are not apart. -/
theorem Event.ReturnsTo.not_apart {a b : Event} (ha : a.ReturnsTo p) (hb : b.ReturnsTo p) :
    ¬ a.Apart b :=
  fun h => h (ha.2.trans hb.2.symm) (iff_of_true ha.1 hb.1)

/-- At a path of the tree, not from below or with nothing below: the arrival
there, and then what is ahead. -/
theorem followsOnly_arrival (hn : root.resolve p = some n) {x : Bool}
    (hx : x = false ∨ n.children = none) :
    FollowsOnly (·.ArrivesAt p) (traversal root) (ahead root ⟨false, some p, x⟩) := by
  obtain ⟨before, a, ha, htraversal⟩ := exists_traversal_eq hn
  have hdescent : descent n p x = walk n p := by
    rcases hx with rfl | hx
    · rfl
    · rw [descent_eq_nil (.inr hx), walk_of_leaf hx]
  have hpairwise := pairwise_traversal root
  rw [htraversal] at hpairwise ⊢
  rw [ahead_at hn, hdescent]
  exact followsOnly_of_apart (fun _ _ h h' => h.not_apart h') hpairwise ⟨ha, rfl⟩

/-- At a path of the tree, from below: the return there, and then what is
ahead. -/
theorem followsOnly_return (hn : root.resolve p = some n) (hcs : n.children = some cs) :
    FollowsOnly (·.ReturnsTo p) (traversal root) (ahead root ⟨false, some p, true⟩) := by
  obtain ⟨before, htraversal⟩ := exists_traversal_eq_exit hn hcs
  have hpairwise := pairwise_traversal root
  rw [htraversal] at hpairwise ⊢
  rw [ahead_at hn, descent_eq_nil (.inl rfl)]
  exact followsOnly_of_apart (fun _ _ h h' => h.not_apart h') hpairwise ⟨rfl, rfl⟩

/-- The root and the end alone are no end of a traversal that enters the
root: the traversal starts once, and goes on otherwise. -/
theorem not_suffix_traversal (hcs : root.children = some cs) :
    ¬ [⟨.start, some root, some []⟩, .finished] <:+ traversal root := by
  rw [traversal, List.suffix_cons_iff]
  rintro (h | h)
  · have hlength := congrArg List.length h
    simp [walk_of_children hcs] at hlength
  · have hmem := h.mem (List.mem_cons_self (a := (⟨.start, some root, some []⟩ : Event)))
    rw [List.mem_append, List.mem_singleton] at hmem
    rcases hmem with hmem | hmem
    · obtain ⟨q, m, -, -, -, haction⟩ := mem_walk root [] _ hmem
      simp at haction
    · cases hmem

/-- From every other state an end of the traversal is ahead. -/
theorem ahead_suffix_of_fits (hfits : st.Fits root)
    (h : ¬ (st = ⟨false, none, true⟩ ∧ root.children ≠ none)) :
    ahead root st <:+ traversal root := by
  cases hdone : st.done with
  | true =>
    rw [ahead_of_done hdone]
    exact List.nil_suffix
  | false =>
    rcases hfits.cases hdone with ⟨x, rfl⟩ | ⟨p, x, n, rfl, hn⟩
    · have hx : x = false ∨ root.children = none := by
        cases x with
        | false => exact .inl rfl
        | true => exact .inr (not_not.1 fun hcs => h ⟨rfl, hcs⟩)
      rcases hx with rfl | hleaf
      · exact List.suffix_rfl
      · simp [ahead, traversal, descent_eq_nil (.inr hleaf), walk_of_leaf hleaf]
    · exact ahead_suffix hn

/-- **What is ahead of a state that fits is what should follow.** -/
theorem continues_ahead (hfits : st.Fits root) :
    Continues root st (traversal root) (ahead root st) := by
  obtain ⟨done, path, x⟩ := st
  have hskipped : ahead root ⟨false, none, true⟩ =
      [⟨.start, some root, some []⟩, .finished] := rfl
  refine ⟨fun h => ahead_of_done h, ?_, ?_, ?_, ?_, ?_⟩
  · rintro rfl rfl rfl
    rfl
  · rintro p n rfl hn hx
    cases done with
    | true => cases hfits.path_eq_none rfl
    | false => exact followsOnly_arrival hn hx
  · rintro p n rfl hn rfl hcs
    cases done with
    | true => cases hfits.path_eq_none rfl
    | false =>
      obtain ⟨cs, hcs⟩ := Option.ne_none_iff_exists'.1 hcs
      exact followsOnly_return hn hcs
  · rintro ⟨⟩
    exact hskipped
  · constructor
    · intro h
      exact not_not.1 fun hother => h (ahead_suffix_of_fits hfits hother)
    · rintro ⟨⟨⟩, hcs⟩
      obtain ⟨cs, hcs⟩ := Option.ne_none_iff_exists'.1 hcs
      rw [hskipped]
      exact not_suffix_traversal hcs

/-- **Restoring takes up every state that fits and no other, and goes on as
the whole traversal does from there.** Refused are just a path beside the
end and a path that leads nowhere, and then nothing changes. What is taken
up is captured again as it was. -/
theorem Stepper.restore_continues (s : Stepper) (st : State) :
    ((s.restore st).1 = .ok () ↔
        ¬ (st.done = true ∧ st.path ≠ none) ∧
          ∀ p, st.path = some p → ∃ n, s.root.resolve p = some n) ∧
      ((s.restore st).1 ≠ .ok () → (s.restore st).2 = s) ∧
      ((s.restore st).1 = .ok () →
        (s.restore st).2.root = s.root ∧ (s.restore st).2.state = st ∧
          (s.restore st).2.events.2.done = true ∧
          ∃ all rest, (fresh s.root).events.1 = all.map .ok ∧
            (s.restore st).2.events.1 = rest.map .ok ∧ Continues s.root st all rest) := by
  refine ⟨?_, fun h => ?_, fun h => ?_⟩
  · rw [restore_ok_iff]
    constructor
    · intro h
      exact ⟨fun hdone => hdone.2 (h.path_eq_none hdone.1), h.resolves⟩
    · rintro ⟨hdone, hresolves⟩
      exact ⟨fun h => not_not.1 fun hpath => hdone ⟨h, hpath⟩, hresolves⟩
  · obtain ⟨e, he⟩ := restore_of_not_fits (mt restore_ok_iff.2 h)
    rw [he]
  · have hfits := restore_ok_iff.1 h
    obtain ⟨st', hdone, hevents⟩ := events_standing hfits
    have hbegin : State.Fits {} s.root := State.fits_of_none false false
    obtain ⟨st₀, -, hfresh⟩ := events_standing hbegin
    rw [restore_of_fits hfits, fresh_eq_standing]
    refine ⟨rfl, state_standing, by rw [hevents]; exact hdone, traversal s.root,
      ahead s.root st, ?_, ?_, ?_⟩
    · rw [hfresh, ahead_fresh]
    · rw [hevents]
    · exact continues_ahead hfits

end Traversal

end DialogueScript
