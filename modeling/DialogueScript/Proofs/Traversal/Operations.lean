import DialogueScript.Proofs.Traversal.Events
/-!
# Everything a host can do with a stepper

Besides `next`, a host may take the transitions one by one, in any order,
draw events from the iterator and put the stepper elsewhere. `Stepped`
lists what a single transition can do to a stepper in order, guards
included, and what it answers; `exists_stepped` says that nothing else
happens. Two facts about steppers of hosts are read off that list: they
stay in order, and the only faults are those of a transition taken too
early or too late (`perform_standing`).
-/

namespace DialogueScript

namespace Traversal

/-- The transitions a host can ask for. -/
inductive Stepping
  | start
  | enter
  | skip
  | exit
  | finish
  | next
deriving Repr, DecidableEq

/-- What a host can do with a stepper. -/
inductive Operation
  | step (op : Stepping)
  /-- Draws so many events from the iterator, or as many as there are. -/
  | draw (count : Nat)
  | restore (state : State)

/-- What a host is answered. -/
inductive Answer
  /-- No event means that the transition does not apply. -/
  | stepped (result : Except StepError (Option Event))
  | drawn (results : List (Except StepError Event))
  | restored (result : Except StepError Unit)

/-- A fault is in an answer. -/
def Answer.HasFault (e : StepError) : Answer → Prop
  | .stepped result => result = .error e
  | .drawn results => .error e ∈ results
  | .restored result => result = .error e

namespace Stepper

/-- The answer of a transition and the stepper behind it. A fault leaves the
stepper as it was. -/
def settle {α : Type} (s : Stepper) (answer : α → Option Event) :
    Except StepError (α × Stepper) → Except StepError (Option Event) × Stepper
  | .ok (a, s') => (.ok (answer a), s')
  | .error e => (.error e, s)

/-- Takes a transition. -/
def step (s : Stepper) : Stepping → Except StepError (Option Event) × Stepper
  | .start => s.settle some s.start
  | .enter => s.settle id s.enter
  | .skip => s.settle id s.skip
  | .exit => s.settle some s.exit
  | .finish => s.settle some (.ok s.finish)
  | .next => s.settle some s.next

/-- Does what a host asks. -/
def perform (s : Stepper) : Operation → Answer × Stepper
  | .step op => (.stepped (s.step op).1, (s.step op).2)
  | .draw count => (.drawn (s.take count).1, (s.take count).2)
  | .restore state => (.restored (s.restore state).1, (s.restore state).2)

/-- The stepper behind operations one after the other. -/
def after (s : Stepper) (ops : List Operation) : Stepper :=
  ops.foldl (fun s op => (s.perform op).2) s

/-- A stepper as a host comes to have it: fresh, or from a state on. -/
def opened (root : Instruction) : Option State → Except StepError Stepper
  | none => .ok (fresh root)
  | some st => ofState root st

end Stepper

/-- What a transition does: the state it is taken in, its answer, and the
state behind it. By hand a transition keeps the flag, whichever it is; `next`
alone makes a move that sets it. -/
inductive Stepped (root : Instruction) :
    Stepping → State → Except StepError (Option Event) → State → Prop
  /-- `next` makes a move of the traversal. -/
  | moved {st st' : State} {e : Event} :
      Moves root st e st' → Stepped root .next st (.ok (some e)) st'
  /-- Once the traversal is over nothing happens. -/
  | idle {op : Stepping} {st : State} :
      st.done = true → op ≠ .start → op ≠ .finish → Stepped root op st (.ok (some .idle)) st
  | notStarted {op : Stepping} {x : Bool} :
      op = .enter ∨ op = .skip ∨ op = .exit →
      Stepped root op ⟨false, none, x⟩ (.error .notStarted) ⟨false, none, x⟩
  | alreadyStarted {st : State} :
      st.done = true ∨ st.path.isSome = true → Stepped root .start st (.error .alreadyStarted) st
  /-- There is nothing to enter. -/
  | leaf {p : Path} {x : Bool} {n : Instruction} :
      root.resolve p = some n → n.children = none →
      Stepped root .enter ⟨false, some p, x⟩ (.ok none) ⟨false, some p, x⟩
  /-- There is nothing to skip to. -/
  | last {p : Path} {i : Nat} {x : Bool} {m : Instruction} {cs : List Instruction} :
      root.resolve p = some m → m.children = some cs → cs.length = i + 1 →
      Stepped root .skip ⟨false, some (p ++ [i]), x⟩ (.ok none) ⟨false, some (p ++ [i]), x⟩
  | started {x : Bool} :
      Stepped root .start ⟨false, none, x⟩ (.ok (some ⟨.start, some root, some []⟩))
        ⟨false, some [], x⟩
  | entered {p : Path} {x : Bool} {c : Instruction} :
      root.resolve (p ++ [0]) = some c →
      Stepped root .enter ⟨false, some p, x⟩ (.ok (some ⟨.enter, some c, some (p ++ [0])⟩))
        ⟨false, some (p ++ [0]), x⟩
  | skipped {p : Path} {i : Nat} {x : Bool} {c : Instruction} :
      root.resolve (p ++ [i + 1]) = some c →
      Stepped root .skip ⟨false, some (p ++ [i]), x⟩
        (.ok (some ⟨.skip, some c, some (p ++ [i + 1])⟩)) ⟨false, some (p ++ [i + 1]), x⟩
  | exited {p : Path} {i : Nat} {x : Bool} {m : Instruction} :
      root.resolve p = some m →
      Stepped root .exit ⟨false, some (p ++ [i]), x⟩ (.ok (some ⟨.exit, some m, some p⟩))
        ⟨false, some p, x⟩
  /-- Out of the tree, at once or from the root. -/
  | finished {op : Stepping} {st : State} :
      op = .finish ∨ (op = .skip ∨ op = .exit) ∧ st.path = some [] →
      Stepped root op st (.ok (some .finished)) ⟨true, none, st.exiting⟩

variable {root n m c : Instruction} {cs : List Instruction} {p : Path} {i : Nat} {x : Bool}
variable {st st' : State} {op : Stepping} {r : Except StepError (Option Event)}

/-! ## A single transition -/

namespace Stepper

/-- A transition of a stepper that is over, but for ending it once more. -/
theorem step_standing_of_done (hfits : st.Fits root) (hdone : st.done = true)
    (hop : op ≠ .finish) :
    ∃ r, (standing root st).step op = (r, standing root st) ∧ Stepped root op st r st := by
  obtain ⟨done, path, x⟩ := st
  cases hdone
  cases hfits.path_eq_none rfl
  cases op with
  | start => exact ⟨_, rfl, .alreadyStarted (.inl rfl)⟩
  | finish => exact absurd rfl hop
  | enter | skip | exit | next => exact ⟨_, rfl, .idle rfl (by simp) hop⟩

/-- A transition of a stepper that has not begun. -/
theorem step_standing_none (hop : op ≠ .finish) :
    ∃ r st', (standing root ⟨false, none, x⟩).step op = (r, standing root st') ∧
      Stepped root op ⟨false, none, x⟩ r st' := by
  cases op with
  | start => exact ⟨_, _, rfl, .started⟩
  | finish => exact absurd rfl hop
  | next => exact ⟨_, _, rfl, .moved .start⟩
  | enter | skip | exit => exact ⟨_, _, rfl, .notStarted (by simp)⟩

/-- Entering by hand, from a path of the tree. -/
theorem step_standing_enter (hn : root.resolve p = some n) :
    ∃ r st', (standing root ⟨false, some p, x⟩).step .enter = (r, standing root st') ∧
      Stepped root .enter ⟨false, some p, x⟩ r st' := by
  unfold step
  cases hcs : n.children with
  | none =>
    rw [enter_standing_leaf hn hcs]
    exact ⟨_, _, rfl, .leaf hn hcs⟩
  | some cs =>
    obtain ⟨form, c, cs, -, rfl⟩ := Instruction.children_eq_some hcs
    rw [enter_standing hn hcs]
    exact ⟨_, _, rfl, .entered (Instruction.resolve_child hn hcs rfl)⟩

/-- Skipping by hand, from a path of the tree. -/
theorem step_standing_skip (hn : root.resolve p = some n) :
    ∃ r st', (standing root ⟨false, some p, x⟩).step .skip = (r, standing root st') ∧
      Stepped root .skip ⟨false, some p, x⟩ r st' := by
  rcases List.eq_nil_or_concat p with rfl | ⟨q, i, rfl⟩
  · exact ⟨_, _, rfl, .finished (by simp)⟩
  rw [List.concat_eq_append] at hn ⊢
  obtain ⟨m, cs, hm, hcs, hi⟩ := Instruction.exists_parent_of_resolve hn
  unfold step
  cases hc : cs[i + 1]? with
  | some c =>
    rw [skip_standing hm hcs hc]
    exact ⟨_, _, rfl, .skipped (Instruction.resolve_child hm hcs hc)⟩
  | none =>
    have hlast := length_eq_of_getElem? hi hc
    rw [skip_standing_last hm hcs hlast]
    exact ⟨_, _, rfl, .last hm hcs hlast⟩

/-- Exiting by hand, from a path of the tree. -/
theorem step_standing_exit (hn : root.resolve p = some n) :
    ∃ r st', (standing root ⟨false, some p, x⟩).step .exit = (r, standing root st') ∧
      Stepped root .exit ⟨false, some p, x⟩ r st' := by
  rcases List.eq_nil_or_concat p with rfl | ⟨q, i, rfl⟩
  · exact ⟨_, _, rfl, .finished (by simp)⟩
  rw [List.concat_eq_append] at hn ⊢
  obtain ⟨m, cs, hm, -, -⟩ := Instruction.exists_parent_of_resolve hn
  unfold step
  rw [exit_standing hm]
  exact ⟨_, _, rfl, .exited hm⟩

/-- **A transition of a stepper in order is one of the listed ones.** -/
theorem exists_stepped (hfits : st.Fits root) (op : Stepping) :
    ∃ r st', (standing root st).step op = (r, standing root st') ∧ Stepped root op st r st' := by
  by_cases hop : op = .finish
  · subst hop
    exact ⟨_, _, rfl, .finished (by simp)⟩
  cases hdone : st.done with
  | true =>
    obtain ⟨r, hr, hstepped⟩ := step_standing_of_done hfits hdone hop
    exact ⟨r, st, hr, hstepped⟩
  | false =>
    rcases hfits.cases hdone with ⟨x, rfl⟩ | ⟨p, x, n, rfl, hn⟩
    · exact step_standing_none hop
    cases op with
    | start => exact ⟨_, _, rfl, .alreadyStarted (.inr rfl)⟩
    | enter => exact step_standing_enter hn
    | skip => exact step_standing_skip hn
    | exit => exact step_standing_exit hn
    | finish => exact absurd rfl hop
    | next =>
      obtain ⟨e, st', hmoves, hnext⟩ := exists_moves hfits rfl
      exact ⟨_, st', by rw [step, hnext]; rfl, .moved hmoves⟩

end Stepper

/-- **A transition leads from a state that fits to one that fits.** -/
theorem Stepped.fits (h : Stepped root op st r st') (hfits : st.Fits root) : st'.Fits root := by
  cases h with
  | moved hmoves => exact hmoves.fits
  | started => exact State.fits_of_resolve rfl
  | entered hc | skipped hc | exited hc => exact State.fits_of_resolve hc
  | finished => exact State.fits_of_none _ _
  | idle | notStarted | alreadyStarted | leaf | last => exact hfits

/-- **The faults of a transition** are those of one taken too early or too
late, and `next` has none. -/
theorem Stepped.fault {e : StepError} (h : Stepped root op st (.error e) st') :
    op ≠ .next ∧ (e = .notStarted ∨ e = .alreadyStarted) := by
  cases h with
  | notStarted hop => exact ⟨by rcases hop with rfl | rfl | rfl <;> simp, .inl rfl⟩
  | alreadyStarted => exact ⟨by simp, .inr rfl⟩

/-! ## Operations one after the other -/

namespace Stepper

/-- A state is refused for being over with a path, or for its path. -/
theorem restore_ne_unresolvable (s : Stepper) (st : State) (q : Path) :
    (s.restore st).1 ≠ .error (.unresolvable q) := by
  obtain ⟨done, path, x⟩ := st
  cases path with
  | none => simp [restore]
  | some p =>
    cases done with
    | true => simp [restore]
    | false => cases hn : s.root.resolve p <;> simp [restore, hn]

/-- Nor is a stepper refused to a host for anything else. -/
theorem opened_ne_unresolvable (root : Instruction) (place : Option State) (q : Path) :
    opened root place ≠ .error (.unresolvable q) := by
  cases place with
  | none => simp [opened]
  | some st =>
    have hrestore := restore_ne_unresolvable (fresh root) st q
    intro h
    rw [opened, ofState] at h
    split at h
    · cases h
    · rename_i e s hs
      cases h
      exact hrestore (by rw [hs])

/-- **What an operation does to a stepper in order**: it stays in order, over
the same tree, and the answer holds no step that leads out of the tree. -/
theorem perform_standing (hfits : st.Fits root) (op : Operation) :
    ∃ st', st'.Fits root ∧ ((standing root st).perform op).2 = standing root st' ∧
      ∀ q, ¬ ((standing root st).perform op).1.HasFault (.unresolvable q) := by
  cases op with
  | step op =>
    obtain ⟨r, st', hstep, hstepped⟩ := exists_stepped hfits op
    refine ⟨st', hstepped.fits hfits, by rw [perform, hstep], fun q hq => ?_⟩
    rw [perform, hstep] at hq
    cases hq
    rcases hstepped.fault.2 with h | h <;> cases h
  | draw count =>
    -- what is drawn is a piece of what lies ahead, and holds events only
    obtain ⟨st', hfits', -, htake⟩ := take_standing hfits count
    refine ⟨st', hfits', by rw [perform, htake], fun q hq => ?_⟩
    rw [perform, htake] at hq
    obtain ⟨e, -, he⟩ := List.mem_map.1 hq
    cases he
  | restore state =>
    by_cases h : state.Fits root
    · have hrestore := restore_of_fits (s := standing root st) h
      refine ⟨state, h, by rw [perform, hrestore]; rfl, fun q hq => ?_⟩
      rw [perform, hrestore] at hq
      cases hq
    · obtain ⟨e, hrestore⟩ := restore_of_not_fits (s := standing root st) h
      refine ⟨st, hfits, by rw [perform, hrestore], fun q hq => ?_⟩
      exact restore_ne_unresolvable _ state q hq

/-- **Whatever a host does, its stepper stays in order.** -/
theorem after_standing (hfits : st.Fits root) (ops : List Operation) :
    ∃ st', st'.Fits root ∧ (standing root st).after ops = standing root st' := by
  induction ops generalizing st with
  | nil => exact ⟨st, hfits, rfl⟩
  | cons op ops ih =>
    obtain ⟨st₁, hfits₁, hperform, -⟩ := perform_standing hfits op
    obtain ⟨st', hfits', hafter⟩ := ih hfits₁
    refine ⟨st', hfits', ?_⟩
    rw [after, List.foldl_cons, hperform]
    exact hafter

/-- A stepper is in order as a host comes to have it. -/
theorem opened_standing {s : Stepper} {place : Option State} (h : opened root place = .ok s) :
    ∃ st, st.Fits root ∧ s = standing root st := by
  cases place with
  | none =>
    cases h
    exact ⟨{}, State.fits_of_none _ _, rfl⟩
  | some st =>
    by_cases hfits : st.Fits root
    · rw [opened, ofState_of_fits hfits] at h
      cases h
      exact ⟨st, hfits, rfl⟩
    · obtain ⟨e, he⟩ := ofState_of_not_fits hfits
      rw [opened, he] at h
      cases h

end Stepper

/-! ## What holds of a stepper in order -/

/-- The parts of a stepper agree with each other and with the tree. -/
structure Stepper.Consistent (root : Instruction) (s : Stepper) : Prop where
  root_eq : s.root = root
  of_done : s.done = true → s.path = none ∧ s.node = none
  of_path : ∀ p, s.path = some p → ∃ n, root.resolve p = some n ∧ s.node = some n
  of_no_path : s.path = none → s.node = none

/-- The largest index of sixty-four bits. -/
def indexLimit : Nat := 18446744073709551615

mutual

/-- The length of the longest list of children in a tree. -/
def widest : Instruction → Nat
  | .composite _ cs => max cs.length (widestOf cs)
  | _ => 0

/-- The length of the longest list of children in any of several trees. -/
def widestOf : List Instruction → Nat
  | [] => 0
  | c :: cs => max (widest c) (widestOf cs)

end

/-- No tree of several is wider than all together. -/
theorem widest_le_widestOf (h : cs[i]? = some c) : widest c ≤ widestOf cs := by
  induction cs generalizing i with
  | nil => simp at h
  | cons d cs ih =>
    rw [widestOf]
    cases i with
    | zero =>
      cases h
      exact Nat.le_max_left _ _
    | succ i => exact Nat.le_trans (ih h) (Nat.le_max_right _ _)

/-- **No list of children is longer than the tree is wide.** -/
theorem length_le_widest (hn : root.resolve p = some n) (hcs : n.children = some cs) :
    cs.length ≤ widest root := by
  induction p generalizing root with
  | nil =>
    cases hn
    obtain ⟨form, c, rest, rfl, -⟩ := Instruction.children_eq_some hcs
    rw [widest]
    exact Nat.le_max_left _ _
  | cons i p ih =>
    cases hds : root.children with
    | none => simp [Instruction.resolve, hds] at hn
    | some ds =>
      rw [Instruction.resolve_cons hds, Option.bind_eq_some_iff] at hn
      obtain ⟨d, hd, hn⟩ := hn
      obtain ⟨form, c, rest, rfl, -⟩ := Instruction.children_eq_some hds
      have hbelow := ih hn
      have hd' := widest_le_widestOf hd
      rw [widest]
      omega

/-- An index on a path of the tree is one of a list of children. -/
theorem lt_widest_of_mem (hn : root.resolve p = some n) (hi : i ∈ p) : i < widest root := by
  obtain ⟨q, r, rfl⟩ := List.append_of_mem hi
  rw [List.append_cons, Instruction.resolve_append, Option.bind_eq_some_iff] at hn
  obtain ⟨m, hm, -⟩ := hn
  obtain ⟨parent, cs, hparent, hcs, hchild⟩ := Instruction.exists_parent_of_resolve hm
  obtain ⟨hlt, -⟩ := List.getElem?_eq_some_iff.1 hchild
  exact Nat.lt_of_lt_of_le hlt (length_le_widest hparent hcs)

namespace Stepper

/-- **A stepper in order is consistent.** -/
theorem consistent_standing (hfits : st.Fits root) : (standing root st).Consistent root := by
  have hnone : st.path = none → (standing root st).node = none := by
    intro hpath
    simp [standing, hpath]
  refine ⟨rfl, fun hdone => ?_, fun p hp => ?_, hnone⟩
  · have hpath : st.path = none := hfits.path_eq_none hdone
    exact ⟨hpath, hnone hpath⟩
  · have hpath : st.path = some p := hp
    obtain ⟨n, hn⟩ := hfits.resolves p hpath
    exact ⟨n, hn, by simp [standing, hpath, hn]⟩

/-- **The index behind a stepper's own is within its list of siblings**, so
where lists are shorter than the limit it can be counted. -/
theorem index_standing (hfits : st.Fits root) (hwidest : widest root < indexLimit)
    (hi : (standing root st).path.bind List.getLast? = some i) : i + 1 ≤ indexLimit := by
  obtain ⟨p, hp, hlast⟩ := Option.bind_eq_some_iff.1 hi
  obtain ⟨n, hn⟩ := hfits.resolves p hp
  have hlt := lt_widest_of_mem hn (List.mem_of_getLast? hlast)
  omega

end Stepper

end Traversal

end DialogueScript
