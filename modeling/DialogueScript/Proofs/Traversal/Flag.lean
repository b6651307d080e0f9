import DialogueScript.Proofs.Traversal.Operations
/-!
# What the flag of a stepper records

The flag `exiting` is to say that a stepper came to its place from below,
so that `next` does not enter again what it has just left. A `Journal`
keeps beside a stepper the moves it has made, and by which transition each
was asked for. It shows what the flag records over every interleaving: the
last move that `next` made, whatever was done by hand since
(`Traced.exiting_eq`). That is the last move at all unless a host entered,
skipped or exited by hand, and then the flag can be wrong both ways.
-/

namespace DialogueScript

namespace Traversal

/-- A transition that changed the place of a stepper, and what asked for it. -/
structure Move where
  op : Stepping
  action : Action
deriving Repr, DecidableEq

/-- Whether a transition comes to a place in the tree. -/
def Action.moves : Action → Bool
  | .start => true
  | .enter => true
  | .skip => true
  | .exit => true
  | .finish => false
  | .idle => false

/-- The move in the answer of a transition, if it made one. -/
def moveOf (op : Stepping) : Except StepError (Option Event) → List Move
  | .ok (some e) => if e.action.moves then [⟨op, e.action⟩] else []
  | _ => []

/-- A stepper and the moves it has made, the latest first. -/
structure Journal where
  stepper : Stepper
  moves : List Move := []

namespace Journal

/-- Takes a transition and notes the move. -/
def step (j : Journal) (op : Stepping) : Journal :=
  ⟨(j.stepper.step op).2, moveOf op (j.stepper.step op).1 ++ j.moves⟩

/-- What a host has done with a fresh stepper. -/
def of (root : Instruction) (ops : List Stepping) : Journal :=
  ops.foldl step ⟨.fresh root, []⟩

/-- Whether the last move came from below. -/
def exited (j : Journal) : Bool :=
  j.moves.head?.any (·.action == .exit)

/-- Whether the last move that `next` made came from below. -/
def nextExited (j : Journal) : Bool :=
  (j.moves.find? (·.op == .next)).any (·.action == .exit)

/-- Whether the last move was to a child, a sibling or the parent and asked
for by hand. -/
def byHand (j : Journal) : Bool :=
  j.moves.head?.any fun m => m.op != .next && m.action != .start

/-- The stepper of a journal stands at a state, and the journal tells how it
came there, as long as it is not over. -/
structure Traced (root : Instruction) (st : State) (j : Journal) : Prop where
  fits : st.Fits root
  stepper_eq : j.stepper = .standing root st
  moves_eq_nil : st.done = false → st.path = none → j.moves = []
  /-- The move to the root is the first. -/
  eq_nil_of_start : ∀ m rest, j.moves = m :: rest → m.action = .start → rest = []
  exiting_eq : st.done = false → st.exiting = j.nextExited

end Journal

variable {root n c : Instruction} {cs : List Instruction} {p : Path} {x : Bool}
variable {st st' : State} {op : Stepping} {r : Except StepError (Option Event)} {e : Event}
variable {j : Journal}

/-! ## How a journal goes on -/

/-- A transition that is not asked of `next` does not count as a move of it. -/
theorem nextExited_cons_of_ne {m : Move} {s : Stepper} (h : m.op ≠ .next) :
    Journal.nextExited ⟨s, m :: j.moves⟩ = j.nextExited := by
  simp [Journal.nextExited, h]

theorem nextExited_cons_next {a : Action} {moves : List Move} {s : Stepper} :
    Journal.nextExited ⟨s, ⟨.next, a⟩ :: moves⟩ = (a == .exit) := by
  simp [Journal.nextExited]

namespace Journal

/-- A journal whose stepper is over goes on so. -/
theorem Traced.finish {moves : List Move} (htraced : Traced root st j)
    (h : moves = j.moves) (x : Bool) :
    Traced root ⟨true, none, x⟩ ⟨.standing root ⟨true, none, x⟩, moves⟩ :=
  ⟨State.fits_of_none _ _, rfl, nofun, fun m rest hm => htraced.eq_nil_of_start m rest (h ▸ hm),
    nofun⟩

/-- **A move by hand keeps the flag**, and the journal counts it as none of
`next`. -/
theorem Traced.hand {q : Path} {m : Move} (htraced : Traced root ⟨false, some p, x⟩ j)
    (hn : root.resolve q = some n) (hop : m.op ≠ .next) (hstart : m.action ≠ .start) :
    Traced root ⟨false, some q, x⟩ ⟨.standing root ⟨false, some q, x⟩, m :: j.moves⟩ := by
  refine ⟨State.fits_of_resolve hn, rfl, nofun, ?_, fun _ => ?_⟩
  · intro m' rest hm hm'
    cases hm
    exact absurd hm' hstart
  · rw [nextExited_cons_of_ne hop]
    exact htraced.exiting_eq rfl

/-- The move to the root finds the flag down, and leaves it so. -/
theorem Traced.start (htraced : Traced root ⟨false, none, x⟩ j) (op : Stepping) :
    Traced root ⟨false, some [], x⟩
      ⟨.standing root ⟨false, some [], x⟩, ⟨op, .start⟩ :: j.moves⟩ := by
  have hmoves : j.moves = [] := htraced.moves_eq_nil rfl rfl
  have hx : x = false := by
    have hexiting := htraced.exiting_eq rfl
    simpa [nextExited, hmoves] using hexiting
  refine ⟨State.fits_of_resolve rfl, rfl, nofun, ?_, fun _ => ?_⟩
  · intro m rest hm _
    cases hm
    exact hmoves
  · by_cases hop : op = .next
    · rw [hop, nextExited_cons_next]
      exact hx
    · rw [nextExited_cons_of_ne hop]
      exact htraced.exiting_eq rfl

/-- **A move of `next` below the root sets the flag to what it was.** -/
theorem traced_next {q : Path} {a : Action} (moves : List Move) (hn : root.resolve q = some n)
    (hstart : a ≠ .start) (hx : x = (a == .exit)) :
    Traced root ⟨false, some q, x⟩ ⟨.standing root ⟨false, some q, x⟩, ⟨.next, a⟩ :: moves⟩ := by
  refine ⟨State.fits_of_resolve hn, rfl, nofun, ?_, fun _ => ?_⟩
  · intro m rest hm hm'
    cases hm
    exact absurd hm' hstart
  · rw [nextExited_cons_next]
    exact hx

/-- What is no move leaves the journal as it was. -/
theorem Traced.stay (htraced : Traced root st j) :
    Traced root st ⟨.standing root st, j.moves⟩ :=
  ⟨htraced.fits, rfl, htraced.moves_eq_nil, htraced.eq_nil_of_start, htraced.exiting_eq⟩

/-- **A transition keeps the journal of a stepper true.** -/
theorem Traced.step (htraced : Traced root st j) (op : Stepping) :
    ∃ st', Traced root st' (j.step op) := by
  obtain ⟨r, st', hstep, hstepped⟩ := Stepper.exists_stepped htraced.fits op
  refine ⟨st', ?_⟩
  rw [Journal.step, htraced.stepper_eq, hstep]
  cases hstepped with
  | idle | notStarted | alreadyStarted | leaf | last => exact htraced.stay
  | finished => exact htraced.finish rfl _
  | started => exact htraced.start .start
  | entered hc => exact htraced.hand hc (by simp) (by simp)
  | skipped hc => exact htraced.hand hc (by simp) (by simp)
  | exited hm => exact htraced.hand hm (by simp) (by simp)
  | moved hmoves =>
    cases hmoves with
    | start => exact htraced.start .next
    | enter hn hcs =>
      exact traced_next _ (Instruction.resolve_child hn hcs rfl) (by simp) rfl
    | skip hm hcs _ _ hc =>
      exact traced_next _ (Instruction.resolve_child hm hcs hc) (by simp) rfl
    | exit hm => exact traced_next _ hm (by simp) rfl
    | finish => exact htraced.finish rfl _

/-- **The journal of a fresh stepper is true**, whatever transitions a host has
asked for. -/
theorem exists_traced (root : Instruction) (ops : List Stepping) :
    ∃ st, Traced root st (of root ops) := by
  have hfresh : Traced root {} ⟨.fresh root, []⟩ :=
    ⟨State.fits_of_none _ _, rfl, fun _ _ => rfl, nofun, fun _ => rfl⟩
  have hfold : ∀ (ops : List Stepping) (j : Journal) (st : State), Traced root st j →
      ∃ st', Traced root st' (ops.foldl Journal.step j) := by
    intro ops
    induction ops with
    | nil => exact fun j st h => ⟨st, h⟩
    | cons op ops ih =>
      intro j st h
      obtain ⟨st', h'⟩ := h.step op
      exact ih _ st' h'
  exact hfold ops _ _ hfresh

/-- Where the last move was not made by hand, it is the last that `next`
made, or the one to the root. -/
theorem Traced.exited_eq (htraced : Traced root st j) (hhand : j.byHand = false) :
    j.exited = j.nextExited := by
  cases hmoves : j.moves with
  | nil => simp [exited, nextExited, hmoves]
  | cons m rest =>
    by_cases hop : m.op = .next
    · simp [exited, nextExited, hmoves, hop]
    · have hstart : m.action = .start := by simpa [byHand, hmoves, hop] using hhand
      have hrest := htraced.eq_nil_of_start m rest hmoves hstart
      simp [exited, nextExited, hmoves, hop, hstart, hrest]

end Journal

/-! ## What `next` makes of the flag -/

/-- With the flag up, `next` comes to nothing at or below its place. -/
theorem not_below_of_moves (h : Moves root ⟨false, some p, true⟩ e st') :
    e.action ≠ .enter ∧ ∀ q, e.path = some q → ¬ p <+: q := by
  cases h with
  | skip =>
    refine ⟨by simp, fun q hq hprefix => ?_⟩
    cases hq
    have hlast := (List.prefix_append_right_inj _).1 hprefix
    simp at hlast
  | exit =>
    refine ⟨by simp, fun q hq hprefix => ?_⟩
    cases hq
    have hlength := hprefix.length_le
    rw [List.length_append, List.length_singleton] at hlength
    omega
  | finish => exact ⟨by simp [Event.finished], nofun⟩

/-- With the flag down, `next` enters what can be entered. -/
theorem enter_of_moves (h : Moves root ⟨false, some p, false⟩ e st')
    (hn : root.resolve p = some n) (hcs : n.children = some (c :: cs)) :
    e = ⟨.enter, some c, some (p ++ [0])⟩ := by
  cases h with
  | enter hn' hcs' =>
    cases hn.symm.trans hn'
    cases hcs.symm.trans hcs'
    rfl
  | skip hm hms hi hx =>
    rcases hx with hx | hx
    · cases hx
    · cases hn.symm.trans (Instruction.resolve_child hm hms hi)
      rw [hcs] at hx
      cases hx
  | exit hm hms hi hx =>
    rcases hx with hx | hx
    · cases hx
    · cases hn.symm.trans (Instruction.resolve_child hm hms hi)
      rw [hcs] at hx
      cases hx
  | finish hx =>
    cases hn
    rcases hx with hx | hx
    · cases hx
    · rw [hcs] at hx
      cases hx

/-- **The flag records the last move that `next` made.** Over every
interleaving of transitions, as long as the traversal is not over, it is up
exactly if that move came from below. So it tells how the stepper came to its
place exactly if the last move at all came from below or not as the last move
of `next` did, which is so unless the last move was made by hand. Then `next`
comes to nothing at or below a place that was exited to, and enters whatever
can be entered at a place that was come to otherwise. -/
theorem Journal.exiting_eq_nextExited (root : Instruction) (ops : List Stepping)
    (hj : of root ops = j) (hdone : j.stepper.done = false) :
    j.stepper.exiting = j.nextExited ∧
    (j.stepper.exiting = j.exited ↔ j.exited = j.nextExited) ∧
    (j.byHand = false →
      j.stepper.exiting = j.exited ∧
      (j.exited = true → ∃ p e s', j.stepper.path = some p ∧ j.stepper.next = .ok (e, s') ∧
        e.action ≠ .enter ∧ ∀ q, e.path = some q → ¬ p <+: q) ∧
      (j.exited = false → ∀ p n c cs, j.stepper.path = some p → root.resolve p = some n →
        n.children = some (c :: cs) →
        ∃ s', j.stepper.next = .ok (⟨.enter, some c, some (p ++ [0])⟩, s'))) := by
  obtain ⟨st, htraced⟩ := exists_traced root ops
  rw [hj] at htraced
  rw [htraced.stepper_eq] at hdone ⊢
  have hflag : st.exiting = j.nextExited := htraced.exiting_eq hdone
  have hexiting : (Stepper.standing root st).exiting = j.nextExited := hflag
  refine ⟨hexiting, by rw [hexiting]; exact eq_comm, fun hhand => ?_⟩
  have hexited := htraced.exited_eq hhand
  refine ⟨by rw [hexiting, hexited], fun h => ?_, fun h p n c cs hp hn hcs => ?_⟩
  · rcases htraced.fits.cases hdone with ⟨x, rfl⟩ | ⟨p, x, n, rfl, hn⟩
    · -- nothing has been exited to before the root was come to
      simp [exited, htraced.moves_eq_nil rfl rfl] at h
    · obtain rfl : x = true := hflag.trans (hexited.symm.trans h)
      obtain ⟨e, st', hmoves, hnext⟩ := Stepper.exists_moves htraced.fits rfl
      obtain ⟨haction, hbelow⟩ := not_below_of_moves hmoves
      exact ⟨p, e, _, rfl, hnext, haction, hbelow⟩
  · obtain ⟨done, path, x⟩ := st
    obtain rfl : done = false := hdone
    obtain rfl : path = some p := hp
    obtain rfl : x = false := hflag.trans (hexited.symm.trans h)
    obtain ⟨e, st', hmoves, hnext⟩ := Stepper.exists_moves htraced.fits rfl
    cases enter_of_moves hmoves hn hcs
    exact ⟨_, hnext⟩

/-- Into a block and back by `next`, with a skip and an entry by hand before
that: the flag is up and the block is not entered again. -/
theorem Journal.exiting_eq_nextExited_of_next :
    let root : Instruction := .composite .script [.pause, .composite .eachBlock [.pause], .pause]
    let j := of root [.start, .next, .skip, .enter, .next]
    j.stepper.done = false ∧ j.byHand = false ∧ j.exited = true ∧ j.stepper.exiting = true ∧
      ∃ p e s', j.stepper.path = some p ∧ j.stepper.next = .ok (e, s') ∧ e.action ≠ .enter ∧
        ∀ q, e.path = some q → ¬ p <+: q :=
  have h := exiting_eq_nextExited
    (.composite .script [.pause, .composite .eachBlock [.pause], .pause])
    [.start, .next, .skip, .enter, .next] rfl rfl
  ⟨rfl, rfl, rfl, (h.2.2 rfl).1.trans rfl, (h.2.2 rfl).2.1 rfl⟩

/-- **By hand the flag goes wrong both ways.** Exited to by hand, a place is
entered again: the flag stays down. Skipped to by hand behind an exit of
`next`, a block is left out: the flag stays up. -/
theorem Journal.exiting_ne_exited_by_hand :
    let block : Instruction := .composite .eachBlock [.pause]
    let j := of block [.start, .enter, .exit]
    let k := of (.composite .script [block, block]) [.next, .next, .next, .next, .skip]
    (j.stepper.done = false ∧ j.exited = true ∧ j.stepper.exiting = false ∧
      j.stepper.next.map (fun r => (r.1.action, r.1.path)) = .ok (.enter, some [0])) ∧
    k.stepper.done = false ∧ k.exited = false ∧ k.stepper.exiting = true ∧
      k.stepper.path = some [1] ∧
      k.stepper.next.map (fun r => (r.1.action, r.1.path)) = .ok (.exit, some []) :=
  ⟨⟨rfl, rfl, rfl, rfl⟩, rfl, rfl, rfl, rfl, rfl⟩

end Traversal

end DialogueScript
