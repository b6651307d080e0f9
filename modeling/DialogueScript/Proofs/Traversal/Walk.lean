import DialogueScript.Traversal.Stepper
/-!
# The walk through a tree, by recursion

`walk` says what a traversal does between coming to an instruction and
leaving it, with no path to keep and no flag: it follows the tree.
`climb` is what is left of a walk once the subtree at a path has been
gone through, and `exists_walk_eq` cuts a walk in two there. What the
stepper does, which keeps a path and a flag instead, is compared with
these in the files after this one.

A walk comes to a path once from above or from the side and at most once
from below (`pairwise_traversal`), so an event of it is known by its path
and its side.
-/

namespace DialogueScript

namespace Traversal

/-- The event that ends a traversal. -/
def Event.finished : Event := ⟨.finish, none, none⟩

/-- How a traversal comes to a child: the first is entered, and from there
it skips to the others. -/
def arrival : Nat → Action
  | 0 => .enter
  | _ + 1 => .skip

mutual

/-- What happens below an instruction at a path: its children one after the
other, and back to it from the last. -/
def walk : Instruction → Path → List Event
  | .composite form (c :: cs), p =>
    walkFrom (c :: cs) p 0 ++ [⟨.exit, some (.composite form (c :: cs)), some p⟩]
  | _, _ => []

/-- What happens at children of the instruction at a path, the first of which
has the given index. -/
def walkFrom : List Instruction → Path → Nat → List Event
  | [], _, _ => []
  | c :: cs, p, i =>
    ⟨arrival i, some c, some (p ++ [i])⟩ :: (walk c (p ++ [i]) ++ walkFrom cs p (i + 1))

end

/-- A whole traversal. -/
def traversal (root : Instruction) : List Event :=
  ⟨.start, some root, some []⟩ :: (walk root [] ++ [.finished])

/-- What is left of the walk below `n`, which stands at `p`, once the subtree
at `p ++ q` has been gone through. -/
def climb (n : Instruction) (p : Path) : Path → List Event
  | [] => []
  | i :: q =>
    match n.children with
    | none => []
    | some cs =>
      match cs[i]? with
      | none => []
      | some c =>
        climb c (p ++ [i]) q ++ walkFrom (cs.drop (i + 1)) p (i + 1) ++ [⟨.exit, some n, some p⟩]

variable {n m c : Instruction} {cs : List Instruction} {p : Path} {i : Nat} {e : Event}

/-! ## Equations -/

theorem arrival_eq (i : Nat) : arrival i = .enter ∨ arrival i = .skip := by
  cases i with
  | zero => exact .inl rfl
  | succ i => exact .inr rfl

theorem arrival_ne_exit (i : Nat) : arrival i ≠ .exit := by
  rcases arrival_eq i with h | h <;> simp [h]

/-- Nothing happens below a leaf. -/
theorem walk_of_leaf (h : n.children = none) : walk n p = [] := by
  rw [walk.eq_2]
  rintro form c cs rfl
  simp [Instruction.children] at h

/-- What happens below an instruction that can be entered. -/
theorem walk_of_children (h : n.children = some cs) :
    walk n p = walkFrom cs p 0 ++ [⟨.exit, some n, some p⟩] := by
  obtain ⟨form, c, rest, rfl, rfl⟩ := Instruction.children_eq_some h
  rw [walk]

/-- The first step down of a climb that has a step to take. -/
theorem climb_cons (hcs : n.children = some cs) (hc : cs[i]? = some c) (q : Path) :
    climb n p (i :: q) = climb c (p ++ [i]) q ++ walkFrom (cs.drop (i + 1)) p (i + 1) ++
      [⟨.exit, some n, some p⟩] := by
  rw [climb, hcs]
  simp only [hc]

/-- **A climb begins at the lowest level**: with the siblings behind the last
child of the path, and then back to the parent. -/
theorem climb_snoc {q : Path} (hm : n.resolve q = some m) (hcs : m.children = some cs)
    (hc : cs[i]? = some c) :
    climb n p (q ++ [i]) = walkFrom (cs.drop (i + 1)) (p ++ q) (i + 1) ++
      ⟨.exit, some m, some (p ++ q)⟩ :: climb n p q := by
  induction q generalizing n p with
  | nil =>
    cases hm
    simp [climb_cons hcs hc, climb]
  | cons j q ih =>
    cases hds : n.children with
    | none => simp [Instruction.resolve, hds] at hm
    | some ds =>
      rw [Instruction.resolve_cons hds, Option.bind_eq_some_iff] at hm
      obtain ⟨d, hd, hm⟩ := hm
      rw [List.cons_append, climb_cons hds hd, climb_cons hds hd, ih hm]
      simp

/-! ## How long a walk is -/

mutual

/-- A walk has fewer than two events for each instruction. -/
theorem length_walk_le : ∀ (n : Instruction) (p : Path), (walk n p).length + 2 ≤ 2 * n.size
  | .composite form (c :: cs), p => by
    have := length_walkFrom_le (c :: cs) p 0
    simp only [walk, Instruction.size, List.length_append, List.length_cons,
      List.length_nil] at this ⊢
    omega
  | .composite _ [], _ | .dialog _, _ | .expression _, _ | .pause, _ | .unknownCommand, _
  | .unknown, _ => by simp [walk, Instruction.size, Instruction.sizeList]

theorem length_walkFrom_le : ∀ (cs : List Instruction) (p : Path) (i : Nat),
    (walkFrom cs p i).length + cs.length ≤ 2 * Instruction.sizeList cs
  | [], p, i => by simp [walkFrom]
  | c :: cs, p, i => by
    have hc := length_walk_le c (p ++ [i])
    have hcs := length_walkFrom_le cs p (i + 1)
    simp only [walkFrom, Instruction.sizeList, List.length_append, List.length_cons]
    omega

end

/-- A whole traversal has at most two events for each instruction. -/
theorem length_traversal_le (root : Instruction) : (traversal root).length ≤ 2 * root.size := by
  have := length_walk_le root []
  simp only [traversal, List.length_cons, List.length_append, List.length_nil]
  omega

/-! ## Where the events of a walk are -/

mutual

/-- **An event of a walk carries the instruction at its path.** What comes
from above or from the side is below where the walk began. -/
theorem mem_walk : ∀ (n : Instruction) (p : Path) (e : Event), e ∈ walk n p →
    ∃ q m, n.resolve q = some m ∧ e.node = some m ∧ e.path = some (p ++ q) ∧
      (e.action = .exit ∨ q ≠ [] ∧ (e.action = .enter ∨ e.action = .skip))
  | .composite form (c :: cs), p, e, h => by
    rw [walk, List.mem_append, List.mem_singleton] at h
    rcases h with h | rfl
    · obtain ⟨j, q, d, m, hd, hm, hnode, hpath, haction⟩ := mem_walkFrom (c :: cs) p 0 e h
      refine ⟨j :: q, m, ?_, hnode, by simpa using hpath, ?_⟩
      · rw [Instruction.resolve_cons rfl, hd]
        exact hm
      · exact haction.imp id fun h => ⟨by simp, h⟩
    · exact ⟨[], _, rfl, rfl, by simp, .inl rfl⟩
  | .composite _ [], _, _, h | .dialog _, _, _, h | .expression _, _, _, h | .pause, _, _, h
  | .unknownCommand, _, _, h | .unknown, _, _, h => by simp [walk] at h

theorem mem_walkFrom : ∀ (cs : List Instruction) (p : Path) (i : Nat) (e : Event),
    e ∈ walkFrom cs p i → ∃ j q c m, cs[j]? = some c ∧ c.resolve q = some m ∧
      e.node = some m ∧ e.path = some (p ++ (i + j) :: q) ∧
      (e.action = .exit ∨ e.action = .enter ∨ e.action = .skip)
  | [], p, i, e, h => by simp [walkFrom] at h
  | c :: cs, p, i, e, h => by
    rw [walkFrom, List.mem_cons, List.mem_append] at h
    rcases h with rfl | h | h
    · exact ⟨0, [], c, c, rfl, rfl, rfl, rfl, .inr (arrival_eq i)⟩
    · obtain ⟨q, m, hm, hnode, hpath, haction⟩ := mem_walk c (p ++ [i]) e h
      exact ⟨0, q, c, m, rfl, hm, hnode, by simpa using hpath, haction.imp id And.right⟩
    · obtain ⟨j, q, d, m, hd, hm, hnode, hpath, haction⟩ := mem_walkFrom cs p (i + 1) e h
      exact ⟨j + 1, q, d, m, hd, hm, hnode, by rw [hpath, Nat.add_right_comm]; rfl, haction⟩

end

/-- Two events apart: they come to different paths, or to one path from
different sides. -/
def Event.Apart (a b : Event) : Prop :=
  a.path = b.path → ¬ (a.action = .exit ↔ b.action = .exit)

/-- Events at different paths are apart. -/
theorem apart_of_path_ne {a b : Event} (h : a.path ≠ b.path) : a.Apart b :=
  fun hp => absurd hp h

mutual

/-- **A walk comes to no path twice from the same side.** -/
theorem pairwise_walk : ∀ (n : Instruction) (p : Path), (walk n p).Pairwise Event.Apart
  | .composite form (c :: cs), p => by
    rw [walk, List.pairwise_append]
    refine ⟨pairwise_walkFrom (c :: cs) p 0, List.pairwise_singleton _ _, ?_⟩
    intro a ha b hb
    rw [List.mem_singleton] at hb
    obtain ⟨j, q, d, m, -, -, -, hpath, -⟩ := mem_walkFrom (c :: cs) p 0 a ha
    exact apart_of_path_ne (by simp [hb, hpath])
  | .composite _ [], _ | .dialog _, _ | .expression _, _ | .pause, _ | .unknownCommand, _
  | .unknown, _ => by simp [walk]

theorem pairwise_walkFrom : ∀ (cs : List Instruction) (p : Path) (i : Nat),
    (walkFrom cs p i).Pairwise Event.Apart
  | [], p, i => by simp [walkFrom]
  | c :: cs, p, i => by
    -- what is at a later sibling has a larger index behind `p`
    have hlater : ∀ {q : Path} {b : Event}, b ∈ walkFrom cs p (i + 1) →
        b.path ≠ some (p ++ i :: q) := by
      intro q b hb
      obtain ⟨j, r, d, m, -, -, -, hpath, -⟩ := mem_walkFrom cs p (i + 1) b hb
      rw [hpath]
      simp only [ne_eq, Option.some.injEq, List.append_cancel_left_eq, List.cons.injEq, not_and]
      omega
    rw [walkFrom, List.pairwise_cons, List.pairwise_append]
    refine ⟨?_, pairwise_walk c (p ++ [i]), pairwise_walkFrom cs p (i + 1), ?_⟩
    · intro b hb
      rw [List.mem_append] at hb
      rcases hb with hb | hb
      · obtain ⟨q, m, -, -, hpath, haction⟩ := mem_walk c (p ++ [i]) b hb
        rcases haction with hexit | ⟨hq, -⟩
        · exact fun _ h => arrival_ne_exit i (h.2 hexit)
        · exact apart_of_path_ne (by simp [hpath, hq.symm])
      · exact apart_of_path_ne (hlater hb).symm
    · intro a ha b hb
      obtain ⟨q, m, -, -, hpath, -⟩ := mem_walk c (p ++ [i]) a ha
      rw [List.append_assoc] at hpath
      exact apart_of_path_ne (hpath ▸ (hlater hb).symm)

end

/-- **An event of a traversal, but for the last, carries the instruction at
its path.** -/
theorem mem_traversal {root : Instruction} (h : e ∈ traversal root) (he : e.action ≠ .finish) :
    ∃ q m, e.path = some q ∧ e.node = some m ∧ root.resolve q = some m := by
  rw [traversal, List.mem_cons, List.mem_append, List.mem_singleton] at h
  rcases h with rfl | h | h
  · exact ⟨[], root, rfl, rfl, rfl⟩
  · obtain ⟨q, m, hm, hnode, hpath, -⟩ := mem_walk root [] e h
    exact ⟨q, m, hpath, hnode, hm⟩
  · exact absurd (h ▸ rfl) he

/-- **A traversal comes to no path twice from the same side.** -/
theorem pairwise_traversal (root : Instruction) : (traversal root).Pairwise Event.Apart := by
  rw [traversal, List.pairwise_cons, List.pairwise_append]
  refine ⟨?_, pairwise_walk root [], List.pairwise_singleton _ _, ?_⟩
  · intro b hb
    rw [List.mem_append, List.mem_singleton] at hb
    rcases hb with hb | rfl
    · obtain ⟨q, m, -, -, hpath, haction⟩ := mem_walk root [] b hb
      rcases haction with hexit | ⟨hq, -⟩
      · exact fun _ h => by simp [hexit] at h
      · exact apart_of_path_ne (by simpa [hpath] using hq.symm)
    · exact apart_of_path_ne (by simp [Event.finished])
  · intro a ha b hb
    rw [List.mem_singleton] at hb
    obtain ⟨q, m, -, -, hpath, -⟩ := mem_walk root [] a ha
    exact apart_of_path_ne (by simp [hb, hpath, Event.finished])

/-! ## Cutting a walk at a path -/

/-- What happens at children, cut where it comes to one of them. -/
theorem exists_walkFrom_eq (h : cs[i]? = some c) (p : Path) (k : Nat) :
    ∃ before, walkFrom cs p k = before ++ ⟨arrival (k + i), some c, some (p ++ [k + i])⟩ ::
      (walk c (p ++ [k + i]) ++ walkFrom (cs.drop (i + 1)) p (k + i + 1)) := by
  induction cs generalizing i k with
  | nil => simp at h
  | cons d cs ih =>
    cases i with
    | zero =>
      cases h
      exact ⟨[], by simp [walkFrom]⟩
    | succ i =>
      obtain ⟨before, hbefore⟩ := ih h (k + 1)
      refine ⟨⟨arrival k, some d, some (p ++ [k])⟩ :: (walk d (p ++ [k]) ++ before), ?_⟩
      rw [walkFrom, hbefore, Nat.add_right_comm k 1 i, Nat.add_assoc k i 1]
      simp

/-- **A walk, cut where it comes to an instruction below**: then it goes
through that instruction's own subtree, and climbs from there. -/
theorem exists_walk_eq {q : Path} (h : n.resolve (i :: q) = some m) (p : Path) :
    ∃ before a, (a = .enter ∨ a = .skip) ∧
      walk n p = before ++ ⟨a, some m, some (p ++ i :: q)⟩ ::
        (walk m (p ++ i :: q) ++ climb n p (i :: q)) := by
  induction q generalizing n p i with
  | nil =>
    obtain ⟨n', cs, hn, hcs, hc⟩ := Instruction.exists_parent_of_resolve (p := []) h
    cases hn
    obtain ⟨before, hbefore⟩ := exists_walkFrom_eq hc p 0
    rw [Nat.zero_add] at hbefore
    refine ⟨before, arrival i, arrival_eq i, ?_⟩
    rw [walk_of_children hcs, hbefore, climb_cons hcs hc]
    simp [climb]
  | cons j q ih =>
    cases hcs : n.children with
    | none => simp [Instruction.resolve, hcs] at h
    | some cs =>
      rw [Instruction.resolve_cons hcs, Option.bind_eq_some_iff] at h
      obtain ⟨c, hc, hm⟩ := h
      obtain ⟨before, hbefore⟩ := exists_walkFrom_eq hc p 0
      obtain ⟨inner, a, ha, hinner⟩ := ih hm (p ++ [i])
      rw [Nat.zero_add, hinner] at hbefore
      refine ⟨before ++ ⟨arrival i, some c, some (p ++ [i])⟩ :: inner, a, ha, ?_⟩
      rw [walk_of_children hcs, hbefore, climb_cons hcs hc]
      simp

/-- **A traversal, cut where it comes to an instruction from above or from
the side.** -/
theorem exists_traversal_eq {root : Instruction} (h : root.resolve p = some n) :
    ∃ before a, (a = .start ∨ a = .enter ∨ a = .skip) ∧
      traversal root = before ++ ⟨a, some n, some p⟩ ::
        (walk n p ++ climb root [] p ++ [.finished]) := by
  cases p with
  | nil =>
    cases h
    exact ⟨[], .start, .inl rfl, by simp [traversal, climb]⟩
  | cons i q =>
    obtain ⟨before, a, ha, hwalk⟩ := exists_walk_eq h []
    rw [List.nil_append] at hwalk
    refine ⟨⟨.start, some root, some []⟩ :: before, a, .inr ha, ?_⟩
    rw [traversal, hwalk]
    simp

/-- **A traversal, cut where it comes back to an instruction from below.** -/
theorem exists_traversal_eq_exit {root : Instruction} (h : root.resolve p = some n)
    (hcs : n.children = some cs) :
    ∃ before, traversal root = before ++ ⟨.exit, some n, some p⟩ ::
      (climb root [] p ++ [.finished]) := by
  obtain ⟨before, a, -, htraversal⟩ := exists_traversal_eq h
  refine ⟨before ++ ⟨a, some n, some p⟩ :: walkFrom cs p 0, ?_⟩
  rw [htraversal, walk_of_children hcs]
  simp

end Traversal

end DialogueScript
