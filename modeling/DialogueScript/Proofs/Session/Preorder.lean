import DialogueScript.Proofs.Session.Work
/-!
# What is left of a run, by the order of paths

Pre-order is the lexicographic order of paths, a path before those that
go on from it (`pairwise_below`). So what a traversal has still to come
upon from a path on can be told from the paths of the tree alone: it is
what lies behind the path (`visits_ahead`). Whether what is below the
path belongs to it depends on the side the traversal came from.

With the root in front, what is below it is every instruction of the tree
once, under the path that leads to it (`mem_inventory_iff`).
-/

namespace DialogueScript

open Traversal

/-- A path that is still to come from another on: it is later in pre-order, and
it is not below the other if the traversal came from there. -/
def Remains (p : Path) (exiting : Bool) (q : Path) : Prop :=
  p < q ∧ (exiting = true → ¬ p <+: q)

instance (p : Path) (exiting : Bool) (q : Path) : Decidable (Remains p exiting q) :=
  inferInstanceAs (Decidable (_ ∧ _))

variable {n m root : Instruction} {cs : List Instruction} {p q r : Path} {i : Nat} {x : Bool}
variable {w : Path × Instruction}

/-! ## Where work is -/

/-- What is come upon is where an event leads. -/
theorem exists_event_of_mem_visits {events : List Event} (h : w ∈ visits events) :
    ∃ e ∈ events, e.path = some w.1 ∧ e.action ≠ .exit := by
  obtain ⟨e, he, hvisited⟩ := List.mem_filterMap.1 h
  refine ⟨e, he, ?_⟩
  obtain ⟨action, node, path⟩ := e
  unfold Event.visited at hvisited
  split at hvisited
  · rename_i ha hp hn
    cases hvisited
    exact ⟨hp, by rw [ha]; nofun⟩
  · rename_i ha hp hn
    cases hvisited
    exact ⟨hp, by rw [ha]; nofun⟩
  · cases hvisited

/-- Work at children is at or below one of them. -/
theorem exists_index_of_mem_belowFrom (h : w ∈ belowFrom cs p i) :
    ∃ j q, i ≤ j ∧ w.1 = p ++ j :: q := by
  rw [← visits_walkFrom] at h
  obtain ⟨e, he, hpath, -⟩ := exists_event_of_mem_visits h
  obtain ⟨j, q, -, -, -, -, -, hpath', -⟩ := mem_walkFrom cs p i e he
  rw [hpath, Option.some.injEq] at hpath'
  exact ⟨i + j, q, Nat.le_add_right i j, hpath'⟩

/-- Work below an instruction is at a longer path. -/
theorem exists_index_of_mem_below (h : w ∈ below n p) : ∃ j q, w.1 = p ++ j :: q := by
  cases n with
  | composite form cs =>
    rw [below] at h
    obtain ⟨j, q, -, hw⟩ := exists_index_of_mem_belowFrom h
    exact ⟨j, q, hw⟩
  | _ => simp [below] at h

/-! ## The order of paths -/

/-- A path comes before those that go on from it. -/
theorem lt_append_cons (p : Path) (j : Nat) (q : Path) : p < p ++ j :: q := by
  have h : p ++ [] < p ++ j :: q := List.append_left_lt (List.nil_lt_cons j q)
  rwa [List.append_nil] at h

/-- What goes on to a later child is later. -/
theorem append_cons_lt {j k : Nat} (h : j < k) (p q r : Path) : p ++ j :: q < p ++ k :: r :=
  List.append_left_lt (List.cons_lt_cons_iff.2 (.inl h))

mutual

/-- **Pre-order is the order of paths.** -/
theorem pairwise_below : ∀ (n : Instruction) (p : Path),
    (below n p).Pairwise fun v w => v.1 < w.1
  | .composite form cs, p => by
    rw [below]
    exact pairwise_belowFrom cs p 0
  | .dialog _, _ | .expression _, _ | .pause, _ | .unknownCommand, _ | .unknown, _ => .nil

theorem pairwise_belowFrom : ∀ (cs : List Instruction) (p : Path) (i : Nat),
    (belowFrom cs p i).Pairwise fun v w => v.1 < w.1
  | [], p, i => .nil
  | c :: cs, p, i => by
    -- whatever is at a later child is behind all that is at the child `i`
    have hlater : ∀ w ∈ belowFrom cs p (i + 1), ∀ q, p ++ i :: q < w.1 := by
      intro w hw q
      obtain ⟨j, r, hj, hpath⟩ := exists_index_of_mem_belowFrom hw
      rw [hpath]
      exact append_cons_lt (by omega) p q r
    rw [belowFrom, List.pairwise_cons, List.pairwise_append]
    refine ⟨fun w hw => ?_, pairwise_below c (p ++ [i]), pairwise_belowFrom cs p (i + 1), ?_⟩
    · rcases List.mem_append.1 hw with hw | hw
      · obtain ⟨j, q, hpath⟩ := exists_index_of_mem_below hw
        rw [hpath]
        exact lt_append_cons (p ++ [i]) j q
      · exact hlater w hw []
    · intro v hv w hw
      obtain ⟨j, q, hpath⟩ := exists_index_of_mem_below hv
      rw [hpath, List.append_assoc]
      exact hlater w hw (j :: q)

end

/-! ## Cutting the work at a path -/

/-- Nothing that a climb comes to is below where it began. -/
theorem not_isPrefix_of_mem_climb (hm : n.resolve q = some m)
    (hw : w ∈ visits (climb n p q)) : ¬ p ++ q <+: w.1 := by
  induction q generalizing n p with
  | nil => simp [climb, visits] at hw
  | cons i q ih =>
    cases hcs : n.children with
    | none => simp [Instruction.resolve, hcs] at hm
    | some cs =>
      rw [Instruction.resolve_cons hcs, Option.bind_eq_some_iff] at hm
      obtain ⟨c, hc, hm⟩ := hm
      rw [climb_cons hcs hc, visits_append, visits_append, List.mem_append, List.mem_append] at hw
      rcases hw with (hw | hw) | hw
      · have hinner := ih hm hw
        rwa [List.append_assoc] at hinner
      · rw [visits_walkFrom] at hw
        obtain ⟨j, r, hj, hpath⟩ := exists_index_of_mem_belowFrom hw
        rw [hpath, List.prefix_append_right_inj, List.cons_prefix_cons]
        omega
      · simp [visits, Event.visited] at hw

/-- What is behind an entry of ordered work. -/
theorem filter_lt_of_pairwise {before after : Work}
    (h : (before ++ w :: after).Pairwise fun v w => v.1 < w.1) :
    (before ++ w :: after).filter (fun v => w.1 < v.1) = after := by
  rw [List.pairwise_append, List.pairwise_cons] at h
  obtain ⟨-, ⟨hafter, -⟩, hbefore⟩ := h
  have hnone : before.filter (fun v => w.1 < v.1) = [] := by
    rw [List.filter_eq_nil_iff]
    intro v hv
    simpa using List.lt_asymm (hbefore v hv w (by simp))
  have hall : after.filter (fun v => w.1 < v.1) = after := by
    rw [List.filter_eq_self]
    intro v hv
    simpa using hafter v hv
  rw [List.filter_append, hnone, List.filter_cons_of_neg (by simp), hall]
  rfl

/-- What is behind a path is what is below it, and then what a climb from there
comes to. -/
theorem filter_lt_below (h : root.resolve p = some n) :
    (below root []).filter (fun w => p < w.1) = below n p ++ visits (climb root [] p) := by
  cases p with
  | nil =>
    cases h
    rw [climb, show visits [] = [] from rfl, List.append_nil, List.filter_eq_self]
    intro w hw
    obtain ⟨j, q, hpath⟩ := exists_index_of_mem_below hw
    simp [hpath]
  | cons i q =>
    obtain ⟨before, a, ha, hwalk⟩ := exists_walk_eq h []
    have hvisited : Event.visited ⟨a, some n, some ([] ++ i :: q)⟩ = some (i :: q, n) := by
      rcases ha with rfl | rfl <;> rfl
    have hbelow : below root [] =
        visits before ++ (i :: q, n) :: (below n (i :: q) ++ visits (climb root [] (i :: q))) := by
      rw [← visits_walk, hwalk, visits_append, visits_cons_some hvisited, visits_append,
        visits_walk]
      rfl
    have hordered := pairwise_below root []
    rw [hbelow] at hordered ⊢
    exact filter_lt_of_pairwise hordered

/-- **What is left from a path on is what is behind the path.** -/
theorem visits_ahead (h : root.resolve p = some n) :
    visits (ahead root ⟨false, some p, x⟩) =
      (below root []).filter fun w => Remains p x w.1 := by
  have hsplit : (below root []).filter (fun w => Remains p x w.1) =
      (below n p ++ visits (climb root [] p)).filter fun w => x = true → ¬ p <+: w.1 := by
    rw [← filter_lt_below h, List.filter_filter]
    congr 1
    funext w
    rw [Bool.eq_iff_iff, Bool.and_eq_true, decide_eq_true_iff, decide_eq_true_iff,
      decide_eq_true_iff, Remains, and_comm]
  have hbelow : ∀ w ∈ below n p, p <+: w.1 := by
    intro w hw
    obtain ⟨j, q, hpath⟩ := exists_index_of_mem_below hw
    exact ⟨j :: q, hpath.symm⟩
  have hclimb : ∀ w ∈ visits (climb root [] p), ¬ p <+: w.1 :=
    fun w hw => not_isPrefix_of_mem_climb h hw
  have hfinished : visits [Event.finished] = [] := rfl
  rw [hsplit, ahead_at h, visits_append, visits_append, hfinished, List.append_nil,
    List.filter_append]
  cases x with
  | false => simp [descent, visits_walk]
  | true =>
    have hnone : (below n p).filter (fun w => (true = true → ¬ p <+: w.1)) = [] := by
      rw [List.filter_eq_nil_iff]
      intro w hw
      simpa using hbelow w hw
    have hall : (visits (climb root [] p)).filter (fun w => (true = true → ¬ p <+: w.1)) =
        visits (climb root [] p) := by
      rw [List.filter_eq_self]
      intro w hw
      simpa using hclimb w hw
    rw [hnone, hall]
    rfl

/-! ## All instructions of a tree -/

/-- The instructions of a tree in pre-order, with their paths. -/
def inventory (root : Instruction) : Work := ([], root) :: below root []

/-- **The instructions of a tree are in the order of their paths.** -/
theorem pairwise_inventory (root : Instruction) :
    (inventory root).Pairwise fun v w => v.1 < w.1 := by
  refine List.pairwise_cons.2 ⟨fun w hw => ?_, pairwise_below root []⟩
  obtain ⟨j, q, hpath⟩ := exists_index_of_mem_below hw
  rw [hpath]
  exact List.nil_lt_cons j q

/-- **They are those to which the paths of the tree lead.** -/
theorem mem_inventory_iff : (p, n) ∈ inventory root ↔ root.resolve p = some n := by
  constructor
  · intro h
    rcases List.mem_cons.1 h with h | h
    · cases h
      rfl
    rw [← visits_walk] at h
    obtain ⟨e, he, hvisited⟩ := List.mem_filterMap.1 h
    obtain ⟨q, m, hm, hnode, hpath, -⟩ := mem_walk root [] e he
    obtain ⟨action, node, path⟩ := e
    cases hnode
    cases hpath
    cases action <;> cases hvisited <;> exact hm
  · intro h
    cases p with
    | nil =>
      cases h
      exact List.mem_cons_self
    | cons i q =>
      obtain ⟨before, a, ha, hwalk⟩ := exists_walk_eq h []
      refine List.mem_cons_of_mem _ ?_
      rw [← visits_walk, hwalk]
      refine List.mem_filterMap.2 ⟨_, List.mem_append_right before List.mem_cons_self, ?_⟩
      rcases ha with rfl | rfl <;> rfl

mutual

theorem length_below : ∀ (n : Instruction) (p : Path), (below n p).length + 1 = n.size
  | .composite form cs, p => by
    rw [below, length_belowFrom cs p 0, Instruction.size, Nat.add_comm]
  | .dialog _, _ | .expression _, _ | .pause, _ | .unknownCommand, _ | .unknown, _ => rfl

theorem length_belowFrom : ∀ (cs : List Instruction) (p : Path) (i : Nat),
    (belowFrom cs p i).length = Instruction.sizeList cs
  | [], p, i => rfl
  | c :: cs, p, i => by
    have hc := length_below c (p ++ [i])
    have hcs := length_belowFrom cs p (i + 1)
    simp only [belowFrom, Instruction.sizeList, List.length_cons, List.length_append]
    omega

end

/-- **And they are as many as the tree holds.** -/
theorem length_inventory (root : Instruction) : (inventory root).length = root.size :=
  length_below root []

end DialogueScript
