import DialogueScript.CommandLine.Run
import DialogueScript.Proofs.CommandLine.Sessions
import DialogueScript.Proofs.Session.Preorder
import DialogueScript.Proofs.Traversal.Events
import Mathlib.Data.Set.Card
/-!
# What checking a script counts

A traversal comes to each instruction of a script once from above or from
the side, and that is when it is counted. So the paths at which something
is counted are the paths of the tree, each once and in order
(`arrivals_traversal`), and the count of a kind is the number of paths
that lead to an instruction of that kind (`countKind_traversal`). A kind
has a line if its count is not zero, and every instruction is of one kind,
so the lines add up to the size of the tree (`sum_counts`).
-/

namespace DialogueScript

open Traversal

/-- The path at which an event comes upon an instruction for the first time. -/
def Traversal.Event.arrived (e : Event) : Option Path :=
  match e.action with
  | .start => e.path
  | .enter => e.path
  | .skip => e.path
  | _ => none

variable {root : Instruction} {α : Type}

/-! ## Arrivals -/

/-- **A traversal comes upon each instruction of the tree once.** What is noted
of an event when it comes upon an instruction, and only then, is noted of every
instruction in pre-order. -/
theorem filterMap_traversal {f : Event → Option α} {g : Path × Instruction → α}
    (hnew : ∀ a n p, a = .start ∨ a = .enter ∨ a = .skip → f ⟨a, some n, some p⟩ = some (g (p, n)))
    (hold : ∀ e : Event, e.action = .exit ∨ e.action = .finish → f e = none) :
    (traversal root).filterMap f = (inventory root).map g := by
  have hwalk : ∀ e ∈ walk root [], f e = e.visited.map g := by
    intro e he
    obtain ⟨q, n, -, hnode, hpath, haction⟩ := mem_walk root [] e he
    obtain ⟨action, node, path⟩ := e
    cases hnode
    cases hpath
    rcases haction with haction | ⟨-, haction | haction⟩ <;> cases haction
    · exact hold _ (.inl rfl)
    · exact hnew _ _ _ (.inr (.inl rfl))
    · exact hnew _ _ _ (.inr (.inr rfl))
  have hbelow : (walk root []).filterMap f = (below root []).map g := by
    rw [← visits_walk, visits, List.map_filterMap]
    exact List.filterMap_congr hwalk
  rw [traversal, List.filterMap_cons_some (hnew _ _ _ (.inl rfl)), List.filterMap_append, hbelow,
    List.filterMap_cons_none (hold _ (.inr rfl)), List.filterMap_nil, List.append_nil]
  rfl

theorem arrivals_traversal (root : Instruction) :
    (traversal root).filterMap Event.arrived = (inventory root).map Prod.fst := by
  refine filterMap_traversal ?_ ?_
  · rintro a n p (rfl | rfl | rfl) <;> rfl
  · rintro ⟨a, n, p⟩ (rfl | rfl) <;> rfl

theorem pairwise_arrivals (root : Instruction) :
    ((traversal root).filterMap Event.arrived).Pairwise (· < ·) := by
  rw [arrivals_traversal, List.pairwise_map]
  exact pairwise_inventory root

theorem mem_arrivals_iff {p : Path} :
    p ∈ (traversal root).filterMap Event.arrived ↔ (root.resolve p).isSome = true := by
  rw [arrivals_traversal, List.mem_map, Option.isSome_iff_exists]
  constructor
  · rintro ⟨⟨q, n⟩, hmem, rfl⟩
    exact ⟨n, mem_inventory_iff.1 hmem⟩
  · rintro ⟨n, hn⟩
    exact ⟨(p, n), mem_inventory_iff.2 hn, rfl⟩

/-! ## Counts -/

/-- As many paths lead to instructions of some sort as there are in the tree. -/
theorem ncard_paths (root : Instruction) (sort : Instruction → Bool) :
    {p | ∃ n, root.resolve p = some n ∧ sort n = true}.ncard =
      (inventory root).countP fun w => sort w.2 := by
  have hordered : (((inventory root).filter fun w => sort w.2).map Prod.fst).Pairwise (· < ·) := by
    rw [List.pairwise_map]
    exact (pairwise_inventory root).sublist List.filter_sublist
  have hnodup := hordered.imp (S := (· ≠ ·)) ne_of_lt
  have hpaths : {p | ∃ n, root.resolve p = some n ∧ sort n = true} =
      ↑(((inventory root).filter fun w => sort w.2).map Prod.fst).toFinset := by
    ext p
    simp [mem_inventory_iff]
  rw [hpaths, Set.ncard_coe_finset, List.toFinset_card_of_nodup hnodup, List.length_map,
    List.countP_eq_length_filter]

namespace CommandLine

open Host

/-- The paths of a tree that lead to an instruction of a kind. -/
def pathsOf (root : Instruction) (kind : Kind) : Set Path :=
  {p | ∃ n, root.resolve p = some n ∧ n.kind = kind}

theorem kinds_traversal (root : Instruction) :
    (traversal root).filterMap newKind = (inventory root).map fun w => w.2.kind := by
  refine filterMap_traversal ?_ ?_
  · rintro a n p (rfl | rfl | rfl) <;> rfl
  · rintro ⟨a, n, p⟩ (rfl | rfl) <;> rfl

/-- **The count of a kind is the number of its paths.** -/
theorem countKind_traversal (root : Instruction) (kind : Kind) :
    countKind (traversal root) kind = (pathsOf root kind).ncard := by
  have hpaths := ncard_paths root fun n => n.kind == kind
  simp only [beq_iff_eq] at hpaths
  rw [pathsOf, hpaths, countKind, kinds_traversal, List.countP_map]
  rfl

/-- The kinds that occur among events, with their counts. -/
def counts (events : List Event) : List (Kind × Nat) :=
  (kindsByName.map fun k => (k, countKind events k)).filter fun c => 0 < c.2

theorem mem_counts_iff {events : List Event} {kind : Kind} {n : Nat} :
    (kind, n) ∈ counts events ↔ 0 < n ∧ n = countKind events kind := by
  have hmem : kind ∈ kindsByName := by cases kind <;> decide
  simp only [counts, List.mem_filter, List.mem_map, Prod.mk.injEq, decide_eq_true_iff]
  constructor
  · rintro ⟨⟨k, -, rfl, rfl⟩, hpos⟩
    exact ⟨hpos, rfl⟩
  · rintro ⟨hpos, rfl⟩
    exact ⟨⟨kind, hmem, rfl, rfl⟩, hpos⟩

theorem pairwise_counts (events : List Event) :
    (counts events).Pairwise fun c d => c.1.name < d.1.name := by
  have hkinds : kindsByName.Pairwise fun k l => k.name < l.name := by decide
  have hall : (kindsByName.map fun k => (k, countKind events k)).Pairwise fun c d =>
      c.1.name < d.1.name := List.pairwise_map.2 hkinds
  exact hall.sublist List.filter_sublist

/-- Every kind is counted once. -/
theorem sum_countP_kinds (kinds : List Kind) :
    (kindsByName.map fun k => kinds.countP (· == k)).sum = kinds.length := by
  induction kinds with
  | nil => rfl
  | cons kind kinds ih =>
    have hone : (kindsByName.map fun k => if kind == k then 1 else 0).sum = 1 := by
      cases kind <;> rfl
    simp only [List.countP_cons, List.length_cons]
    rw [List.sum_map_add, ih, hone]

/-- What has no line adds nothing. -/
theorem sum_filter_pos (l : List (Kind × Nat)) :
    ((l.filter fun c => 0 < c.2).map Prod.snd).sum = (l.map Prod.snd).sum := by
  induction l with
  | nil => rfl
  | cons c l ih =>
    by_cases hc : 0 < c.2
    · simp [hc, ih]
    · simp [hc, ih]
      omega

/-- **The counts add up to the size of the tree.** -/
theorem sum_counts (root : Instruction) :
    ((counts (traversal root)).map Prod.snd).sum = root.size := by
  have hall := sum_countP_kinds ((traversal root).filterMap newKind)
  rw [kinds_traversal, List.length_map, length_inventory] at hall
  rw [counts, sum_filter_pos, List.map_map, ← hall, ← kinds_traversal]
  rfl

/-! ## The command -/

/-- What is printed about a kind. -/
def countLine (c : Kind × Nat) : String :=
  "  " ++ Text.padRight 12 c.1.name ++ " " ++ toString c.2 ++ "\n"

theorem allEvents_eq (script : Instruction) : allEvents script = .ok (traversal script) := by
  have hfits : State.Fits {} script := State.fits_of_none false false
  obtain ⟨st, -, hevents⟩ := Stepper.events_standing hfits
  rw [allEvents, Stepper.fresh_eq_standing, hevents, ahead_fresh]
  generalize traversal script = events
  induction events with
  | nil => rfl
  | cons e events ih =>
    rw [List.map_cons, List.mapM_cons, ih]
    rfl

/-- Checking a script that can be read prints its counts. -/
theorem carryOut_check (settings : Settings) {path source : String} {w : World}
    (hread : w.files.read path = .ok (.text source))
    (hsource : Instruction.read source = .ok root) :
    (carryOut settings (.check path) : StateM World Status) w =
      (.done, w.print (path ++ ": ok\n" ++
        String.join ((counts (traversal root)).map countLine))) := by
  have hload := Setup.loadScript_of_read hread hsource
  rw [carryOut, bind_apply, hload]
  change (reportOn root fun events => path ++ ": ok\n" ++ countReport events : StateM World _) w = _
  rw [reportOn, allEvents_eq]
  rfl

/-- **Checking a script counts its paths.** The events of a traversal that come
upon an instruction for the first time are at the paths of the tree, each once
and in order, a path before those below it. The report has a line for each kind
that occurs, in the order of the names, with the number of paths that lead to an
instruction of the kind, and the numbers add up to the number of all paths, which
is the size of the tree. -/
theorem check_counts_paths (root : Instruction) :
    ∃ events : List Event, (Stepper.fresh root).events.1 = events.map .ok ∧
      (∀ p, p ∈ events.filterMap Event.arrived ↔ (root.resolve p).isSome = true) ∧
      (events.filterMap Event.arrived).Nodup ∧
      (events.filterMap Event.arrived).Pairwise (· < ·) ∧
      ∃ counts : List (Kind × Nat),
        (∀ kind n, (kind, n) ∈ counts ↔ 0 < n ∧ n = (pathsOf root kind).ncard) ∧
        counts.Pairwise (fun c d => c.1.name < d.1.name) ∧
        (counts.map Prod.snd).sum = root.size ∧
        root.size = {p | (root.resolve p).isSome = true}.ncard ∧
        ∀ (settings : Settings) (path source : String) (w : World),
          w.files.read path = .ok (.text source) → Instruction.read source = .ok root →
          (carryOut settings (.check path) : StateM World Status) w =
            (.done, w.print (path ++ ": ok\n" ++ String.join (counts.map countLine))) := by
  have hfits : State.Fits {} root := State.fits_of_none false false
  obtain ⟨st, -, hevents⟩ := Stepper.events_standing hfits
  have hordered := pairwise_arrivals root
  have hsize : root.size = {p | (root.resolve p).isSome = true}.ncard := by
    have hall := ncard_paths root fun _ => true
    rw [List.countP_true, length_inventory] at hall
    simp only [and_true, ← Option.isSome_iff_exists] at hall
    exact hall.symm
  refine ⟨traversal root, ?_, fun p => mem_arrivals_iff, hordered.imp ne_of_lt, hordered,
    counts (traversal root), fun kind n => ?_, pairwise_counts _, sum_counts root, hsize,
    fun settings path source w hread hsource => carryOut_check settings hread hsource⟩
  · rw [Stepper.fresh_eq_standing, hevents, ahead_fresh]
  · rw [← countKind_traversal]
    exact mem_counts_iff

/-- The report on a script with an empty block and a command of an unknown kind. -/
example : countReport (traversal (.composite .script
    [.pause, .composite .eachBlock [], .unknownCommand, .pause])) =
      "  Command      1\n  EachBlock    1\n  Pause        2\n  Script       1\n" := by
  decide +kernel

/-- Five instructions in a file, two of them in a block. -/
theorem check_counts_paths_nested :
    let script : Instruction :=
      .composite .script [.dialog "a", .composite .ifBlock [.pause, .unknown]]
    let w : World := { files := ⟨[(["s.json"], .text script.write)]⟩ }
    ∃ counts : List (Kind × Nat), (counts.map Prod.snd).sum = 5 ∧
      (carryOut {} (.check "s.json") : StateM World Status) w =
        (.done, w.print ("s.json: ok\n" ++ String.join (counts.map countLine))) ∧
      String.join (counts.map countLine) =
        "  Dialog       1\n  IfBlock      1\n  Pause        1\n  Script       1\n" ++
          "  Unknown      1\n" := by
  intro script w
  have hread : w.files.read "s.json" = .ok (.text script.write) := by
    with_unfolding_all rfl
  have hscript : Instruction.read script.write = .ok script :=
    Instruction.read_of_spells (by decide) (by rintro x ⟨⟩)
      (Json.spells_compactChars script.toJson)
  obtain ⟨-, -, -, -, -, counts', -, -, hsum, -, hcheck⟩ := check_counts_paths script
  have hprint := hcheck {} "s.json" _ w hread hscript
  refine ⟨counts', hsum, hprint, ?_⟩
  have hlines : String.join (counts'.map countLine) =
      String.join ((counts (traversal script)).map countLine) := by
    have houtput := congrArg (fun run => run.2.output)
      (hprint.symm.trans (carryOut_check {} hread hscript))
    exact (String.append_right_inj _).1 ((String.append_right_inj _).1 houtput)
  rw [hlines]
  decide +kernel

end CommandLine

end DialogueScript
