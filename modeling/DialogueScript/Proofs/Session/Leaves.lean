import DialogueScript.Proofs.Session.Preorder
import DialogueScript.Proofs.Session.Resume
/-!
# A run is what its leaves are

Of all that a run comes upon, only dialogue, expressions and pauses do
anything. So a run is known by the list of these that is left and by its
variables. How they are grouped, what else stands between them and what
stood in front of them does not matter, but for the paths that failures
name.

An agenda is stripped of everything else by `Agenda.bare`, and a turn of
what is stripped is the turn stripped (`next_bare`). Two runs with the
same leaves left have the same stripped agenda, so a caller sees the same
of both (`calls_eq_of_leaves`).
-/

namespace DialogueScript

open Traversal

/-- Whether anything happens when a run comes upon an instruction: it is
dialogue, an expression or a pause. -/
def Instruction.isActive (n : Instruction) : Bool := n.isPause || n.hasEffect

/-- The dialogue, expressions and pauses among work, in their order. -/
def leaves (work : Work) : List Instruction := (work.map Prod.snd).filter Instruction.isActive

/-- An error without the path of the instruction that failed. -/
def RunError.pathless : RunError → RunError
  | .eval _ error => .eval [] error
  | .step error => .step error

/-- What a caller sees of a turn, but for the path that a failure names. -/
def Call.pathless (c : Call) : Call := { c with result := c.result.mapError RunError.pathless }

/-- The runs that are fresh or taken up at a path of their script, each with the
leaves that are left: all below the root, or those behind the path. -/
inductive Begun (script : Instruction) : Interpreter → List Instruction → Prop
  | fresh (scope : Scope) : Begun script (.withScope script scope) (leaves (below script []))
  | resumed {p : Path} {exiting : Bool} {scope : Scope} {i : Interpreter} :
      Interpreter.resume script ⟨⟨false, some p, exiting⟩, scope⟩ = .ok i →
      Begun script i (leaves ((below script []).filter fun w => Remains p exiting w.1))

/-- Lists of instructions that differ in how their leaves are grouped, and in
empty groups and unknown instructions among them. -/
inductive Regrouped : List Instruction → List Instruction → Prop
  | refl (ns : List Instruction) : Regrouped ns ns
  | symm {ns ms : List Instruction} : Regrouped ns ms → Regrouped ms ns
  | trans {ns ms ks : List Instruction} : Regrouped ns ms → Regrouped ms ks → Regrouped ns ks
  | append {ns ns' ms ms' : List Instruction} :
      Regrouped ns ns' → Regrouped ms ms' → Regrouped (ns ++ ms) (ns' ++ ms')
  | group (form : Composite) (ns : List Instruction) : Regrouped ns [.composite form ns]
  | unknown : Regrouped [] [.unknown]
  | unknownCommand : Regrouped [] [.unknownCommand]

/-- Scripts, each with a path, that differ in what is in front of the path. What
is below the path or behind it is at most regrouped. -/
inductive Edited : Instruction → Path → Instruction → Path → Prop
  | leaf (n : Instruction) : Edited n [] n []
  | group {form form' : Composite} {ns ms : List Instruction} :
      Regrouped ns ms → Edited (.composite form ns) [] (.composite form' ms) []
  | inside {form form' : Composite} {c c' : Instruction} {p p' : Path}
      {before before' after after' : List Instruction} :
      Edited c p c' p' → Regrouped after after' →
      Edited (.composite form (before ++ c :: after)) (before.length :: p)
        (.composite form' (before' ++ c' :: after')) (before'.length :: p')

/-! ## Agendas without anything but leaves -/

/-- Work stripped of all but its leaves, and of their paths. -/
def bareWork (work : Work) : Work := (leaves work).map fun n => ([], n)

namespace Agenda

/-- An agenda stripped of all but the leaves that are left. -/
def bare (a : Agenda) : Agenda := ⟨bareWork a.todo, a.scope, a.done⟩

/-- **Working off what is stripped is working off the whole**, but for paths:
what is no leaf takes a step and changes nothing. -/
theorem work_bare (todo : Work) (s : Scope) :
    work (bareWork todo) s =
      ((work todo s).1.mapError RunError.pathless, (work todo s).2.bare) := by
  induction todo generalizing s with
  | nil => rfl
  | cons w rest ih =>
    obtain ⟨p, n⟩ := w
    cases n with
    | pause => rfl
    | dialog text => exact ih (s.say text)
    | expression e =>
      have hbare : bareWork ((p, .expression e) :: rest) =
          ([], .expression e) :: bareWork rest := rfl
      rw [hbare, work, work, perform, perform]
      rcases e.eval s with ⟨_ | _, after⟩
      · rfl
      · exact ih after
    | composite form body => exact ih s
    | unknownCommand => exact ih s
    | unknown => exact ih s

/-- A turn of what is stripped is the turn stripped. -/
theorem next_bare (a : Agenda) :
    a.bare.next = (a.next.1.mapError RunError.pathless, a.next.2.bare) := by
  obtain ⟨todo, scope, done⟩ := a
  cases done with
  | true => rfl
  | false =>
    have hwork := work_bare todo scope.clearDialog
    simp only [next, bare, Bool.false_eq_true, if_false, hwork]
    rcases work todo scope.clearDialog with ⟨_ | _, after⟩ <;> rfl

/-- **A caller sees the same of what is stripped**, but for paths. -/
theorem calls_bare (a : Agenda) (k : Nat) : a.bare.calls k = (a.calls k).map Call.pathless := by
  induction k generalizing a with
  | zero => rfl
  | succ k ih =>
    rw [calls, calls, next_bare, ih]
    rfl

/-- A turn empties the dialogue first, so it may be empty before. -/
theorem calls_clearDialog {a : Agenda} (hdone : a.done = false) (k : Nat) :
    a.calls k = (Agenda.mk a.todo a.scope.clearDialog false).calls k := by
  obtain ⟨todo, scope, done⟩ := a
  cases hdone
  cases k with
  | zero => rfl
  | succ k => rfl

end Agenda

/-! ## Runs with the same leaves left -/

variable {script script' : Instruction} {i j : Interpreter} {todo : List Instruction}

/-- A run that has begun is not over, and its agenda has the leaves that are
left. -/
theorem Begun.exists_standing (h : Begun script i todo) :
    ∃ st scope, st.Fits script ∧ st.done = false ∧ i = .standing script st scope ∧
      leaves (visits (ahead script st)) = todo := by
  cases h with
  | fresh scope =>
    refine ⟨{}, scope, State.fits_of_none _ _, rfl, rfl, ?_⟩
    rw [← visits_traversal]
    rfl
  | @resumed p exiting scope i h =>
    obtain ⟨hfits, hi⟩ := exists_standing_of_resume h
    obtain ⟨n, hn⟩ := hfits.resolves p rfl
    exact ⟨_, scope, hfits, rfl, hi, by rw [visits_ahead hn]⟩

/-- What a caller sees of a run that has begun, but for paths, depends only on
the leaves that are left and on the variables. -/
theorem Begun.calls_pathless (h : Begun script i todo) (k : Nat) :
    (i.calls k).map Call.pathless =
      (Agenda.mk (todo.map fun n => ([], n)) (.withVars i.scope.vars) false).calls k := by
  obtain ⟨st, scope, hfits, hdone, rfl, rfl⟩ := h.exists_standing
  have hagenda : (Agenda.standing script st scope).bare.done = false := hdone
  rw [calls_standing hfits, ← Agenda.calls_bare, Agenda.calls_clearDialog hagenda]
  rfl

/-- **Runs with the same leaves left and the same variables are the same to a
caller**, but for the paths that failures name. -/
theorem Begun.calls_eq (hi : Begun script i todo) (hj : Begun script' j todo)
    (hvars : i.scope.vars = j.scope.vars) (k : Nat) :
    (i.calls k).map Call.pathless = (j.calls k).map Call.pathless := by
  rw [hi.calls_pathless, hj.calls_pathless, hvars]

/-! ## Leaves by recursion -/

mutual

/-- The dialogue, expressions and pauses of a tree. -/
def Instruction.leaves : Instruction → List Instruction
  | .composite _ body => leavesOf body
  | .dialog text => [.dialog text]
  | .expression e => [.expression e]
  | .pause => [.pause]
  | .unknownCommand => []
  | .unknown => []

/-- The dialogue, expressions and pauses of trees one after the other. -/
def leavesOf : List Instruction → List Instruction
  | [] => []
  | n :: ns => n.leaves ++ leavesOf ns

end

theorem leavesOf_append (ns ms : List Instruction) :
    leavesOf (ns ++ ms) = leavesOf ns ++ leavesOf ms := by
  induction ns with
  | nil => rfl
  | cons n ns ih => simp [leavesOf, ih]

theorem leaves_append (v w : Work) : leaves (v ++ w) = leaves v ++ leaves w := by
  simp [leaves]

mutual

/-- The leaves of a tree are among it and what is below it. -/
theorem leaves_cons_below : ∀ (n : Instruction) (p q : Path),
    leaves ((q, n) :: below n p) = n.leaves
  | .composite form cs, p, q => by
    rw [below, Instruction.leaves, ← leaves_belowFrom cs p 0]
    rfl
  | .dialog _, _, _ | .expression _, _, _ | .pause, _, _ | .unknownCommand, _, _
  | .unknown, _, _ => rfl

theorem leaves_belowFrom : ∀ (cs : List Instruction) (p : Path) (i : Nat),
    leaves (belowFrom cs p i) = leavesOf cs
  | [], p, i => rfl
  | c :: cs, p, i => by
    rw [belowFrom, leavesOf, ← List.cons_append, leaves_append,
      leaves_cons_below c (p ++ [i]) (p ++ [i]), leaves_belowFrom cs p (i + 1)]

end

/-- Regrouping keeps the leaves. -/
theorem Regrouped.leavesOf_eq {ns ms : List Instruction} (h : Regrouped ns ms) :
    leavesOf ns = leavesOf ms := by
  induction h with
  | refl ns => rfl
  | symm _ ih => exact ih.symm
  | trans _ _ ih₁ ih₂ => exact ih₁.trans ih₂
  | append _ _ ih₁ ih₂ => rw [leavesOf_append, leavesOf_append, ih₁, ih₂]
  | group form ns => simp [leavesOf, Instruction.leaves]
  | unknown => rfl
  | unknownCommand => rfl

/-- Below instructions that hold regrouped ones there are the same leaves. -/
theorem leaves_below_of_regrouped {form form' : Composite} {ns ms : List Instruction}
    (h : Regrouped ns ms) (p q : Path) :
    leaves (below (.composite form ns) p) = leaves (below (.composite form' ms) q) := by
  rw [below, below, leaves_belowFrom, leaves_belowFrom, h.leavesOf_eq]

/-- The leaves below an instruction do not depend on where it is. -/
theorem leaves_below (n : Instruction) (p q : Path) : leaves (below n p) = leaves (below n q) := by
  cases n with
  | composite form ns => exact leaves_below_of_regrouped (.refl ns) p q
  | _ => rfl

/-- The way down to a child with others in front of it, and the way up again. -/
theorem climb_child {form : Composite} {before after : List Instruction} {c n : Instruction}
    {p : Path} (hn : c.resolve p = some n) (q : Path) :
    (Instruction.composite form (before ++ c :: after)).resolve (before.length :: p) = some n ∧
      leaves (visits (climb (.composite form (before ++ c :: after)) q (before.length :: p))) =
        leaves (visits (climb c (q ++ [before.length]) p)) ++ leavesOf after := by
  have hchildren : (Instruction.composite form (before ++ c :: after)).children =
      some (before ++ c :: after) := by
    cases before <;> rfl
  have hchild : (before ++ c :: after)[before.length]? = some c := by simp
  have hdrop : (before ++ c :: after).drop (before.length + 1) = after := by simp
  constructor
  · rw [Instruction.resolve_cons hchildren, hchild]
    exact hn
  · rw [climb_cons hchildren hchild, hdrop, visits_append, visits_append, visits_walkFrom,
      leaves_append, leaves_append, leaves_belowFrom]
    exact List.append_nil _

/-- **Scripts that differ in front of a path have the same leaves below the path
and on the climb from there.** -/
theorem leaves_of_edited {p p' : Path} (h : Edited script p script' p') :
    ∃ n n', script.resolve p = some n ∧ script'.resolve p' = some n' ∧
      (∀ q q', leaves (below n q) = leaves (below n' q')) ∧
      ∀ q q', leaves (visits (climb script q p)) = leaves (visits (climb script' q' p')) := by
  induction h with
  | leaf n => exact ⟨n, n, rfl, rfl, leaves_below n, fun _ _ => rfl⟩
  | group hns => exact ⟨_, _, rfl, rfl, leaves_below_of_regrouped hns, fun _ _ => rfl⟩
  | inside _ hafter ih =>
    obtain ⟨n, n', hn, hn', hbelow, hclimb⟩ := ih
    refine ⟨n, n', (climb_child hn []).1, (climb_child hn' []).1, hbelow, fun q q' => ?_⟩
    rw [(climb_child hn q).2, (climb_child hn' q').2, hclimb, hafter.leavesOf_eq]

/-- What is left behind the path is the same. -/
theorem leaves_ahead_of_edited {p p' : Path} (h : Edited script p script' p') (exiting : Bool) :
    leaves (visits (ahead script ⟨false, some p, exiting⟩)) =
      leaves (visits (ahead script' ⟨false, some p', exiting⟩)) := by
  obtain ⟨n, n', hn, hn', hbelow, hclimb⟩ := leaves_of_edited h
  rw [ahead_at hn, ahead_at hn']
  simp only [visits_append, leaves_append]
  rw [hclimb [] []]
  cases exiting with
  | true => rfl
  | false =>
    rw [descent, descent, if_neg (by simp), if_neg (by simp), visits_walk, visits_walk,
      hbelow p p']

/-- **A run is what its leaves are.** Two runs that are fresh or taken up at a
path, over any two scripts, are the same to a caller, but for the paths that
failures name, if the same leaves are left of them and their variables are the
same. So it makes no difference to a fresh run how the script is grouped, and
none to a run that is taken up what the script was like in front of the path. -/
theorem Interpreter.calls_eq_of_leaves :
    (∀ script script' i j todo, Begun script i todo → Begun script' j todo →
      i.scope.vars = j.scope.vars →
      ∀ k, (i.calls k).map Call.pathless = (j.calls k).map Call.pathless) ∧
    (∀ form form' ns ms scope, Regrouped ns ms →
      ∀ k, ((withScope (.composite form ns) scope).calls k).map Call.pathless =
        ((withScope (.composite form' ms) scope).calls k).map Call.pathless) ∧
    ∀ script script' p p' exiting scope, Edited script p script' p' →
      ∃ i j, resume script ⟨⟨false, some p, exiting⟩, scope⟩ = .ok i ∧
        resume script' ⟨⟨false, some p', exiting⟩, scope⟩ = .ok j ∧
        ∀ k, (i.calls k).map Call.pathless = (j.calls k).map Call.pathless := by
  refine ⟨fun script script' i j todo hi hj => hi.calls_eq hj, ?_, ?_⟩
  · intro form form' ns ms scope hns k
    have hi : Begun (.composite form ns) _ _ := .fresh scope
    have hj : Begun (.composite form' ms) _ _ := .fresh scope
    rw [leaves_below_of_regrouped hns] at hi
    exact hi.calls_eq hj rfl k
  · intro script script' p p' exiting scope h
    obtain ⟨n, n', hn, hn', -, -⟩ := leaves_of_edited h
    have hfits : State.Fits ⟨false, some p, exiting⟩ script := State.fits_of_resolve hn
    have hfits' : State.Fits ⟨false, some p', exiting⟩ script' := State.fits_of_resolve hn'
    have hi := Begun.resumed (resume_standing hfits scope)
    have hj := Begun.resumed (resume_standing hfits' scope)
    rw [← visits_ahead hn, leaves_ahead_of_edited h, visits_ahead hn'] at hi
    exact ⟨_, _, resume_standing hfits scope, resume_standing hfits' scope,
      fun k => hi.calls_eq hj rfl k⟩

/-- A run that is taken up behind a pause, and a fresh one of a script that holds
what is left in groups. Both fail at the same expression, each under its own
path. -/
theorem Interpreter.calls_eq_of_leaves_failing :
    let x : Instruction := .expression (.ident "x")
    let script : Instruction := .composite .script [.dialog "a", .pause, x, .dialog "b"]
    let left : Instruction := .composite .script [x, .dialog "b"]
    let grouped : Instruction :=
      .composite .script [.composite .eachBlock [.composite .ifBlock [], x], .unknown, .dialog "b"]
    let edited : Instruction := .composite .eachBlock [.pause, x, .unknown, .dialog "b"]
    let c : Checkpoint := ⟨⟨false, some [1], false⟩, ⟨"said", .empty⟩⟩
    let d : Checkpoint := ⟨⟨false, some [0], false⟩, ⟨"said", .empty⟩⟩
    ∃ i j, resume script c = .ok i ∧ resume edited d = .ok j ∧
      i.next.1 = .error (.eval [2] (.undefinedVariable "x")) ∧
      (fresh grouped).next.1 = .error (.eval [0, 1] (.undefinedVariable "x")) ∧
      ∀ k, (i.calls k).map Call.pathless = ((fresh left).calls k).map Call.pathless ∧
        ((fresh left).calls k).map Call.pathless = ((fresh grouped).calls k).map Call.pathless ∧
        (i.calls k).map Call.pathless = (j.calls k).map Call.pathless := by
  intro x script left grouped edited c d
  obtain ⟨hleaves, hregrouped, hedited⟩ := Interpreter.calls_eq_of_leaves
  have hblock : Regrouped [x] [.composite .eachBlock [.composite .ifBlock [], x]] :=
    .trans (.append (.group .ifBlock []) (.refl [x])) (.group .eachBlock _)
  have hunknown : Regrouped [.dialog "b"] [.unknown, .dialog "b"] :=
    .append .unknown (.refl [.dialog "b"])
  have hafter : Edited script [1] edited [0] :=
    @Edited.inside .script .eachBlock .pause .pause [] [] [.dialog "a"] [] _ _
      (.leaf .pause) (.append (.refl [x]) hunknown)
  obtain ⟨i, j, hi, hj, hsame⟩ := hedited script edited [1] [0] false ⟨"said", .empty⟩ hafter
  have hbegun : Begun script i (leaves (below left [])) := .resumed hi
  refine ⟨i, j, hi, hj, ?_, rfl, fun k => ⟨?_, ?_, hsame k⟩⟩
  · cases hi
    rfl
  · exact hleaves script left i (fresh left) _ hbegun (.fresh {}) (by cases hi; rfl) k
  · exact hregrouped .script .script _ _ {} (.append hblock hunknown) k

end DialogueScript
