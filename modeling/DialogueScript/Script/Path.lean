import DialogueScript.Script.Instruction
/-!
# Paths

A position in an instruction tree is a path: the child to take at each level
from the root down. `resolve` finds the instruction at a path.
-/

namespace DialogueScript

/-- A position in a tree; the empty path is the root. -/
abbrev Path := List Nat

/-- A path as messages and reports write it. -/
def Path.show (p : Path) : String :=
  "[" ++ ", ".intercalate (p.map toString) ++ "]"

namespace Instruction

/-- The children of an instruction. A composite without any is a leaf, so what
is found here can always be entered. -/
def children : Instruction → Option (List Instruction)
  | .composite _ (i :: is) => some (i :: is)
  | _ => none

/-- The instruction at a path, if every index on the way is that of a child. -/
def resolve (root : Instruction) : Path → Option Instruction
  | [] => some root
  | i :: rest =>
    match root.children with
    | none => none
    | some cs =>
      match cs[i]? with
      | none => none
      | some c => resolve c rest

variable {n m c : Instruction} {cs : List Instruction} {p : Path} {i : Nat}

/-- What can be entered holds a first child. -/
theorem children_eq_some (h : n.children = some cs) :
    ∃ form c rest, n = .composite form cs ∧ cs = c :: rest := by
  unfold children at h
  split at h
  · rename_i form c rest
    cases h
    exact ⟨form, c, rest, rfl, rfl⟩
  · cases h

@[simp]
theorem resolve_nil : n.resolve [] = some n := rfl

/-- The first step of a path is to a child. -/
theorem resolve_cons (h : n.children = some cs) (q : Path) :
    n.resolve (i :: q) = cs[i]?.bind fun c => c.resolve q := by
  rw [resolve, h]
  cases hc : cs[i]? with
  | none => simp [hc]
  | some c => simp [hc]

/-- A path leads where its two parts lead one after the other. -/
theorem resolve_append (p q : Path) :
    n.resolve (p ++ q) = (n.resolve p).bind fun m => m.resolve q := by
  induction p generalizing n with
  | nil => rfl
  | cons i p ih =>
    cases hn : n.children with
    | none => simp [resolve, hn]
    | some cs =>
      rw [List.cons_append, resolve_cons hn, resolve_cons hn]
      cases cs[i]? with
      | none => rfl
      | some c => exact ih

/-- One step further than a path leads is to a child of what it leads to. -/
theorem resolve_child (hm : n.resolve p = some m) (hcs : m.children = some cs)
    (hc : cs[i]? = some c) : n.resolve (p ++ [i]) = some c := by
  rw [resolve_append, hm, Option.bind_some, resolve_cons hcs, hc]
  rfl

/-- A path that ends in a child passes through the parent. -/
theorem exists_parent_of_resolve (h : n.resolve (p ++ [i]) = some c) :
    ∃ m cs, n.resolve p = some m ∧ m.children = some cs ∧ cs[i]? = some c := by
  rw [resolve_append, Option.bind_eq_some_iff] at h
  obtain ⟨m, hm, hc⟩ := h
  cases hcs : m.children with
  | none => simp [resolve, hcs] at hc
  | some cs =>
    rw [resolve_cons hcs, Option.bind_eq_some_iff] at hc
    obtain ⟨c', hc', hcc⟩ := hc
    rw [resolve_nil, Option.some.injEq] at hcc
    exact ⟨m, cs, hm, hcs, hcc ▸ hc'⟩

end Instruction

end DialogueScript
