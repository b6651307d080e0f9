import DialogueScript.Proofs.Script.Variables
/-!
# What evaluation writes

Evaluating an expression changes a scope by the assignments it comes to and by
nothing else. Which these are can be said without running through the scope:
the assignments of an expression are listed in the order in which they would be
made, innermost first and from left to right (`assignments`), and of these the
ones count whose value is evaluated, in the scope in which evaluation comes to
it (`reached`, `valueAt`). The rest stand in an operand that a logical operator
leaves out, or behind a failure. `eval_eq_write` says that the scope in the end
is the one in the beginning with these writes made, whether evaluation fails or
not; every statement about a single variable is read off it with `get?_write`.

Two evaluations that begin with the same values for the names an expression
reads come to the same writes (`eval_and_writes_eq`), since a name that is read
further on keeps its value or is given the same one in both.
-/

namespace DialogueScript

/-! ## Scopes under writes -/

namespace Scope

/-- The scope after some writes, in order. -/
def write (s : Scope) (writes : List (String × Value)) : Scope :=
  writes.foldl (fun s w => s.set w.1 w.2) s

variable {s t : Scope} {x : String}

theorem write_append (s : Scope) (ws us : List (String × Value)) :
    s.write (ws ++ us) = (s.write ws).write us :=
  List.foldl_append

theorem vars_write (s : Scope) (ws : List (String × Value)) :
    (s.write ws).vars = ws.foldl (fun vars w => vars.set w.1 w.2) s.vars := by
  induction ws generalizing s with
  | nil => rfl
  | cons w ws ih => exact ih (s.set w.1 w.2)

/-- A variable has the value of the last write to it, and without one the value it had. -/
theorem get?_write (s : Scope) (ws : List (String × Value)) (x : String) :
    (s.write ws).get? x = (ws.reverse.lookup x).or (s.get? x) := by
  induction ws generalizing s with
  | nil => rfl
  | cons w ws ih =>
    obtain ⟨y, v⟩ := w
    have hset : (s.set y v).get? x = if x = y then some v else s.get? x := s.vars.get?_set y v x
    have hlast : (List.lookup x [(y, v)]).or (s.get? x) = if x = y then some v else s.get? x := by
      by_cases hx : x = y
      · simp [hx]
      · have hbeq : (x == y) = false := beq_eq_false_iff_ne.2 hx
        simp [List.lookup_cons, hx, hbeq]
    change ((s.set y v).write ws).get? x = _
    rw [ih, hset, List.reverse_cons, List.lookup_append, Option.or_assoc, hlast]

/-- A variable that no write names keeps its value. -/
theorem get?_write_of_notMem {ws : List (String × Value)} (hx : x ∉ ws.map Prod.fst) :
    (s.write ws).get? x = s.get? x := by
  have hnone : ws.reverse.lookup x = none := by
    rw [List.lookup_eq_none_iff]
    intro w hw
    have hne : x ≠ w.1 := by
      rintro rfl
      exact hx (List.mem_map_of_mem (List.mem_reverse.1 hw))
    simpa using hne
  rw [get?_write, hnone, Option.none_or]

/-- One that some write names has a value that does not depend on the scope. -/
theorem exists_get?_write_of_mem {ws : List (String × Value)} (hx : x ∈ ws.map Prod.fst) :
    ∃ v, ∀ s : Scope, (s.write ws).get? x = some v := by
  obtain ⟨⟨y, u⟩, hw, rfl⟩ := List.mem_map.1 hx
  cases hlast : ws.reverse.lookup y with
  | none =>
    have hne := List.lookup_eq_none_iff.1 hlast (y, u) (List.mem_reverse.2 hw)
    simp at hne
  | some v => exact ⟨v, fun s => by rw [get?_write, hlast, Option.some_or]⟩

end Scope

/-! ## Assignments and the writes they make -/

namespace Expr

/-- The assignments of an expression, each with its place (the operand to take at each level) and
its variable: innermost first and from left to right. -/
def assignments : Expr → List (List Nat × String)
  | .assign name e => e.assignments.map (fun a => (0 :: a.1, a.2)) ++ [([], name)]
  | .unary _ e => e.assignments.map fun a => (0 :: a.1, a.2)
  | .binary _ l r =>
    l.assignments.map (fun a => (0 :: a.1, a.2)) ++ r.assignments.map fun a => (1 :: a.1, a.2)
  | _ => []

/-- The variables an expression assigns to. -/
def targets (e : Expr) : List String := e.assignments.map Prod.snd

/-- The expression at a place, with the scope in which evaluation comes to it; nothing, if it
never does. -/
def reached : Expr → Scope → List Nat → Option (Expr × Scope)
  | e, s, [] => some (e, s)
  | .assign _ e, s, 0 :: q => e.reached s q
  | .unary _ e, s, 0 :: q => e.reached s q
  | .binary _ l _, s, 0 :: q => l.reached s q
  | .binary op l r, s, 1 :: q =>
    match l.eval s with
    | (.ok v, s₁) =>
      match op.shortcut? v with
      | some _ => none
      | none => r.reached s₁ q
    | (.error _, _) => none
  | _, _, _ :: _ => none

/-- The value of the expression at a place; nothing, if evaluation does not come to it or fails
there. -/
def valueAt (e : Expr) (s : Scope) (q : List Nat) : Option Value :=
  (e.reached s q).bind fun r => (r.1.eval r.2).1.toOption

/-- The writes of an evaluation: one for each assignment whose value was evaluated, in the order of
the assignments. -/
def writes (e : Expr) (s : Scope) : List (String × Value) :=
  e.assignments.filterMap fun a => (e.valueAt s (a.1 ++ [0])).map (a.2, ·)

variable {s t : Scope} {x : String}

/-- The write of an assignment comes behind those of its value. -/
theorem writes_assign (name : String) (e : Expr) (s : Scope) :
    (assign name e).writes s =
      e.writes s ++ ((e.eval s).1.toOption.map (name, ·)).toList := by
  have hown : valueAt (assign name e) s ([] ++ [0]) = (e.eval s).1.toOption := by
    rw [valueAt, List.nil_append, reached, reached]
    rfl
  rw [writes, assignments, List.filterMap_append, List.filterMap_map]
  congr 1
  rw [List.filterMap_cons, hown]
  cases (e.eval s).1.toOption <;> rfl

theorem writes_unary (op : UnaryOp) (e : Expr) (s : Scope) :
    (unary op e).writes s = e.writes s := by
  rw [writes, assignments, List.filterMap_map]
  rfl

/-- A second operand writes in the scope that the first one leaves, if evaluation comes to it. -/
theorem writes_binary (op : BinaryOp) (l r : Expr) (s : Scope) :
    (binary op l r).writes s = l.writes s ++
      match l.eval s with
      | (.ok v, s₁) =>
        match op.shortcut? v with
        | some _ => []
        | none => r.writes s₁
      | (.error _, _) => [] := by
  rw [writes, assignments, List.filterMap_append, List.filterMap_map, List.filterMap_map]
  congr 1
  rcases heval : l.eval s with ⟨err | v, s₁⟩
  · refine List.filterMap_eq_nil_iff.2 fun a _ => ?_
    simp [valueAt, reached, heval]
  · cases hshort : op.shortcut? v with
    | some w =>
      simp only [hshort]
      refine List.filterMap_eq_nil_iff.2 fun a _ => ?_
      simp [valueAt, reached, heval, hshort]
    | none =>
      simp only [hshort, writes]
      congr 1
      funext a
      simp [valueAt, reached, heval, hshort]

/-- Only what is assigned to is written. -/
theorem mem_targets_of_mem_writes {e : Expr} (h : x ∈ (e.writes s).map Prod.fst) :
    x ∈ e.targets := by
  obtain ⟨w, hw, rfl⟩ := List.mem_map.1 h
  obtain ⟨a, ha, hwrite⟩ := List.mem_filterMap.1 hw
  obtain ⟨v, -, rfl⟩ := Option.map_eq_some_iff.1 hwrite
  exact List.mem_map_of_mem ha

/-- **Evaluation leaves the scope with its writes made**, also where it fails. -/
theorem eval_eq_write (e : Expr) (s : Scope) : (e.eval s).2 = s.write (e.writes s) := by
  induction e generalizing s with
  | null | boolean | number | string => rfl
  | ident name =>
    rw [eval]
    split <;> rfl
  | assign name e ih =>
    have he := ih s
    rw [eval, writes_assign, Scope.write_append, ← he]
    rcases e.eval s with ⟨err | v, s₁⟩ <;> rfl
  | unary op e ih =>
    have he := ih s
    rw [eval, writes_unary, ← he]
    rcases e.eval s with ⟨err | v, s₁⟩ <;> rfl
  | binary op l r ihl ihr =>
    have hl := ihl s
    rw [eval_binary, writes_binary, Scope.write_append, ← hl]
    rcases l.eval s with ⟨err | v, s₁⟩
    · rfl
    cases hshort : op.shortcut? v with
    | some w =>
      simp only [hshort]
      rfl
    | none =>
      have hr := ihr s₁
      simp only [hshort]
      rw [← hr]
      rcases r.eval s₁ with ⟨err | w, s₂⟩ <;> rfl

/-- **Evaluation changes a scope by its completed assignments only**, whether it succeeds or fails:
the dialogue stays, no variable is lost, what is not assigned to keeps its value, and the variables
in the end are those in the beginning with the writes made in order. So a variable has the value
that was written to it last, or else the one it had. -/
theorem eval_changes_by_writes (e : Expr) (s : Scope) :
    (e.eval s).2.dialog = s.dialog ∧
      (∀ x, (s.get? x).isSome = true → ((e.eval s).2.get? x).isSome = true) ∧
      (∀ x, x ∉ e.targets → (e.eval s).2.get? x = s.get? x) ∧
      (e.eval s).2.vars = (e.writes s).foldl (fun vars w => vars.set w.1 w.2) s.vars ∧
      ∀ x, (e.eval s).2.get? x = ((e.writes s).reverse.lookup x).or (s.get? x) := by
  refine ⟨dialog_eval e s, keeps_eval e s, fun x hx => ?_, ?_, fun x => ?_⟩
  · rw [eval_eq_write]
    exact Scope.get?_write_of_notMem fun hwritten => hx (mem_targets_of_mem_writes hwritten)
  · rw [eval_eq_write, Scope.vars_write]
  · rw [eval_eq_write, Scope.get?_write]

/-- The right operand fails behind a write of its own; the assignment around the failure and the
one behind it make none, nor does the one that a false left operand leaves out. -/
example :
    let left := binary .and (assign "a" (.boolean false)) (assign "b" .null)
    let right := assign "c" (unary .neg (assign "a" (.string "x")))
    let e := binary .add (binary .eq left right) (assign "d" .null)
    e.assignments.map Prod.snd = ["a", "b", "a", "c", "d"] ∧
      (e.writes {}).map Prod.fst = ["a", "a"] := by
  decide +kernel

/-! ## Two evaluations -/

/-- **What evaluation gives and writes depends on the names it reads only.** -/
theorem eval_and_writes_eq (e : Expr) (h : ∀ x ∈ e.idents, s.get? x = t.get? x) :
    (e.eval s).1 = (e.eval t).1 ∧ e.writes s = e.writes t := by
  induction e generalizing s t with
  | null | boolean | number | string => exact ⟨rfl, rfl⟩
  | ident name =>
    have hname := h name (List.mem_singleton_self name)
    rw [eval, eval, hname]
    cases t.get? name with
    | none => exact ⟨rfl, rfl⟩
    | some v => exact ⟨rfl, rfl⟩
  | assign name e ih =>
    obtain ⟨hresult, hwrites⟩ := ih h
    refine ⟨?_, by rw [writes_assign, writes_assign, hresult, hwrites]⟩
    rw [eval, eval]
    rcases hs : e.eval s with ⟨err | v, s₁⟩ <;> rcases ht : e.eval t with ⟨err' | v', t₁⟩ <;>
      rw [hs, ht] at hresult <;> exact hresult
  | unary op e ih =>
    obtain ⟨hresult, hwrites⟩ := ih h
    refine ⟨?_, by rw [writes_unary, writes_unary, hwrites]⟩
    rw [eval, eval]
    rcases hs : e.eval s with ⟨err | v, s₁⟩ <;> rcases ht : e.eval t with ⟨err' | v', t₁⟩ <;>
      rw [hs, ht] at hresult <;> cases hresult <;> rfl
  | binary op l r ihl ihr =>
    rw [idents, List.forall_mem_append] at h
    obtain ⟨hresult, hwrites⟩ := ihl h.1
    have hs₁ := eval_eq_write l s
    have ht₁ := eval_eq_write l t
    rw [eval_binary, eval_binary, writes_binary, writes_binary, ← hwrites]
    rcases hs : l.eval s with ⟨err | v, s₁⟩ <;> rcases ht : l.eval t with ⟨err' | v', t₁⟩ <;>
      rw [hs] at hresult hs₁ <;> rw [ht] at hresult ht₁ <;> cases hresult
    · exact ⟨rfl, rfl⟩
    -- the first operand has made the same writes in both, so they still agree on the second's names
    have hagree : ∀ x ∈ r.idents, s₁.get? x = t₁.get? x := by
      intro x hx
      rw [show s₁ = s.write (l.writes s) from hs₁, show t₁ = t.write (l.writes t) from ht₁,
        ← hwrites, Scope.get?_write, Scope.get?_write, h.2 x hx]
    obtain ⟨hresult', hwrites'⟩ := ihr hagree
    cases hshort : op.shortcut? v with
    | some w =>
      simp only [hshort]
      exact ⟨trivial, trivial⟩
    | none =>
      simp only [hshort]
      refine ⟨?_, by rw [hwrites']⟩
      rcases hr : r.eval s₁ with ⟨err | w, s₂⟩ <;> rcases hr' : r.eval t₁ with ⟨err' | w', t₂⟩ <;>
        rw [hr, hr'] at hresult' <;> cases hresult' <;> rfl

/-- **Two scopes that agree on the names an expression reads are evaluated alike**: the result is
the same, and each variable either is written in neither and keeps what it was in each, or is
written in both and ends with the same value. -/
theorem eval_alike_of_agree (e : Expr) (h : ∀ x ∈ e.idents, s.get? x = t.get? x) :
    (e.eval s).1 = (e.eval t).1 ∧
      ∀ x,
        (x ∉ (e.writes s).map Prod.fst ∧ x ∉ (e.writes t).map Prod.fst ∧
          (e.eval s).2.get? x = s.get? x ∧ (e.eval t).2.get? x = t.get? x) ∨
        (x ∈ (e.writes s).map Prod.fst ∧ x ∈ (e.writes t).map Prod.fst ∧
          ∃ v, (e.eval s).2.get? x = some v ∧ (e.eval t).2.get? x = some v) := by
  obtain ⟨hresult, hwrites⟩ := eval_and_writes_eq e h
  refine ⟨hresult, fun x => ?_⟩
  rw [eval_eq_write, eval_eq_write, ← hwrites]
  by_cases hx : x ∈ (e.writes s).map Prod.fst
  · obtain ⟨v, hv⟩ := Scope.exists_get?_write_of_mem hx
    exact .inr ⟨hx, hx, v, hv s, hv t⟩
  · exact .inl ⟨hx, hx, Scope.get?_write_of_notMem hx, Scope.get?_write_of_notMem hx⟩

/-- Both evaluations give a variable that only one of the scopes has the same value and fail at the
same undefined name; the variable in which the scopes differ stays as it is in each. -/
theorem eval_alike_of_agree_failing :
    let e := binary .or (unary .not (assign "a" (ident "b"))) (ident "c")
    let s : Scope := ⟨"", .ofList [("b", .string "new"), ("d", .null)]⟩
    let t : Scope := ⟨"", .ofList [("a", .string "old"), ("b", .string "new")]⟩
    (∀ x ∈ e.idents, s.get? x = t.get? x) ∧
      (e.eval s).1 = .error (.undefinedVariable "c") ∧ (e.eval s).1 = (e.eval t).1 ∧
      (e.eval s).2.get? "a" = some (.string "new") ∧
      (e.eval t).2.get? "a" = some (.string "new") ∧
      (e.eval s).2.get? "d" = some .null ∧ (e.eval t).2.get? "d" = none := by
  intro e s t
  have hagree : ∀ x ∈ e.idents, s.get? x = t.get? x := by
    intro x hx
    rcases List.mem_cons.1 hx with rfl | hx
    · rfl
    · rw [List.mem_singleton.1 hx]
      rfl
  obtain ⟨hresult, hvars⟩ := eval_alike_of_agree e hagree
  have hwritten : "a" ∈ (e.writes s).map Prod.fst := by decide +kernel
  have hspared : "d" ∉ (e.writes s).map Prod.fst := by decide +kernel
  obtain ⟨hnot, -⟩ | ⟨-, -, v, hs, ht⟩ := hvars "a"
  · exact absurd hwritten hnot
  obtain ⟨-, -, hs', ht'⟩ | ⟨hin, -⟩ := hvars "d"
  · have hv : (e.eval s).2.get? "a" = some (.string "new") := rfl
    exact ⟨hagree, rfl, hresult, hv, ht.trans (hs.symm.trans hv), hs', ht'⟩
  · exact absurd hin hspared

end Expr

end DialogueScript
