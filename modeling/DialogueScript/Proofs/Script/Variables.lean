import DialogueScript.Script.Eval
/-!
# Evaluation and the variables of a scope

An expression reads the variables whose names occur in it and writes
those it assigns to. Evaluating it takes no variable away
(`keeps_eval`), so a variable that it found undefined is one of its
names, and was undefined all along (`unbound_of_eval`). The dialogue is
no part of this: scopes with the same variables are evaluated alike
(`eval_eq_of_vars_eq`).

The operators on two operands differ in whether the first operand
decides (`shortcut?`) and in what is made of both (`combine`).
`eval_binary` says so for all of them at once, and every induction over
expressions goes through it.
-/

namespace DialogueScript

/-! ## Operators -/

/-- What the first operand of a logical operator gives if it decides. -/
def BinaryOp.shortcut? : BinaryOp → Value → Option Value
  | .and, v => if v.isTruthy then none else some (.boolean false)
  | .or, v => if v.isTruthy then some (.boolean true) else none
  | _, _ => none

/-- What an operator makes of both operands. -/
def BinaryOp.combine : BinaryOp → Value → Value → Except EvalError Value
  | .and, _, w => .ok (.boolean w.isTruthy)
  | .or, _, w => .ok (.boolean w.isTruthy)
  | op, v, w => op.apply v w

/-- No operator says of a value that a variable is undefined. -/
theorem UnaryOp.apply_ne_undefined (op : UnaryOp) (v : Value) (x : String) :
    op.apply v ≠ .error (.undefinedVariable x) := by
  unfold apply
  split <;> simp

theorem BinaryOp.apply_ne_undefined (op : BinaryOp) (v w : Value) (x : String) :
    op.apply v w ≠ .error (.undefinedVariable x) := by
  have hnumbers : ∀ a b, op.onNumbers a b ≠ some (.error (.undefinedVariable x)) := by
    intro a b
    unfold onNumbers
    split <;> try split
    all_goals simp
  have hstrings : ∀ a b, op.onStrings a b ≠ some (.error (.undefinedVariable x)) := by
    intro a b
    unfold onStrings
    split <;> simp
  have htexts : op.onTexts v w ≠ some (.error (.undefinedVariable x)) := by
    unfold onTexts
    split <;> try split
    all_goals simp
  intro h
  unfold apply at h
  split at h
  · cases h
  · cases h
  · -- what the types decide comes from one of the three, and otherwise they do not match
    dsimp only at h
    split at h
    · rename_i answer hanswer
      rw [h] at hanswer
      simp only [Option.orElse_eq_orElse, Option.orElse_eq_or, Option.or_eq_some_iff] at hanswer
      rcases hanswer with hspecial | ⟨-, htext⟩
      · split at hspecial
        · exact hnumbers _ _ hspecial
        · exact hstrings _ _ hspecial
        · cases hspecial
      · exact htexts htext
    · cases h

theorem BinaryOp.combine_ne_undefined (op : BinaryOp) (v w : Value) (x : String) :
    op.combine v w ≠ .error (.undefinedVariable x) := by
  unfold combine
  split
  · simp
  · simp
  · exact op.apply_ne_undefined v w x

/-! ## Scopes -/

/-- Every variable of one scope is one of another. -/
def Scope.Keeps (s t : Scope) : Prop := ∀ x, (s.get? x).isSome = true → (t.get? x).isSome = true

namespace Scope

variable {s t u : Scope} {x : String}

theorem Keeps.refl (s : Scope) : s.Keeps s := fun _ h => h

theorem Keeps.trans (h : s.Keeps t) (h' : t.Keeps u) : s.Keeps u := fun x hx => h' x (h x hx)

/-- What is not defined in the end was never defined. -/
theorem Keeps.unbound (h : s.Keeps t) (hx : t.get? x = none) : s.get? x = none := by
  cases hs : s.get? x with
  | none => rfl
  | some v =>
    have := h x (by rw [hs]; rfl)
    rw [hx] at this
    cases this

/-- Giving a variable a value takes none away. -/
theorem keeps_set (s : Scope) (name : String) (value : Value) : s.Keeps (s.set name value) := by
  intro x hx
  change ((s.vars.set name value).get? x).isSome = true
  rw [Variables.get?_set]
  split
  · rfl
  · exact hx

end Scope

/-! ## Expressions -/

namespace Expr

/-- The names of the variables that an expression reads. -/
def idents : Expr → List String
  | .ident name => [name]
  | .assign _ e => e.idents
  | .unary _ e => e.idents
  | .binary _ l r => l.idents ++ r.idents
  | _ => []

variable {s t : Scope} {x : String}

/-- **An operator takes its first operand, and its second unless the first
decides.** -/
theorem eval_binary (op : BinaryOp) (l r : Expr) (s : Scope) :
    (binary op l r).eval s =
      match l.eval s with
      | (.ok v, s₁) =>
        match op.shortcut? v with
        | some w => (.ok w, s₁)
        | none =>
          match r.eval s₁ with
          | (.ok w, s₂) => (op.combine v w, s₂)
          | (.error err, s₂) => (.error err, s₂)
      | (.error err, s₁) => (.error err, s₁) := by
  cases op
  case and | or =>
    simp only [eval]
    rcases l.eval s with ⟨err | v, s₁⟩
    · rfl
    · cases hv : v.isTruthy <;> rcases hr : r.eval s₁ with ⟨err | w, s₂⟩ <;>
        simp [hr, hv, BinaryOp.shortcut?, BinaryOp.combine]
  all_goals
    simp only [eval]
    rcases l.eval s with ⟨err | v, s₁⟩
    · rfl
    · rcases h : r.eval s₁ with ⟨err | w, s₂⟩ <;> simp [h, BinaryOp.shortcut?, BinaryOp.combine]

/-- **Evaluation takes no variable away**, also where it fails. -/
theorem keeps_eval (e : Expr) (s : Scope) : s.Keeps (e.eval s).2 := by
  induction e generalizing s with
  | null | boolean | number | string => exact .refl s
  | ident name =>
    rw [eval]
    split <;> exact .refl s
  | assign name e ih =>
    have he := ih s
    rw [eval]
    rcases h : e.eval s with ⟨err | v, s₁⟩ <;> rw [h] at he
    · exact he
    · exact he.trans (Scope.keeps_set s₁ name v)
  | unary op e ih =>
    have he := ih s
    rw [eval]
    rcases h : e.eval s with ⟨err | v, s₁⟩ <;> rw [h] at he <;> exact he
  | binary op l r ihl ihr =>
    have hl := ihl s
    rw [eval_binary]
    rcases h : l.eval s with ⟨err | v, s₁⟩ <;> rw [h] at hl
    · exact hl
    have hr := ihr s₁
    cases hshort : op.shortcut? v with
    | some w => simpa only [hshort] using hl
    | none =>
      rcases h' : r.eval s₁ with ⟨err | w, s₂⟩ <;> rw [h'] at hr <;>
        simpa only [hshort, h'] using hl.trans hr

/-- **A variable that evaluation finds undefined is one that the expression
reads, and is undefined in the end.** By `keeps_eval` it was so from the
beginning. -/
theorem unbound_of_eval (e : Expr) (s : Scope)
    (h : (e.eval s).1 = .error (.undefinedVariable x)) :
    x ∈ e.idents ∧ (e.eval s).2.get? x = none := by
  induction e generalizing s with
  | null | boolean | number | string => cases h
  | ident name =>
    rw [eval] at h ⊢
    cases hx : s.get? name with
    | none =>
      rw [hx] at h
      cases h
      exact ⟨List.mem_singleton_self _, hx⟩
    | some v =>
      rw [hx] at h
      cases h
  | assign name e ih =>
    have he := ih s
    rw [eval] at h ⊢
    rcases heval : e.eval s with ⟨err | v, s₁⟩ <;> rw [heval] at h he
    · exact he h
    · cases h
  | unary op e ih =>
    have he := ih s
    rw [eval] at h ⊢
    rcases heval : e.eval s with ⟨err | v, s₁⟩ <;> rw [heval] at h he
    · exact he h
    · exact absurd h (op.apply_ne_undefined v x)
  | binary op l r ihl ihr =>
    have hl := ihl s
    rw [eval_binary] at h ⊢
    rw [idents, List.mem_append]
    rcases heval : l.eval s with ⟨err | v, s₁⟩ <;> rw [heval] at h hl
    · exact (hl h).imp_left .inl
    have hr := ihr s₁
    cases hshort : op.shortcut? v with
    | some w =>
      simp only [hshort] at h
      cases h
    | none =>
      simp only [hshort] at h ⊢
      rcases heval' : r.eval s₁ with ⟨err | w, s₂⟩ <;> rw [heval'] at h hr
      · exact (hr h).imp_left .inr
      · exact absurd h (op.combine_ne_undefined v w x)

/-- **Scopes with the same variables are evaluated alike**, whatever has been
said in them. -/
theorem eval_eq_of_vars_eq (e : Expr) (h : s.vars = t.vars) :
    (e.eval s).1 = (e.eval t).1 ∧ (e.eval s).2.vars = (e.eval t).2.vars := by
  induction e generalizing s t with
  | null | boolean | number | string => exact ⟨rfl, h⟩
  | ident name =>
    have hget : s.get? name = t.get? name := congrArg (·.get? name) h
    rw [eval, eval, hget]
    cases t.get? name with
    | none => exact ⟨rfl, h⟩
    | some v => exact ⟨rfl, h⟩
  | assign name e ih =>
    obtain ⟨hresult, hvars⟩ := ih h
    rw [eval, eval]
    generalize e.eval s = es at hresult hvars ⊢
    generalize e.eval t = et at hresult hvars ⊢
    obtain ⟨err | v, s₁⟩ := es <;> obtain ⟨err' | v', t₁⟩ := et <;> cases hresult
    · exact ⟨rfl, hvars⟩
    · exact ⟨rfl, congrArg (·.set name v) hvars⟩
  | unary op e ih =>
    obtain ⟨hresult, hvars⟩ := ih h
    rw [eval, eval]
    generalize e.eval s = es at hresult hvars ⊢
    generalize e.eval t = et at hresult hvars ⊢
    obtain ⟨err | v, s₁⟩ := es <;> obtain ⟨err' | v', t₁⟩ := et <;> cases hresult <;>
      exact ⟨rfl, hvars⟩
  | binary op l r ihl ihr =>
    obtain ⟨hresult, hvars⟩ := ihl h
    rw [eval_binary, eval_binary]
    generalize l.eval s = ls at hresult hvars ⊢
    generalize l.eval t = lt at hresult hvars ⊢
    obtain ⟨err | v, s₁⟩ := ls <;> obtain ⟨err' | v', t₁⟩ := lt <;> cases hresult
    · exact ⟨rfl, hvars⟩
    obtain ⟨hresult', hvars'⟩ := ihr hvars
    cases hshort : op.shortcut? v with
    | some w =>
      simp only [hshort]
      exact ⟨trivial, hvars⟩
    | none =>
      simp only [hshort]
      generalize r.eval s₁ = rs at hresult' hvars' ⊢
      generalize r.eval t₁ = rt at hresult' hvars' ⊢
      obtain ⟨err | w, s₂⟩ := rs <;> obtain ⟨err' | w', t₂⟩ := rt <;> cases hresult' <;>
        exact ⟨rfl, hvars'⟩

end Expr

end DialogueScript
