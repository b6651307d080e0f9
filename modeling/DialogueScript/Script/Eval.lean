import DialogueScript.Script.Expr
import DialogueScript.Script.Scope
/-!
# Evaluation

Expressions are evaluated against a scope. Operands go from left to right, the
logical operators leave out an operand they do not need, and a failure keeps
the assignments made before it: the scope is part of the answer either way.
-/

namespace DialogueScript

/-- Why an expression has no value. -/
inductive EvalError
  | undefinedVariable (name : String)
  | typeMismatch (symbol : String) (left right : ValueType)
  | divisionByZero
deriving Repr, DecidableEq

/-- The message of an evaluation error. -/
def EvalError.message : EvalError → String
  | .undefinedVariable name => "undefined variable '" ++ name ++ "'"
  | .typeMismatch symbol left right =>
    "operator '" ++ symbol ++ "' cannot be applied to " ++ left.name ++ " and " ++ right.name
  | .divisionByZero => "division by zero"

/-- Negation of a value. -/
def UnaryOp.apply : UnaryOp → Value → Except EvalError Value
  | .not, v => .ok (.boolean (!v.isTruthy))
  | .neg, .number x => .ok (.number (-x))
  | .neg, v => .error (.typeMismatch UnaryOp.neg.symbol v.type v.type)

namespace BinaryOp

/-- Operators on two numbers. -/
def onNumbers (x y : Float) : BinaryOp → Option (Except EvalError Value)
  | .add => some (.ok (.number (x + y)))
  | .sub => some (.ok (.number (x - y)))
  | .mul => some (.ok (.number (x * y)))
  | .div => some (if y == 0 then .error .divisionByZero else .ok (.number (x / y)))
  | .lt => some (.ok (.boolean (x < y)))
  | .le => some (.ok (.boolean (x ≤ y)))
  | .gt => some (.ok (.boolean (y < x)))
  | .ge => some (.ok (.boolean (y ≤ x)))
  | _ => none

/-- Comparisons of two strings, by code point. -/
def onStrings (s t : String) : BinaryOp → Option (Except EvalError Value)
  | .lt => some (.ok (.boolean (s < t)))
  | .le => some (.ok (.boolean (s ≤ t)))
  | .gt => some (.ok (.boolean (t < s)))
  | .ge => some (.ok (.boolean (t ≤ s)))
  | _ => none

/-- Whether a value is a string. -/
def isString : Value → Bool
  | .string _ => true
  | _ => false

/-- The text of two values one after the other, if one of them is a string. -/
def onTexts (l r : Value) : BinaryOp → Option (Except EvalError Value)
  | .add => if isString l || isString r then some (.ok (.string (l.display ++ r.display))) else none
  | _ => none

/-- An operator that takes both operands. Any two values can be compared for
equality; the rest depends on their types. -/
def apply (op : BinaryOp) (l r : Value) : Except EvalError Value :=
  match op with
  | .eq => .ok (.boolean (l == r))
  | .ne => .ok (.boolean (l != r))
  | op =>
    let special :=
      match l, r with
      | .number x, .number y => onNumbers x y op
      | .string s, .string t => onStrings s t op
      | _, _ => none
    match special <|> onTexts l r op with
    | some answer => answer
    | none => .error (.typeMismatch op.symbol l.type r.type)

end BinaryOp

namespace Expr

/-- Evaluates an expression. -/
def eval : Expr → Scope → Except EvalError Value × Scope
  | .null, s => (.ok .null, s)
  | .boolean b, s => (.ok (.boolean b), s)
  | .number x, s => (.ok (.number x), s)
  | .string t, s => (.ok (.string t), s)
  | .ident name, s =>
    match s.get? name with
    | some v => (.ok v, s)
    | none => (.error (.undefinedVariable name), s)
  | .assign name e, s =>
    match e.eval s with
    | (.ok v, s) => (.ok v, s.set name v)
    | (.error err, s) => (.error err, s)
  | .unary op e, s =>
    match e.eval s with
    | (.ok v, s) => (op.apply v, s)
    | (.error err, s) => (.error err, s)
  | .binary .and l r, s =>
    match l.eval s with
    | (.ok v, s) =>
      if v.isTruthy then
        match r.eval s with
        | (.ok w, s) => (.ok (.boolean w.isTruthy), s)
        | (.error err, s) => (.error err, s)
      else (.ok (.boolean false), s)
    | (.error err, s) => (.error err, s)
  | .binary .or l r, s =>
    match l.eval s with
    | (.ok v, s) =>
      if v.isTruthy then (.ok (.boolean true), s)
      else
        match r.eval s with
        | (.ok w, s) => (.ok (.boolean w.isTruthy), s)
        | (.error err, s) => (.error err, s)
    | (.error err, s) => (.error err, s)
  | .binary op l r, s =>
    match l.eval s with
    | (.ok v, s) =>
      match r.eval s with
      | (.ok w, s) => (op.apply v w, s)
      | (.error err, s) => (.error err, s)
    | (.error err, s) => (.error err, s)

/-- Evaluation leaves the dialogue alone, on every branch and also where it
fails. -/
theorem dialog_eval (e : Expr) (s : Scope) : (e.eval s).2.dialog = s.dialog := by
  fun_induction Expr.eval e s
  all_goals simp_all

end Expr

end DialogueScript
