/-!
# Expressions

The expressions a script evaluates: literals, variables, assignments and
operators. Assignment is the only one that changes anything.
-/

namespace DialogueScript

/-- Operators on one operand. -/
inductive UnaryOp
  | not
  | neg
deriving Repr, DecidableEq

/-- Operators on two operands. -/
inductive BinaryOp
  | add
  | sub
  | mul
  | div
  | eq
  | ne
  | lt
  | le
  | gt
  | ge
  | and
  | or
deriving Repr, DecidableEq

/-- An expression. -/
inductive Expr
  | null
  | boolean (b : Bool)
  | number (x : Float)
  | string (s : String)
  | ident (name : String)
  | assign (name : String) (value : Expr)
  | unary (op : UnaryOp) (operand : Expr)
  | binary (op : BinaryOp) (left right : Expr)
deriving Repr, Inhabited

/-- The sign messages use for an operator. -/
def UnaryOp.symbol : UnaryOp → String
  | .not => "!"
  | .neg => "-"

/-- The sign messages use for an operator. -/
def BinaryOp.symbol : BinaryOp → String
  | .add => "+"
  | .sub => "-"
  | .mul => "*"
  | .div => "/"
  | .eq => "=="
  | .ne => "!="
  | .lt => "<"
  | .le => "<="
  | .gt => ">"
  | .ge => ">="
  | .and => "&&"
  | .or => "||"

namespace Expr

/-- Whether two expressions are built alike. Numbers are compared by value, so
the two zeros are alike. -/
def beq : Expr → Expr → Bool
  | .null, .null => true
  | .boolean a, .boolean b => a == b
  | .number x, .number y => x == y
  | .string s, .string t => s == t
  | .ident a, .ident b => a == b
  | .assign a e, .assign b f => a == b && beq e f
  | .unary o e, .unary p f => o == p && beq e f
  | .binary o e₁ e₂, .binary p f₁ f₂ => o == p && beq e₁ f₁ && beq e₂ f₂
  | _, _ => false

instance : BEq Expr := ⟨beq⟩

end Expr

end DialogueScript
