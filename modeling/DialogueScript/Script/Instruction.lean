import DialogueScript.Script.Expr
/-!
# Instructions

A script is a tree of instructions. Composite instructions hold other
instructions; the rest are leaves. Instructions of a kind this library does not
know are kept as leaves without an effect.
-/

namespace DialogueScript

/-- The composite instructions: a script, the chain of a conditional, one link
of such a chain, and the body of a loop. -/
inductive Composite
  | script
  | ifBlock
  | ifChainLink
  | eachBlock
deriving Repr, DecidableEq

/-- A node of the instruction tree. -/
inductive Instruction
  /-- Instructions one after the other. -/
  | composite (form : Composite) (body : List Instruction)
  /-- A line of dialogue. -/
  | dialog (text : String)
  /-- An expression, evaluated for its assignments. -/
  | expression (expr : Expr)
  /-- Where a run stops until it is continued. -/
  | pause
  /-- A command of an unknown kind. -/
  | unknownCommand
  /-- An instruction of an unknown kind. -/
  | unknown
deriving Inhabited

/-- The kinds of instruction that reports tell apart. -/
inductive Kind
  | script
  | ifBlock
  | ifChainLink
  | eachBlock
  | command
  | dialog
  | expression
  | pause
  | unknown
deriving Repr, DecidableEq

/-- The name of a kind in reports. -/
def Kind.name : Kind → String
  | .script => "Script"
  | .ifBlock => "IfBlock"
  | .ifChainLink => "IfChainLink"
  | .eachBlock => "EachBlock"
  | .command => "Command"
  | .dialog => "Dialog"
  | .expression => "Expression"
  | .pause => "Pause"
  | .unknown => "Unknown"

/-- The kind of a composite instruction. -/
def Composite.kind : Composite → Kind
  | .script => .script
  | .ifBlock => .ifBlock
  | .ifChainLink => .ifChainLink
  | .eachBlock => .eachBlock

namespace Instruction

/-- The kind of an instruction. -/
def kind : Instruction → Kind
  | .composite form _ => form.kind
  | .dialog _ => .dialog
  | .expression _ => .expression
  | .pause => .pause
  | .unknownCommand => .command
  | .unknown => .unknown

/-- Whether a run stops here. -/
def isPause : Instruction → Bool
  | .pause => true
  | _ => false

/-- Whether applying the instruction can change anything. -/
def hasEffect : Instruction → Bool
  | .dialog _ => true
  | .expression _ => true
  | _ => false

mutual

/-- How many instructions a tree holds, its root included. -/
def size : Instruction → Nat
  | .composite _ body => 1 + sizeList body
  | .dialog _ => 1
  | .expression _ => 1
  | .pause => 1
  | .unknownCommand => 1
  | .unknown => 1

/-- How many instructions a list of trees holds. -/
def sizeList : List Instruction → Nat
  | [] => 0
  | i :: is => size i + sizeList is

end

mutual

/-- Whether two trees are built alike. -/
def beq : Instruction → Instruction → Bool
  | .composite f xs, .composite g ys => f == g && beqList xs ys
  | .dialog s, .dialog t => s == t
  | .expression e, .expression f => e == f
  | .pause, .pause => true
  | .unknownCommand, .unknownCommand => true
  | .unknown, .unknown => true
  | _, _ => false

/-- Whether two lists of trees are built alike. -/
def beqList : List Instruction → List Instruction → Bool
  | [], [] => true
  | x :: xs, y :: ys => beq x y && beqList xs ys
  | _, _ => false

end

instance : BEq Instruction := ⟨beq⟩

end Instruction

end DialogueScript
