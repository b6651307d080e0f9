import DialogueScript.Json.Tagged
import DialogueScript.Script.Instruction
/-!
# Scripts from JSON

Expressions and instructions are tagged values. An instruction or a command
with an unknown name is kept as a leaf of an unknown kind, whatever else it
holds; an expression with an unknown name is refused.

A value inside another is decoded by the function the outer one is given for
it, so every decoder here is plain; `ofJson` ties the knot with the depth of
the value, which bounds how far the decoding can go down.
-/

namespace DialogueScript

open Json

/-! ## Expressions -/

/-- The names of the operators on one operand. -/
def UnaryOp.names : List (String × UnaryOp) :=
  [("Not", .not), ("Neg", .neg)]

/-- The names of the operators on two operands. -/
def BinaryOp.names : List (String × BinaryOp) :=
  [("Add", .add), ("Sub", .sub), ("Mul", .mul), ("Div", .div), ("Eq", .eq), ("Ne", .ne),
    ("Lt", .lt), ("Le", .le), ("Gt", .gt), ("Ge", .ge), ("And", .and), ("Or", .or)]

namespace Expr

/-- The forms of expressions. -/
inductive Form
  | null
  | boolean
  | number
  | string
  | ident
  | assign
  | unary
  | binary
deriving Repr, DecidableEq

/-- The names of the forms, in the order of their numbers. -/
def Form.names : List (String × Form) :=
  [("LitNull", .null), ("LitBool", .boolean), ("LitNum", .number), ("LitStr", .string),
    ("Ident", .ident), ("Assign", .assign), ("Unary", .unary), ("Binary", .binary)]

/-- The form a tag names. -/
def Form.ofTag : Tag → Except Mismatch Form
  | .name s =>
    match names.lookup s with
    | some f => .ok f
    | none => .error (.unknownVariant s (names.map (·.1)))
  | .index i =>
    match names[i]? with
    | some (_, f) => .ok f
    | none => .error (.invalidValue (.integer i) "variant index 0 <= i < 8")

/-- The name of the tag of expressions. -/
def tagName : String := "type"

/-- What messages call the place of an expression. -/
def expected : String := "internally tagged enum Expr"

/-- The expression of a form and a body, in which operands are decoded by
`nested`. -/
def ofBody (nested : Json → Except Mismatch Expr) (form : Form) (body : Body) :
    Except Mismatch Expr :=
  match form with
  | .null => do
    Fields.zero body
    return .null
  | .boolean => .boolean <$> Fields.one "Expr::LitBool" ⟨"v", asBoolean⟩ body
  | .number => .number <$> Fields.one "Expr::LitNum" ⟨"v", asFloat⟩ body
  | .string => .string <$> Fields.one "Expr::LitStr" ⟨"v", asString⟩ body
  | .ident => .ident <$> Fields.one "Expr::Ident" ⟨"name", asString⟩ body
  | .assign => do
    let (name, e) ← Fields.two "Expr::Assign" ⟨"name", asString⟩ ⟨"value", nested⟩ body
    return .assign name e
  | .unary => do
    let (op, e) ← Fields.two "Expr::Unary" ⟨"op", asChoice UnaryOp.names⟩ ⟨"operand", nested⟩ body
    return .unary op e
  | .binary => do
    let (op, l, r) ← Fields.three "Expr::Binary" ⟨"op", asChoice BinaryOp.names⟩
      ⟨"left", nested⟩ ⟨"right", nested⟩ body
    return .binary op l r

/-- The expression of a value that nests less deep than given. -/
def ofJsonWithin : (depth : Nat) → Json → Except Mismatch Expr
  | 0, v => .error (.invalidType v.found expected)
  | depth + 1, v => do
    let (form, body) ← splitTag tagName expected Form.ofTag v
    ofBody (ofJsonWithin depth) form body

/-- The expression of a value. -/
def ofJson (v : Json) : Except Mismatch Expr :=
  ofJsonWithin (v.depth + 1) v

/-- Reads an expression from a whole text. -/
def read (text : String) : Except Fault Expr :=
  Reader.run (do
    let (form, body) ← readTagged tagName expected Form.ofTag
    Reader.check (ofBody ofJson form body)) text

end Expr

/-! ## Instructions -/

namespace Instruction

/-- The forms of instructions. -/
inductive Form
  | script
  | command
  | dialog
  | expression
  | pause
  | unknown
deriving Repr, DecidableEq

/-- The names of the known forms, in the order of their numbers. -/
def Form.names : List (String × Form) :=
  [("Script", .script), ("Command", .command), ("Dialog", .dialog), ("Expression", .expression),
    ("Pause", .pause)]

/-- The form a tag names. Every name and every number stands for some form. -/
def Form.ofTag : Tag → Except Mismatch Form
  | .name s => .ok ((names.lookup s).getD .unknown)
  | .index i => .ok ((names[i]?.map (·.2)).getD .unknown)

/-- The forms of commands. -/
inductive CommandForm
  | ifBlock
  | ifChainLink
  | eachBlock
  | unknown
deriving Repr, DecidableEq

/-- The names of the known commands, in the order of their numbers. -/
def CommandForm.names : List (String × CommandForm) :=
  [("IfBlock", .ifBlock), ("IfChainLink", .ifChainLink), ("EachBlock", .eachBlock)]

/-- The command a tag names. -/
def CommandForm.ofTag : Tag → Except Mismatch CommandForm
  | .name s => .ok ((names.lookup s).getD .unknown)
  | .index i => .ok ((names[i]?.map (·.2)).getD .unknown)

/-- The name of the tag of instructions. -/
def tagName : String := "type"

/-- The name of the tag of commands. -/
def commandTagName : String := "cmdType"

/-- What messages call the place of an instruction. -/
def expected : String := "internally tagged enum Instruction"

/-- What messages call the place of a command. -/
def expectedCommand : String := "internally tagged enum Command"

/-- A body as the value it is the rest of. -/
def bodyJson : Body → Json
  | .named fields => .object fields
  | .positional items => .array items

/-- The command of a body, whose instructions are decoded by `nested`. -/
def commandOfBody (nested : Json → Except Mismatch Instruction) (body : Body) :
    Except Mismatch Instruction := do
  let (form, body) ← splitTag commandTagName expectedCommand CommandForm.ofTag (bodyJson body)
  match form with
  | .ifBlock =>
    .composite .ifBlock <$> Fields.one "Command::IfBlock" ⟨"chain", asList nested⟩ body
  | .ifChainLink =>
    .composite .ifChainLink <$> Fields.one "Command::IfChainLink" ⟨"block", asList nested⟩ body
  | .eachBlock =>
    .composite .eachBlock <$> Fields.one "Command::EachBlock" ⟨"block", asList nested⟩ body
  | .unknown => do
    Fields.zero body
    return .unknownCommand

/-- The instruction of a form and a body, whose instructions are decoded by
`nested`. -/
def ofBody (nested : Json → Except Mismatch Instruction) (form : Form) (body : Body) :
    Except Mismatch Instruction :=
  match form with
  | .script =>
    .composite .script <$> Fields.one "Instruction::Script" ⟨"instructions", asList nested⟩ body
  | .command => commandOfBody nested body
  | .dialog => .dialog <$> Fields.one "Instruction::Dialog" ⟨"text", asString⟩ body
  | .expression => .expression <$> Fields.one "Instruction::Expression" ⟨"expr", Expr.ofJson⟩ body
  | .pause => do
    Fields.zero body
    return .pause
  | .unknown => do
    Fields.zero body
    return .unknown

/-- The instruction of a value that nests less deep than given. -/
def ofJsonWithin : (depth : Nat) → Json → Except Mismatch Instruction
  | 0, v => .error (.invalidType v.found expected)
  | depth + 1, v => do
    let (form, body) ← splitTag tagName expected Form.ofTag v
    ofBody (ofJsonWithin depth) form body

/-- The instruction of a value. -/
def ofJson (v : Json) : Except Mismatch Instruction :=
  ofJsonWithin (v.depth + 1) v

/-- Reads a script from a whole text. -/
def read (text : String) : Except Fault Instruction :=
  Reader.run (do
    let (form, body) ← readTagged tagName expected Form.ofTag
    Reader.check (ofBody ofJson form body)) text

end Instruction

end DialogueScript
