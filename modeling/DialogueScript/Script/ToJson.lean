import DialogueScript.Json.Written
import DialogueScript.Script.FromJson
/-!
# Scripts as JSON

Expressions and instructions as JSON values: objects with the tag first and the
fields in their order. Leaves of an unknown kind keep nothing but that.
-/

namespace DialogueScript

/-- The name of an operator. -/
def UnaryOp.name : UnaryOp → String
  | .not => "Not"
  | .neg => "Neg"

/-- The name of an operator. -/
def BinaryOp.name : BinaryOp → String
  | .add => "Add"
  | .sub => "Sub"
  | .mul => "Mul"
  | .div => "Div"
  | .eq => "Eq"
  | .ne => "Ne"
  | .lt => "Lt"
  | .le => "Le"
  | .gt => "Gt"
  | .ge => "Ge"
  | .and => "And"
  | .or => "Or"

namespace Expr

/-- An expression as a JSON value. -/
def toJson : Expr → Json
  | .null => .object [("type", .string "LitNull")]
  | .boolean b => .object [("type", .string "LitBool"), ("v", .boolean b)]
  | .number x => .object [("type", .string "LitNum"), ("v", .number (.float x))]
  | .string s => .object [("type", .string "LitStr"), ("v", .string s)]
  | .ident name => .object [("type", .string "Ident"), ("name", .string name)]
  | .assign name e =>
    .object [("type", .string "Assign"), ("name", .string name), ("value", e.toJson)]
  | .unary op e =>
    .object [("type", .string "Unary"), ("op", .string op.name), ("operand", e.toJson)]
  | .binary op l r =>
    .object [("type", .string "Binary"), ("op", .string op.name), ("left", l.toJson),
      ("right", r.toJson)]

/-- An expression as compact text. -/
def write (e : Expr) : String := e.toJson.compact

end Expr

/-- The tags of a composite instruction and the name of its body. -/
def Composite.tags : Composite → List (String × Json) × String
  | .script => ([("type", .string "Script")], "instructions")
  | .ifBlock => ([("type", .string "Command"), ("cmdType", .string "IfBlock")], "chain")
  | .ifChainLink => ([("type", .string "Command"), ("cmdType", .string "IfChainLink")], "block")
  | .eachBlock => ([("type", .string "Command"), ("cmdType", .string "EachBlock")], "block")

namespace Instruction

mutual

/-- An instruction as a JSON value. -/
def toJson : Instruction → Json
  | .composite form body => .object (form.tags.1 ++ [(form.tags.2, .array (toJsonList body))])
  | .dialog text => .object [("type", .string "Dialog"), ("text", .string text)]
  | .expression e => .object [("type", .string "Expression"), ("expr", e.toJson)]
  | .pause => .object [("type", .string "Pause")]
  | .unknownCommand => .object [("type", .string "Command"), ("cmdType", .string "Unknown")]
  | .unknown => .object [("type", .string "Unknown")]

/-- Instructions as JSON values. -/
def toJsonList : List Instruction → List Json
  | [] => []
  | i :: is => toJson i :: toJsonList is

end

/-- An instruction as compact text. -/
def write (i : Instruction) : String := i.toJson.compact

end Instruction

end DialogueScript
