import DialogueScript.Script.Scope
import DialogueScript.Text.Space
import DialogueScript.Traversal.Stepper
/-!
# Reports

The lines that the command line prints about a turn, about the transitions of a
traversal, and about the instructions of a script.
-/

namespace DialogueScript

namespace CommandLine

open Traversal

/-- The lines of a turn: its dialogue, if there is any, and the variables if
they are asked for. -/
def turnReport (echoVars : Bool) (scope : Scope) : String :=
  let dialog := if scope.dialog.isEmpty then "" else scope.dialog ++ "\n"
  let vars :=
    if echoVars then
      String.join
        (scope.vars.entries.map fun (name, v) => "  " ++ name ++ " = " ++ v.display ++ "\n")
    else ""
  dialog ++ vars

/-- The line of a transition. -/
def eventReport (e : Event) : String :=
  match e.path with
  | some path =>
    let kind := (e.node.map fun n => n.kind.name).getD "-"
    Text.padRight 6 e.action.name ++ " " ++ Text.padRight 12 kind ++ " " ++ path.show ++ "\n"
  | none => e.action.name ++ "\n"

/-- The kinds of instruction in the order of their names. -/
def kindsByName : List Kind :=
  [.command, .dialog, .eachBlock, .expression, .ifBlock, .ifChainLink, .pause, .script, .unknown]

/-- The kind of the instruction that a transition comes upon for the first
time. -/
def newKind (e : Event) : Option Kind :=
  match e.action with
  | .start => e.node.map Instruction.kind
  | .enter => e.node.map Instruction.kind
  | .skip => e.node.map Instruction.kind
  | _ => none

/-- How many instructions of a kind the transitions come upon. -/
def countKind (events : List Event) (kind : Kind) : Nat :=
  (events.filterMap newKind).countP (· == kind)

/-- The lines about the instructions of a script: each kind that occurs, with
its count. -/
def countReport (events : List Event) : String :=
  let counts := (kindsByName.map fun k => (k, countKind events k)).filter fun (_, n) => 0 < n
  String.join
    (counts.map fun (k, n) => "  " ++ Text.padRight 12 k.name ++ " " ++ toString n ++ "\n")

end CommandLine

end DialogueScript
