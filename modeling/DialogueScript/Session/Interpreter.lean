import DialogueScript.Script.Effect
import DialogueScript.Script.Stored
import DialogueScript.Traversal.Stepper
/-!
# Interpreters

An interpreter rides a stepper over a script and applies each instruction it
comes upon to its scope. It works in turns: a turn empties the dialogue and
goes on to the next pause or to the end of the script. The turn that reaches
the end still yields; only the one after it says that the script is over.

A checkpoint is all that is needed to go on later.
-/

namespace DialogueScript

open Traversal

/-- Why a turn fails. -/
inductive RunError
  | step (error : StepError)
  | eval (path : Path) (error : EvalError)
deriving Repr, DecidableEq

/-- The message of a failed turn. -/
def RunError.message : RunError → String
  | .step error => error.message
  | .eval path error => "instruction at " ++ path.show ++ " failed: " ++ error.message

/-- How a turn ended. -/
inductive Turn
  /-- It ran, to a pause or to the end of the script. -/
  | yielded (scope : Scope)
  /-- The script was over, and nothing ran. -/
  | done

/-- What is needed to go on with a run later. -/
structure Checkpoint where
  stepper : State := {}
  scope : Scope := {}
deriving Inhabited, BEq

/-- A run of a script. -/
structure Interpreter where
  stepper : Stepper
  scope : Scope

namespace Interpreter

/-- A run from the start, on a given scope. -/
def withScope (script : Instruction) (scope : Scope) : Interpreter :=
  ⟨.fresh script, scope⟩

/-- A run from the start, on an empty scope. -/
def fresh (script : Instruction) : Interpreter :=
  withScope script {}

/-- A run from a checkpoint of the same script on. -/
def resume (script : Instruction) (c : Checkpoint) : Except RunError Interpreter :=
  match Stepper.ofState script c.stepper with
  | .ok stepper => .ok ⟨stepper, c.scope⟩
  | .error e => .error (.step e)

/-- Whether the script is over. -/
def isDone (i : Interpreter) : Bool := i.stepper.done

/-- What is needed to go on from here. -/
def checkpoint (i : Interpreter) : Checkpoint := ⟨i.stepper.state, i.scope⟩

/-- What becomes of an event: whether the turn is over, and the scope. The root
and a parent that is come back to are passed by. -/
def visit (event : Event) (scope : Scope) : Except RunError Bool × Scope :=
  match event.action, event.node with
  | .start, _ => (.ok false, scope)
  | .exit, _ => (.ok false, scope)
  | _, none => (.ok false, scope)
  | _, some node =>
    if node.isPause then (.ok true, scope)
    else if node.hasEffect then
      match node.apply scope with
      | (.ok (), scope) => (.ok false, scope)
      | (.error e, scope) => (.error (.eval (event.path.getD []) e), scope)
    else (.ok false, scope)

/-- Goes on until the turn is over, for at most so many events. -/
def advance : (fuel : Nat) → Interpreter → Except RunError Unit × Interpreter
  | 0, i => (.ok (), i)
  | fuel + 1, i =>
    match i.stepper.next with
    | .error e => (.error (.step e), i)
    | .ok (event, stepper) =>
      if stepper.done then (.ok (), ⟨stepper, i.scope⟩)
      else
        match visit event i.scope with
        | (.ok true, scope) => (.ok (), ⟨stepper, scope⟩)
        | (.ok false, scope) => advance fuel ⟨stepper, scope⟩
        | (.error e, scope) => (.error e, ⟨stepper, scope⟩)

/-- Runs one turn. After a failure the next turn goes on behind the instruction
that failed. -/
def next (i : Interpreter) : Except RunError Turn × Interpreter :=
  if i.isDone then (.ok .done, i)
  else
    match advance i.stepper.bound ⟨i.stepper, i.scope.clearDialog⟩ with
    | (.ok (), i) => (.ok (.yielded i.scope), i)
    | (.error e, i) => (.error e, i)

/-- Runs at most so many turns and gives the dialogue of each. -/
def runTurns : (fuel : Nat) → Interpreter → Except RunError (List String) × Interpreter
  | 0, i => (.ok [], i)
  | fuel + 1, i =>
    match i.next with
    | (.ok .done, i) => (.ok [], i)
    | (.ok (.yielded scope), i) =>
      match runTurns fuel i with
      | (.ok dialogs, i) => (.ok (scope.dialog :: dialogs), i)
      | (.error e, i) => (.error e, i)
    | (.error e, i) => (.error e, i)

/-- Runs every turn that is left and gives the dialogue of each. -/
def runToEnd (i : Interpreter) : Except RunError (List String) × Interpreter :=
  runTurns (i.stepper.bound + 1) i

end Interpreter

/-! ## Stored checkpoints -/

namespace Checkpoint

open Json Reader

/-- What messages call the place of a checkpoint. -/
def expected : String := "struct Checkpoint"

/-- What has been read of a checkpoint. -/
structure Slots where
  stepper : Option State := none
  scope : Option Scope := none

/-- Reads the scope of a checkpoint. -/
def readScope : Reader Scope := Scope.reader (depthLimit - 2)

/-- Reads one field of a checkpoint. -/
def readField (s : Slots) (key : String) : Reader Slots :=
  match key with
  | "stepper" => do return { s with stepper := ← Record.slot key s.stepper State.reader }
  | "scope" => do return { s with scope := ← Record.slot key s.scope readScope }
  | _ => do
    Record.ignored
    return s

/-- The checkpoint when all fields have been read. -/
def finish (s : Slots) : Reader Checkpoint := do
  return ⟨← Record.require "stepper" s.stepper, ← Record.require "scope" s.scope⟩

/-- Reads a checkpoint. -/
def reader : Reader Checkpoint :=
  Record.record expected
    (Reader.object readField {} finish)
    (do
      let stepper ← Record.itemAt 0 (Record.expectedItems expected 2) State.reader
      let scope ← Record.itemAt 1 (Record.expectedItems expected 2) readScope
      return ⟨stepper, scope⟩)

/-- Reads a checkpoint from a whole text. -/
def read (text : String) : Except Fault Checkpoint :=
  reader.run text

/-- A checkpoint as a JSON value, with its variables in a given order. -/
def arranged (c : Checkpoint) (entries : List (String × Value)) : Json :=
  .object [("stepper", c.stepper.toJson), ("scope", c.scope.arranged entries)]

/-- A checkpoint as a JSON value, with its variables by name. -/
def toJson (c : Checkpoint) : Json := c.arranged c.scope.vars.entries

/-- A checkpoint as compact text: one of those for it, since a host may list the
variables in another order. -/
def write (c : Checkpoint) : String := c.toJson.compact

/-- A checkpoint as one of the texts for it in a file. -/
def writePretty (c : Checkpoint) : String := c.toJson.pretty

end Checkpoint

end DialogueScript
