import DialogueScript.Json.Record
import DialogueScript.Json.Written
import DialogueScript.Script.Path
/-!
# States of a traversal

Where a traversal stands, apart from the tree it goes through, and how that is
stored.
-/

namespace DialogueScript

namespace Traversal

/-- Where a traversal stands: over, not yet begun, or at a path. `exiting` says
that it came to its place from below. -/
structure State where
  done : Bool := false
  path : Option Path := none
  exiting : Bool := false
deriving Repr, DecidableEq, Inhabited

namespace State

open Json Reader

/-- What messages call the place of a state. -/
def expected : String := "struct StepperState"

/-- What has been read of a state. -/
structure Slots where
  done : Option Bool := none
  path : Option (Option Path) := none
  exiting : Option Bool := none

/-- Reads a path, or nothing. -/
def readPath : Reader (Option Path) :=
  Record.optional (Record.list Record.index)

/-- Reads one field of a state. -/
def readField (s : Slots) (key : String) : Reader Slots :=
  match key with
  | "done" => do return { s with done := ← Record.slot key s.done Record.boolean }
  | "path" => do return { s with path := ← Record.slot key s.path readPath }
  | "exiting" => do return { s with exiting := ← Record.slot key s.exiting Record.boolean }
  | _ => do
    Record.ignored
    return s

/-- The state when all fields have been read. The path may be left out. -/
def finish (s : Slots) : Reader State := do
  let done ← Record.require "done" s.done
  let exiting ← Record.require "exiting" s.exiting
  return ⟨done, s.path.getD none, exiting⟩

/-- Reads a state. -/
def reader : Reader State :=
  let expectedItems := Record.expectedItems expected 3
  Record.record expected
    (Reader.object readField {} finish)
    (do
      let done ← Record.itemAt 0 expectedItems Record.boolean
      let path ← Record.itemAt 1 expectedItems readPath
      let exiting ← Record.itemAt 2 expectedItems Record.boolean
      return ⟨done, path, exiting⟩)

/-- Reads a state from a whole text. -/
def read (text : String) : Except Fault State :=
  reader.run text

/-- A path as a JSON value. -/
def pathJson : Option Path → Json
  | none => .null
  | some p => .array (p.map fun i : Nat => .number (.integer i))

/-- A state as a JSON value. -/
def toJson (s : State) : Json :=
  .object [("done", .boolean s.done), ("path", pathJson s.path), ("exiting", .boolean s.exiting)]

/-- A state as compact text. -/
def write (s : State) : String := s.toJson.compact

end State

end Traversal

end DialogueScript
