import DialogueScript.Traversal.State
/-!
# Steppers

A stepper goes through a tree in pre-order, one transition at a time, and can
stop and be taken up again at any of them: its position is a path and two
flags.

The transitions are `start` (to the root), `enter` (to the first child), `skip`
(to the next sibling), `exit` (to the parent) and `end` (out of the tree).
`next` combines them: it enters if it can, else skips, else exits; having
exited it does not enter again, so no subtree is gone through twice.
-/

namespace DialogueScript

namespace Traversal

/-- Why a step cannot be taken. -/
inductive StepError
  | notStarted
  | alreadyStarted
  /-- A state that both is over and has a path. -/
  | finishedWithPath
  /-- A state whose path is not in the tree. -/
  | unknownPath (path : Path)
  /-- A step that leads out of the tree. -/
  | unresolvable (path : Path)
deriving Repr, DecidableEq

/-- The message of a step error. -/
def StepError.message : StepError → String
  | .notStarted => "cannot step further: traversal has not started"
  | .alreadyStarted => "traversal has already started"
  | .finishedWithPath => "invalid stepper state: a finished traversal cannot have a path"
  | .unknownPath path =>
    "invalid stepper state: path " ++ path.show ++ " does not resolve in this tree"
  | .unresolvable path => "path " ++ path.show ++ " does not resolve to an instruction"

/-- The transitions of a traversal. -/
inductive Action
  | start
  | enter
  | skip
  | exit
  | finish
  /-- No transition: the traversal is over. -/
  | idle
deriving Repr, DecidableEq

/-- The name of a transition in reports. -/
def Action.name : Action → String
  | .start => "Start"
  | .enter => "Enter"
  | .skip => "Skip"
  | .exit => "Exit"
  | .finish => "End"
  | .idle => "None"

/-- A transition and where it led. -/
structure Event where
  action : Action
  node : Option Instruction
  path : Option Path

/-- The event of a traversal that is over. -/
def Event.idle : Event := ⟨.idle, none, none⟩

/-- A traversal of a tree. -/
structure Stepper where
  root : Instruction
  done : Bool := false
  path : Option Path := none
  exiting : Bool := false
  /-- The instruction at the path. -/
  node : Option Instruction := none

namespace Stepper

/-- A traversal that has not begun. -/
def fresh (root : Instruction) : Stepper := { root }

/-- Where a traversal stands. -/
def state (s : Stepper) : State := ⟨s.done, s.path, s.exiting⟩

/-- Puts a traversal in another place of its tree, if the place is one. What is
refused changes nothing. -/
def restore (s : Stepper) (state : State) : Except StepError Unit × Stepper :=
  match state.path with
  | none => (.ok (), ⟨s.root, state.done, none, state.exiting, none⟩)
  | some path =>
    if state.done then (.error .finishedWithPath, s)
    else
      match s.root.resolve path with
      | none => (.error (.unknownPath path), s)
      | some node => (.ok (), ⟨s.root, false, some path, state.exiting, some node⟩)

/-- A traversal of a tree from a given place on. -/
def ofState (root : Instruction) (state : State) : Except StepError Stepper :=
  match (fresh root).restore state with
  | (.ok (), s) => .ok s
  | (.error e, _) => .error e

/-! ## Transitions -/

/-- Moves to a path. -/
def moveTo (s : Stepper) (action : Action) (path : Path) : Except StepError (Event × Stepper) :=
  match s.root.resolve path with
  | none => .error (.unresolvable path)
  | some node =>
    .ok (⟨action, some node, some path⟩, { s with path := some path, node := some node })

/-- Ends the traversal. -/
def finish (s : Stepper) : Event × Stepper :=
  (⟨.finish, none, none⟩, { s with done := true, path := none, node := none })

/-- Moves to the root. -/
def start (s : Stepper) : Except StepError (Event × Stepper) :=
  if s.done || s.path.isSome then .error .alreadyStarted
  else s.moveTo .start []

/-- Moves to the first child. There is no event if there are no children. -/
def enter (s : Stepper) : Except StepError (Option Event × Stepper) :=
  if s.done then .ok (some .idle, s)
  else
    match s.path with
    | none => .error .notStarted
    | some path =>
      match s.node with
      | none => .error (.unresolvable path)
      | some node =>
        match node.children with
        | none => .ok (none, s)
        | some _ => do
          let (event, s) ← s.moveTo .enter (path ++ [0])
          return (some event, s)

/-- Moves to the next sibling; at the root this ends the traversal. There is no
event at the last child. -/
def skip (s : Stepper) : Except StepError (Option Event × Stepper) :=
  if s.done then .ok (some .idle, s)
  else
    match s.path with
    | none => .error .notStarted
    | some path =>
      match path.getLast? with
      | none =>
        let (event, s) := s.finish
        .ok (some event, s)
      | some index =>
        match (s.root.resolve path.dropLast).bind Instruction.children with
        | none => .error (.unresolvable path.dropLast)
        | some siblings =>
          if siblings.length ≤ index + 1 then .ok (none, s)
          else do
            let (event, s) ← s.moveTo .skip (path.dropLast ++ [index + 1])
            return (some event, s)

/-- Moves to the parent; at the root this ends the traversal. -/
def exit (s : Stepper) : Except StepError (Event × Stepper) :=
  if s.done then .ok (.idle, s)
  else
    match s.path with
    | none => .error .notStarted
    | some path => if path.isEmpty then .ok s.finish else s.moveTo .exit path.dropLast

/-! ## Going on -/

/-- What `next` does once it no longer tries to enter. -/
def leave (s : Stepper) : Except StepError (Event × Stepper) := do
  match ← s.skip with
  | (some event, s) => return (event, { s with exiting := false })
  | (none, s) => exit { s with exiting := true }

/-- The next transition in pre-order. Once the traversal is over nothing
changes any more. -/
def next (s : Stepper) : Except StepError (Event × Stepper) :=
  if s.done then .ok (.idle, s)
  else if s.path.isNone then s.start
  else if s.exiting then s.leave
  else do
    match ← s.enter with
    | (some event, s) => return (event, { s with exiting := false })
    | (none, s) => s.leave

/-- At most so many further events, and the traversal behind them. -/
def take : Nat → Stepper → List (Except StepError Event) × Stepper
  | 0, s => ([], s)
  | n + 1, s =>
    if s.done then ([], s)
    else
      match s.next with
      | .ok (event, s) =>
        let (events, s) := take n s
        (.ok event :: events, s)
      | .error e =>
        let (events, s) := take n s
        (.error e :: events, s)

/-- More transitions than a traversal of the tree can take. -/
def bound (s : Stepper) : Nat := 2 * s.root.size + 2

/-- All further events, and the traversal behind them. -/
def events (s : Stepper) : List (Except StepError Event) × Stepper :=
  s.take s.bound

end Stepper

end Traversal

end DialogueScript
