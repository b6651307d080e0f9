import DialogueScript.CommandLine.Arguments
import DialogueScript.CommandLine.Report
import DialogueScript.Script.FromJson
import DialogueScript.Session.Interpreter
import DialogueScript.Settings.Load
/-!
# The command line

The commands, for any host. Settings are loaded first, then the script is read,
then the command does its work; the first thing that goes wrong ends it, and
what has been printed until then stays.
-/

namespace DialogueScript

namespace CommandLine

open Traversal

/-- Why a command fails. -/
inductive Failure
  | settings (file : Option String) (error : Settings.LoadError)
  | readScript (path : String) (error : Host.FileError)
  | parseScript (path : String) (fault : Json.Fault)
  | readCheckpoint (path : String) (error : Host.FileError)
  | parseCheckpoint (path : String) (fault : Json.Fault)
  | writeCheckpoint (path : String) (error : Host.FileError)
  | readLine (error : Host.FileError)
  | noCheckpoint
  | step (error : StepError)
  | run (error : RunError)

/-- The message of a failed command: what was attempted, and what was in the
way. -/
def Failure.message : Failure → String
  | .settings none error => "Failed to load config: " ++ error.message
  | .settings (some file) error => "Failed to load config from " ++ file ++ ": " ++ error.message
  | .readScript path error => "Failed to read script " ++ path ++ ": " ++ error.message
  | .parseScript path fault => "Failed to parse script " ++ path ++ ": " ++ fault.message
  | .readCheckpoint path error => "Failed to read checkpoint " ++ path ++ ": " ++ error.message
  | .parseCheckpoint path fault => "Invalid checkpoint " ++ path ++ ": " ++ fault.message
  | .writeCheckpoint path error => "Failed to write checkpoint " ++ path ++ ": " ++ error.message
  | .readLine error => error.message
  | .noCheckpoint =>
    "--resume needs a checkpoint file (--checkpoint or checkpoint_path in config)"
  | .step error => error.message
  | .run (.step error) => error.message
  | .run (.eval path error) => (RunError.eval path error).message ++ ": " ++ error.message

/-- The exit code of a failed command. What is not foreseen in settings has a
code of its own. -/
def Failure.code : Failure → Nat
  | .settings _ error => if error.isFatal then 101 else 1
  | _ => 1

/-- How a command ends. -/
inductive Status
  | done
  /-- The arguments were wrong. -/
  | usage
  | failed (why : Failure)

/-- The exit code of a command. -/
def Status.code : Status → Nat
  | .done => 0
  | .usage => 2
  | .failed why => why.code

/-- What is printed while a run waits for input. -/
def prompt : String := "-- press Enter to continue --"

variable {m : Type → Type} [Monad m] [Host m]

/-- Reads a file that must be a text. -/
def readText (path : String) : m (Except Host.FileError String) := do
  match ← Host.readFile path with
  | .ok content => return content.asText
  | .error e => return .error e

/-- Reads a script. -/
def loadScript (path : String) : m (Except Failure Instruction) := do
  match ← readText path with
  | .error e => return .error (.readScript path e)
  | .ok text =>
    match Instruction.read text with
    | .error fault => return .error (.parseScript path fault)
    | .ok script => return .ok script

/-- The run to begin with: from the start, or from the checkpoint in a file. -/
def beginRun (script : Instruction) (resume : Bool) (checkpoint : Option String) :
    m (Except Failure Interpreter) := do
  if !resume then return .ok (.fresh script)
  else
    match checkpoint with
    | none => return .error .noCheckpoint
    | some path =>
      match ← readText path with
      | .error e => return .error (.readCheckpoint path e)
      | .ok text =>
        match Checkpoint.read text with
        | .error fault => return .error (.parseCheckpoint path fault)
        | .ok c =>
          match Interpreter.resume script c with
          | .error e => return .error (.run e)
          | .ok i => return .ok i

/-- Writes the checkpoint of a run, if there is a file for it, with the
variables in the order in which the host lists them. -/
def saveRun (checkpoint : Option String) (i : Interpreter) : m (Except Failure Unit) := do
  match checkpoint with
  | none => return .ok ()
  | some path =>
    let order ← Host.order
    let json := i.checkpoint.arranged (order.arrange i.checkpoint.scope.vars.entries)
    match ← Host.writeFile path json.pretty with
    | .ok () => return .ok ()
    | .error e => return .error (.writeCheckpoint path e)

/-- Runs at most so many turns. Unless all are wanted at once it waits for a
line of input after each but the last, and stops if there is none or if the line
is no text. -/
def runTurns (all echoVars : Bool) (checkpoint : Option String) :
    (fuel : Nat) → Interpreter → m Status
  | 0, _ => return .done
  | fuel + 1, i => do
    match i.next with
    | (.error e, _) => return .failed (.run e)
    | (.ok .done, _) => return .done
    | (.ok (.yielded scope), i) =>
      Host.print (turnReport echoVars scope)
      match ← saveRun checkpoint i with
      | .error f => return .failed f
      | .ok () =>
        if all || i.isDone then runTurns all echoVars checkpoint fuel i
        else
          Host.print prompt
          match ← Host.readLine with
          | .error e => return .failed (.readLine e)
          | .ok none => return .done
          | .ok (some _) => runTurns all echoVars checkpoint fuel i

/-- Runs a script. A file for checkpoints that is given here goes before the
one of the settings. -/
def runScript (settings : Settings) (script : Instruction) (all : Bool)
    (checkpoint : Option String) (resume : Bool) : m Status := do
  let checkpoint := checkpoint.orElse fun _ => settings.checkpointPath
  match ← beginRun script resume checkpoint with
  | .error f => return .failed f
  | .ok i => runTurns all settings.echoVars checkpoint (i.stepper.bound + 1) i

/-- The events of a whole traversal, or the first fault among them. -/
def allEvents (script : Instruction) : Except Failure (List Event) :=
  (Stepper.fresh script).events.1.mapM fun e =>
    match e with
    | .ok event => .ok event
    | .error e => .error (.step e)

/-- Prints a report on the events of a whole traversal. -/
def reportOn (script : Instruction) (report : List Event → String) : m Status := do
  match allEvents script with
  | .error f => return .failed f
  | .ok events =>
    Host.print (report events)
    return .done

/-- Carries out a command. -/
def carryOut (settings : Settings) : Command → m Status
  | .run path all checkpoint resume => do
    match ← loadScript path with
    | .error f => return .failed f
    | .ok script => runScript settings script all checkpoint resume
  | .trace path => do
    match ← loadScript path with
    | .error f => return .failed f
    | .ok script => reportOn script fun events => String.join (events.map eventReport)
  | .check path => do
    match ← loadScript path with
    | .error f => return .failed f
    | .ok script => reportOn script fun events => path ++ ": ok\n" ++ countReport events

/-- Does what arguments ask for. -/
def execute (args : List String) : m Status := do
  match Invocation.parse args with
  | none => return .usage
  | some invocation =>
    match ← Settings.load invocation.config with
    | .error e => return .failed (.settings invocation.config e)
    | .ok settings => carryOut settings invocation.command

/-- What arguments do to surroundings that are plain data. -/
def executeIn (world : Host.World) (args : List String) : Status × Host.World :=
  (execute args : StateM Host.World Status).run world

end CommandLine

end DialogueScript
