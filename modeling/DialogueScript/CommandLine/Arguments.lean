/-!
# Arguments

What the command line asks for. A settings file can be named before or behind
the command; the later one counts. An option is given at most once in each of
these places. Behind `--` nothing is an option.
-/

namespace DialogueScript

namespace CommandLine

/-- The commands. -/
inductive Command
  /-- Runs a script: all turns at once or with a stop after each, with or
  without a file for checkpoints, from the start or from that file on. -/
  | run (script : String) (all : Bool) (checkpoint : Option String) (resume : Bool)
  /-- Lists the transitions of a traversal. -/
  | trace (script : String)
  /-- Counts the instructions by kind. -/
  | check (script : String)
deriving Repr, DecidableEq

/-- A command and the settings file it is given with. -/
structure Invocation where
  config : Option String
  command : Command
deriving Repr, DecidableEq

/-- The names of the commands. -/
inductive CommandName
  | run
  | trace
  | check
deriving Repr, DecidableEq

/-- The command of a name. -/
def CommandName.of? : String → Option CommandName
  | "run" => some .run
  | "trace" => some .trace
  | "check" => some .check
  | _ => none

/-- What has been read of the arguments of a command. -/
structure Given where
  script : Option String := none
  all : Bool := false
  checkpoint : Option String := none
  resume : Bool := false
  config : Option String := none

/-- An option with a value behind it, or a switch. -/
inductive OptionName
  | config
  | checkpoint
  | all
  | resume
deriving Repr, DecidableEq

/-- Whether an option takes a value. -/
def OptionName.takesValue : OptionName → Bool
  | .config => true
  | .checkpoint => true
  | _ => false

/-- The option of a long name under a command. -/
def OptionName.of? (command : CommandName) : String → Option OptionName
  | "config" => some .config
  | "checkpoint" => if command = .run then some .checkpoint else none
  | "all" => if command = .run then some .all else none
  | "resume" => if command = .run then some .resume else none
  | _ => none

/-- Whether an argument can be the value of an option, that is, does not look
like an option itself. -/
def isValue (arg : String) : Bool :=
  arg == "-" || !arg.startsWith "-"

namespace Given

/-- Gives an option a value, which may happen once. Names of files are not
empty. -/
def setValue (g : Given) (option : OptionName) (value : String) : Option Given :=
  match option with
  | .config => if g.config.isSome then none else some { g with config := some value }
  | .checkpoint =>
    if g.checkpoint.isSome || value.isEmpty then none else some { g with checkpoint := some value }
  | _ => none

/-- Turns a switch on, which may happen once. -/
def turnOn (g : Given) (option : OptionName) : Option Given :=
  match option with
  | .all => if g.all then none else some { g with all := true }
  | .resume => if g.resume then none else some { g with resume := true }
  | _ => none

/-- Names the script, which may happen once. -/
def setScript (g : Given) (arg : String) : Option Given :=
  if g.script.isSome || arg.isEmpty then none else some { g with script := some arg }

end Given

/-- The parts of an argument `--name=value`. -/
def splitOption (arg : String) : String × Option String :=
  let body := arg.toList.drop 2
  match body.dropWhile (· != '=') with
  | [] => (String.ofList body, none)
  | _ :: value => (String.ofList (body.takeWhile (· != '=')), some (String.ofList value))

/-- Reads the arguments of a command. -/
def readGiven (command : CommandName) : (plain : Bool) → Given → List String → Option Given
  | _, g, [] => some g
  | true, g, arg :: rest => do
    let g ← g.setScript arg
    readGiven command true g rest
  | false, g, arg :: rest =>
    if arg == "--" then readGiven command true g rest
    else if arg.startsWith "--" then
      match splitOption arg with
      | (name, attached) => do
        let option ← OptionName.of? command name
        if option.takesValue then
          match attached, rest with
          | some value, rest => do
            let g ← g.setValue option value
            readGiven command false g rest
          | none, value :: rest =>
            if isValue value then do
              let g ← g.setValue option value
              readGiven command false g rest
            else none
          | none, [] => none
        else if attached.isSome then none
        else do
          let g ← g.turnOn option
          readGiven command false g rest
    else if isValue arg then do
      let g ← g.setScript arg
      readGiven command false g rest
    else if arg == "-a" ∧ command = .run then do
      let g ← g.turnOn .all
      readGiven command false g rest
    else none

/-- The command of the arguments read. -/
def Given.command (g : Given) (name : CommandName) : Option Command := do
  let script ← g.script
  match name with
  | .run => some (.run script g.all g.checkpoint g.resume)
  | .trace => some (.trace script)
  | .check => some (.check script)

/-- Reads the arguments, from the first on, before which a settings file may
have been named. -/
def readFrom (config : Option String) : List String → Option Invocation
  | [] => none
  | arg :: rest =>
    match CommandName.of? arg with
    | some name => do
      let g ← readGiven name false {} rest
      let command ← g.command name
      some ⟨g.config.orElse fun _ => config, command⟩
    | none =>
      if config.isSome || !arg.startsWith "--" then none
      else
        match splitOption arg, rest with
        | ("config", some value), rest => readFrom (some value) rest
        | ("config", none), value :: rest =>
          if isValue value then readFrom (some value) rest else none
        | _, _ => none

/-- What arguments ask for, or nothing if they are wrong. -/
def Invocation.parse (args : List String) : Option Invocation :=
  readFrom none args

end CommandLine

end DialogueScript
