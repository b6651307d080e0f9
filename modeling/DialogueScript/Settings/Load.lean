import DialogueScript.Host.World
import DialogueScript.Settings.EnvFile
import DialogueScript.Settings.Source
/-!
# Loading settings

Settings are laid over the defaults in this order: those of a settings file,
then those of the environment, to which a file `.env` has been added. A file
that is asked for must be there, under its name or under its name with the
ending of a format; the usual one may be missing.
-/

namespace DialogueScript

namespace Settings

/-- Why settings cannot be loaded. -/
inductive LoadError
  | notFound (name : String)
  | unknownFormat (name : String)
  | unreadable (error : Host.FileError)
  | source (error : SourceError) (file : String)
  /-- The environment file gives a variable a value that none can have. -/
  | unsettable
  /-- A name leads to no place in a list. -/
  | misplaced
  | mistyped (error : Mistyped)

/-- The message for settings that cannot be loaded. -/
def LoadError.message : LoadError → String
  | .notFound name => "configuration file \"" ++ name ++ "\" not found"
  | .unknownFormat name =>
    "configuration file \"" ++ name ++ "\" is not of a registered file format"
  | .unreadable error => error.message
  | .source .toml _ => SourceError.toml.message
  | .source error file => error.message ++ " in " ++ file
  | .unsettable => "unexpected zero in a variable"
  | .misplaced => "index out of range"
  | .mistyped error => error.message

/-- Whether an error ends the program at once, with a code of its own. Faults in
the values of a source are told; one in a key of a table, in an index or in a
variable to be set is not foreseen. -/
def LoadError.isFatal : LoadError → Bool
  | .source (.yaml .key) _ => true
  | .unsettable => true
  | .misplaced => true
  | _ => false

/-- The name of the usual settings file, without its ending. -/
def usualName : String := "gds"

/-- The name of the file that is added to the environment. -/
def environmentFile : String := ".env"

/-- The parts of a path that name something. -/
def namedParts (path : String) : List String :=
  (Host.Files.parts path).filter (· != ".")

/-- The ending of the last part of a path. A dot in front of a name starts no
ending. -/
def ending (path : String) : Option String :=
  match (namedParts path).getLast? with
  | none => none
  | some name =>
    match name.splitOn "." with
    | [] => none
    | [_] => none
    | ["", _] => none
    | pieces => pieces.getLast?

/-- A path as messages show it: without parts that name nothing. -/
def shownPath (path : String) : String :=
  "/".intercalate (namedParts path)

/-- Drops slashes and parts that name nothing from the end of a path, given in
reverse. -/
def dropUnnamed : List Char → List Char
  | '/' :: cs => dropUnnamed cs
  | '.' :: '/' :: cs => dropUnnamed cs
  | cs => cs

/-- The names to try for a settings file, with the format of each: an ending
comes behind the last part of the name that names something. -/
def candidates (name : String) : List (String × Format) :=
  match (namedParts name).getLast? with
  | none => []
  | some ".." => []
  | some _ =>
    let name := String.ofList (dropUnnamed name.toList.reverse).reverse
    Format.endings.map fun (e, format) => (name ++ "." ++ e, format)

/-- A settings file that was found: its name, its format and what it holds. -/
structure FoundFile where
  name : String
  format : Format
  content : Host.Content

section

variable {m : Type → Type} [Monad m] [Host m]

/-- What a settings file holds, if there is a file. -/
def content? (name : String) : m (Option Host.Content) := do
  match ← Host.readFile name with
  | .error _ => return none
  | .ok content => return some content

/-- The first of several names that is a file. -/
def firstFile? : List (String × Format) → m (Option FoundFile)
  | [] => return none
  | (name, format) :: rest => do
    match ← content? name with
    | some content => return some ⟨name, format, content⟩
    | none => firstFile? rest

/-- Finds a settings file: the name itself, else the name with an ending. -/
def find (name : String) : m (Except LoadError FoundFile) := do
  match ← content? name with
  | some content =>
    match (ending name).bind fun e => Format.endings.lookup e with
    | some format => return .ok ⟨name, format, content⟩
    | none => return .error (.unknownFormat name)
  | none =>
    match ← firstFile? (candidates name) with
    | some file => return .ok file
    | none => return .error (.notFound name)

/-- The environment, with the variables of the environment file added. -/
def fullEnvironment : m (Except LoadError (List (String × String))) := do
  let environment ← Host.environment
  match ← Host.readFile environmentFile with
  | .ok content =>
    match addFromFile environment content with
    | some environment => return .ok environment
    | none => return .error .unsettable
  | .error _ => return .ok environment

/-- The layers of the text of a settings file over the defaults. -/
def textLayers (name : String) (format : Format) (text : String) : Except LoadError Layers :=
  let origin := shownPath name
  match parse format (some origin) text with
  | .ok values =>
    match layAll (some origin) defaults values with
    | some layers => .ok layers
    | none => .error .misplaced
  | .error e => .error (.source e origin)

/-- Finds a settings file and reads its text. -/
def findText (name : String) : m (Except LoadError (FoundFile × String)) := do
  match ← find name with
  | .error e => return .error e
  | .ok file =>
    match file.content.asText with
    | .ok text => return .ok (file, text)
    | .error e => return .error (.unreadable e)

/-- The layers of the settings file that is asked for, or of the usual one. The
usual one counts only if there is a text to read. -/
def baseLayers (name : Option String) : m (Except LoadError Layers) := do
  match ← findText (name.getD usualName) with
  | .ok (file, text) => return textLayers file.name file.format text
  | .error e => return if name.isSome then .error e else .ok defaults

/-- The settings that the environment and the layers below it amount to. -/
def finish (layers : Layers) (environment : List (String × String)) : Except LoadError Settings :=
  match layAll (some environmentOrigin) layers (ofEnvironment environment) with
  | some layers => (ofLayers layers).mapError .mistyped
  | none => .error .misplaced

/-- Loads the settings. -/
def load (name : Option String) : m (Except LoadError Settings) := do
  match ← fullEnvironment with
  | .error e => return .error e
  | .ok environment =>
    match ← baseLayers name with
    | .error e => return .error e
    | .ok layers => return finish layers environment

end

end Settings

end DialogueScript
