import DialogueScript.Ini.Document
import DialogueScript.Json.Tree
import DialogueScript.Json5.Document
import DialogueScript.Ron.Document
import DialogueScript.Settings.Layers
import DialogueScript.Toml.Document
import DialogueScript.Yaml.Document
/-!
# Sources of settings

Settings are read from texts in several formats and from the environment, where
the name of a variable starts with that of the program.
-/

namespace DialogueScript

namespace Settings

/-- The formats of settings files. -/
inductive Format
  | toml
  | json
  | json5
  | yaml
  | ini
  | ron
deriving Repr, DecidableEq

/-- The formats and the endings of the names of their files. -/
def Format.endings : List (String × Format) :=
  [("toml", .toml), ("json", .json), ("yaml", .yaml), ("yml", .yaml), ("ini", .ini), ("ron", .ron),
    ("json5", .json5)]

/-- Why a text holds no settings. -/
inductive SourceError
  | toml
  | json (fault : Json.Fault)
  | json5 (fault : Json5.Fault)
  | yaml (refusal : Yaml.Refusal)
  | ini (fault : Ini.Fault)
  | ron (fault : Ron.Fault)
  | notTable (root : Mistyped)

/-- The message for a text without settings. -/
def SourceError.message : SourceError → String
  | .toml => "TOML parse error"
  | .json fault => fault.message
  | .json5 fault => fault.message
  | .yaml refusal => refusal.message
  | .ini fault => fault.message
  | .ron fault => fault.message
  | .notTable root => root.message

/-! ## Texts -/

mutual

/-- A value of a TOML document as data. -/
def ofToml : Toml.Value → Data
  | .string s => .string s
  | .integer i => .integer i
  | .float x => .float x
  | .boolean b => .boolean b
  | .moment s => .string s
  | .array items => .sequence (ofTomlItems items)
  | .table entries => .table (ofTomlEntries entries)

/-- Values of a TOML document as data. -/
def ofTomlItems : List Toml.Value → List Data
  | [] => []
  | v :: rest => ofToml v :: ofTomlItems rest

/-- Values of a TOML document under keys as data. -/
def ofTomlEntries : List (String × Toml.Value) → List (String × Data)
  | [] => []
  | (k, v) :: rest => (k, ofToml v) :: ofTomlEntries rest

end

mutual

/-- A JSON value as data. An integer that does not fit sixty-four bits with a
sign is a float. -/
def ofJson : Json → Data
  | .null => .nothing
  | .boolean b => .boolean b
  | .number (.integer i) =>
    if Data.fits i then .integer i else .float (Json.Number.integer i).toFloat
  | .number (.float x) => .float x
  | .string s => .string s
  | .array items => .sequence (ofJsonItems items)
  | .object fields => .table (ofJsonFields fields)

/-- JSON values as data. -/
def ofJsonItems : List Json → List Data
  | [] => []
  | v :: rest => ofJson v :: ofJsonItems rest

/-- JSON values under keys as data. -/
def ofJsonFields : List (String × Json) → List (String × Data)
  | [] => []
  | (k, v) :: rest => (k, ofJson v) :: ofJsonFields rest

end

/-- Entries with the last of several values under one name only. -/
def lastOfEach (entries : List (String × Given)) : List (String × Given) :=
  entries.foldr
    (fun (name, value) kept => if kept.any (·.1 == name) then kept else (name, value) :: kept) []

/-- What a text of a format holds. -/
def Format.read (format : Format) (text : String) : Except SourceError Data :=
  match format with
  | .toml =>
    match Toml.read text with
    | none => .error .toml
    | some v => .ok (ofToml v)
  | .json => ((Json.read text).mapError .json).map ofJson
  | .json5 => (Json5.read text).mapError .json5
  | .yaml => (Yaml.read text).mapError .yaml
  | .ini => (Ini.read text).mapError .ini
  | .ron => (Ron.read text).mapError .ron

/-- The settings in a text of a format, which must hold a table. -/
def parse (format : Format) (origin : Option String) (text : String) :
    Except SourceError (List (String × Given)) := do
  match Given.ofData (← format.read text) with
  | .table entries => return lastOfEach entries
  | value => throw (.notTable ⟨value, "a map", none, origin⟩)

/-! ## The environment -/

/-- What the names of variables for settings start with, in small letters. -/
def variableStart : String := "gds_"

/-- What messages call the environment. -/
def environmentOrigin : String := "the environment"

/-- The settings in an environment. -/
def ofEnvironment (environment : List (String × String)) : List (String × Given) :=
  environment.filterMap fun (name, value) =>
    let name := Text.lower name
    if name.startsWith variableStart then
      some (String.ofList (name.toList.drop variableStart.length), .string value)
    else none

/-- Why a text gives no settings. -/
inductive TextError
  | source (error : SourceError)
  /-- A name leads to no place in a list. -/
  | misplaced
  | mistyped (error : Mistyped)

/-- The settings of a TOML text over the defaults. -/
def ofTomlText (text : String) : Except TextError Settings := do
  let values ← (parse .toml none text).mapError .source
  match layAll none defaults values with
  | none => throw .misplaced
  | some layers => (ofLayers layers).mapError .mistyped

end Settings

end DialogueScript
