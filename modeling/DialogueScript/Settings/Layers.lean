import DialogueScript.Decimal.Style
import DialogueScript.Settings.Given
import DialogueScript.Text.Quoted
/-!
# Settings in layers

Settings come from several sources, laid over each other: a later source
replaces what an earlier one said under the same name, whatever the letter case
of the name. A setting remembers where it came from, for the message if it
turns out to be of the wrong kind; only the value on top is ever checked.

A table laid over a setting is merged into it: an empty one changes nothing,
and any other leaves a table, which belongs to no source. A name may go on with
children and indices, such as `a.b[0]`, and then only something inside a table
or a list is set.
-/

namespace DialogueScript

namespace Settings

/-- A value and the source it came from, if that has a name. -/
structure Located where
  value : Given
  origin : Option String
deriving Inhabited

/-- The settings of the sources so far, by name. -/
abbrev Layers := List (String × Located)

/-! ## Merging -/

/-- A setting with a table laid over it. -/
def Located.merge (new : List (String × Given)) (old : Located) : Located where
  value := old.value.merge new
  origin := if new.isEmpty || old.value.isTable then old.origin else none

/-- A setting with a value laid at a place inside it, if there is such a
place. -/
def Located.layAt (value : Given) (step : Step) (more : List Step) (old : Located) :
    Option Located := do
  let value ← Given.layAt value step more old.value
  return ⟨value, if old.value.admits step then old.origin else none⟩

/-- Lays a value of a source over the settings so far. There is no result if the
name leads in front of a list or too far behind it. -/
def lay (origin : Option String) (layers : Layers) (name : String) (value : Given) :
    Option Layers :=
  let ⟨first, steps⟩ := Name.ofText name
  match steps, value with
  | step :: more, value => do
    let old := (layers.lookup first).getD ⟨.nothing, none⟩
    return replace first (← old.layAt value step more) layers
  | [], .table new =>
    some (replace first (((layers.lookup first).getD ⟨.table [], none⟩).merge new) layers)
  | [], value => some (replace first ⟨value, origin⟩ layers)

/-- Lays all values of a source over the settings so far. -/
def layAll (origin : Option String) (layers : Layers) (values : List (String × Given)) :
    Option Layers :=
  values.foldlM (fun layers (name, value) => lay origin layers name value) layers

/-! ## Kinds -/

/-- A setting of the wrong kind. -/
structure Mistyped where
  found : Given
  expected : String
  /-- The name of the setting, unless it is the root of a source. -/
  key : Option String
  origin : Option String

/-- A value as messages describe it. -/
def Given.describe : Given → String
  | .nothing => "unit value"
  | .boolean b => "boolean `" ++ (if b then "true" else "false") ++ "`"
  | .integer i => "64-bit integer `" ++ toString i ++ "`"
  | .float x => "floating point `" ++ Decimal.shown.write x ++ "`"
  | .string s => "string " ++ Text.quoted s
  | .sequence _ _ => "sequence"
  | .table _ => "map"

/-- The message for a setting of the wrong kind. -/
def Mistyped.message (m : Mistyped) : String :=
  "invalid type: " ++ m.found.describe ++ ", expected " ++ m.expected ++
    (m.key.map fun k => " for key `" ++ k ++ "`").getD "" ++
    (m.origin.map fun o => " in " ++ o).getD ""

/-- A value as a text. -/
def Given.asText : Given → Except Given String
  | .boolean b => .ok (if b then "true" else "false")
  | .integer i => .ok (toString i)
  | .float x => .ok (Decimal.shown.write x)
  | .string s => .ok s
  | value => .error value

/-- A value as a choice between yes and no. Words count in any letter case, and
a refused word is quoted in small letters. -/
def Given.asSwitch : Given → Except Given Bool
  | .boolean b => .ok b
  | .integer i => .ok (i != 0)
  | .float x => .ok (x != 0)
  | .string s =>
    let word := Text.lower s
    if ["1", "true", "on", "yes"].contains word then .ok true
    else if ["0", "false", "off", "no"].contains word then .ok false
    else .error (.string word)
  | value => .error value

end Settings

/-- The settings of the command line. -/
structure Settings where
  /-- What is logged. -/
  logLevel : String := "info"
  /-- Where checkpoints are written. -/
  checkpointPath : Option String := none
  /-- Whether variables are shown after every turn. -/
  echoVars : Bool := false
deriving Repr, DecidableEq, Inhabited

namespace Settings

/-- What holds if no source says otherwise. -/
def defaults : Layers :=
  [("log_level", ⟨.string "info", none⟩), ("echo_vars", ⟨.boolean false, none⟩)]

/-- The setting under a name, as a value of its kind. -/
def typed {α : Type} (layers : Layers) (key expected : String) (as : Given → Except Given α)
    (absent : α) : Except Mistyped α :=
  match layers.lookup key with
  | none => .ok absent
  | some setting =>
    match as setting.value with
    | .ok a => .ok a
    | .error found => .error ⟨found, expected, some key, setting.origin⟩

/-- The settings that layers amount to. -/
def ofLayers (layers : Layers) : Except Mistyped Settings := do
  let logLevel ← typed layers "log_level" "a string" Given.asText "info"
  let checkpointPath ← typed layers "checkpoint_path" "a string"
    (fun value =>
      match value with
      | .nothing => .ok none
      | value => some <$> value.asText)
    none
  let echoVars ← typed layers "echo_vars" "a boolean" Given.asSwitch false
  return ⟨logLevel, checkpointPath, echoVars⟩

end Settings

end DialogueScript
