import DialogueScript.Json.Record
import DialogueScript.Json.Written
import DialogueScript.Script.Scope
/-!
# Values and scopes as JSON

How values and scopes are stored. A value is written as an object with its type
under `t` and its content under `v`, and read from those two in either order,
or from a list of both. A value without content needs no `v`.
-/

namespace DialogueScript

open Json Reader

namespace Value

/-- The names of the types in stored values. -/
def typeNames : List (String × ValueType) :=
  [("Null", .null), ("Bool", .boolean), ("Num", .number), ("Str", .string)]

/-- The type of a name. -/
def pickType (name : String) : Reader ValueType :=
  match typeNames.lookup name with
  | some t => pure t
  | none => mismatch (.unknownVariant name (typeNames.map (·.1)))

/-- What messages call the place of a value. -/
def expected : String := "adjacently tagged enum Val"

/-- What messages call the place of no content. -/
def expectedNull : String := "unit variant Val::Null"

/-- Reads the name of a type. -/
def readTypeName : Reader ValueType := do
  pickType (← stringOr "variant identifier")

/-- Reads a type: its name, or an object with the name as its only key. -/
def readType : Reader ValueType := do
  match ← peek with
  | none => ended .value
  | some '"' => pickType (← Reader.string)
  | some '\x7b' =>
    advance
    let t ← readTypeName
    colon
    match ← peek with
    | some 'n' =>
      advance
      word ['u', 'l', 'l']
    | _ => unexpected "unit"
    match ← peek with
    | some '\x7d' =>
      advance
      return t
    | some _ => malformed .expectedValue
    | none => ended .object
  | some _ => malformed .expectedValue

/-- Reads the content of a value of a known type. -/
def readContent : ValueType → Reader Value
  | .null => do
    match ← peek with
    | some 'n' =>
      advance
      word ['u', 'l', 'l']
      return .null
    | _ => unexpected expectedNull
  | .boolean => Value.boolean <$> Record.boolean
  | .number => Value.number <$> Record.float
  | .string => Value.string <$> Record.string

/-- The content of a value of a known type, from a JSON value. -/
def ofContent : ValueType → Json → Except Mismatch Value
  | .null, .null => .ok .null
  | .null, v => .error (.invalidType v.found expectedNull)
  | .boolean, v => Value.boolean <$> asBoolean v
  | .number, v => Value.number <$> asFloat v
  | .string, v => Value.string <$> asString v

/-- How far the reading of a value has come. -/
inductive Progress
  | nothing
  | typed (t : ValueType)
  | content (v : Json)
  | complete (v : Value)

/-- Reads one field of a value. Content that comes before its type waits as a
JSON value that nests at most `inside` deep. -/
def readField (inside : Nat) (p : Progress) (key : String) : Reader Progress :=
  match key, p with
  | "t", .nothing => do
    colon
    return .typed (← readType)
  | "t", .content v => do
    colon
    let t ← readType
    return .complete (← check (ofContent t v))
  | "t", _ => mismatch (.duplicateField "t")
  | "v", .nothing => do
    colon
    return .content (← Json.value inside)
  | "v", .typed t => do
    colon
    return .complete (← readContent t)
  | "v", _ => mismatch (.duplicateField "v")
  | _, p => do
    Record.ignored
    return p

/-- The value when all fields have been read. -/
def finish : Progress → Reader Value
  | .complete v => pure v
  | .typed .null => pure .null
  | .typed _ => mismatch (.missingField "v")
  | _ => mismatch (.missingField "t")

/-- Reads a value. In a list only the name of a type can stand for it. -/
def reader (inside : Nat) : Reader Value :=
  Record.record expected
    (Reader.object (readField inside) .nothing finish)
    (do
      let t ← Record.itemAt 0 expected readTypeName
      Record.itemAt 1 expected (readContent t))

/-- Reads a value from a whole text. -/
def read (text : String) : Except Fault Value :=
  (reader (depthLimit - 1)).run text

/-- A value as a JSON value. -/
def toJson : Value → Json
  | .null => .object [("t", .string "Null")]
  | .boolean b => .object [("t", .string "Bool"), ("v", .boolean b)]
  | .number x => .object [("t", .string "Num"), ("v", .number (.float x))]
  | .string s => .object [("t", .string "Str"), ("v", .string s)]

/-- A value as compact text. -/
def write (v : Value) : String := v.toJson.compact

end Value

namespace Scope

/-- What messages call the place of a scope. -/
def expected : String := "struct ScriptScope"

/-- What has been read of a scope. -/
structure Slots where
  dialog : Option String := none
  vars : Option Variables := none

/-- Reads variables. Of a repeated name the last value counts. -/
def readVars (inside : Nat) : Reader Variables := do
  return .ofList (← Record.mapping (Value.reader inside))

/-- Reads one field of a scope. -/
def readField (inside : Nat) (s : Slots) (key : String) : Reader Slots :=
  match key with
  | "dialog" => do return { s with dialog := ← Record.slot key s.dialog Record.string }
  | "vars" => do return { s with vars := ← Record.slot key s.vars (readVars inside) }
  | _ => do
    Record.ignored
    return s

/-- The scope when all fields have been read. Variables may be left out. -/
def finish (s : Slots) : Reader Scope := do
  return ⟨← Record.require "dialog" s.dialog, s.vars.getD .empty⟩

/-- Reads a scope, whose fields nest at most `inside` deep. -/
def reader (inside : Nat) : Reader Scope :=
  Record.record expected
    (Reader.object (readField (inside - 2)) {} finish)
    (do
      let dialog ← Record.itemAt 0 (Record.expectedItems expected 2) Record.string
      let vars ← item? false (readVars (inside - 2))
      return ⟨dialog, vars.getD .empty⟩)

/-- Reads a scope from a whole text. -/
def read (text : String) : Except Fault Scope :=
  (reader (depthLimit - 1)).run text

/-- Variables as a JSON value, in a given order. -/
def varsJson (entries : List (String × Value)) : Json :=
  .object (entries.map fun (name, v) => (name, v.toJson))

/-- A scope as a JSON value, with its variables in a given order. -/
def arranged (s : Scope) (entries : List (String × Value)) : Json :=
  .object [("dialog", .string s.dialog), ("vars", varsJson entries)]

/-- A scope as a JSON value, with its variables by name. -/
def toJson (s : Scope) : Json := s.arranged s.vars.entries

end Scope

end DialogueScript
