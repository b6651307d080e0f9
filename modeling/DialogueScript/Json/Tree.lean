import DialogueScript.Json.Reader
/-!
# JSON values

The value a JSON text holds, with the fields of an object in the order of the
text and repeated names kept. `Json.read` builds it from a text, counting how
deep lists and objects nest; `Json.skip` only steps over it.
-/

namespace DialogueScript

/-- A JSON value. -/
inductive Json
  | null
  | boolean (b : Bool)
  | number (n : Json.Number)
  | string (s : String)
  | array (items : List Json)
  | object (fields : List (String × Json))
deriving Inhabited

namespace Json

open Reader

/-- A value as messages describe it. -/
def found : Json → Found
  | .null => .null
  | .boolean b => .boolean b
  | .number n => n.found
  | .string s => .string s
  | .array _ => .sequence
  | .object _ => .map

/-- A scalar as a value. -/
def ofScalar : Scalar → Json
  | .null => .null
  | .boolean b => .boolean b
  | .number n => .number n
  | .string s => .string s

mutual

/-- How deep lists and objects nest in a value. -/
def depth : Json → Nat
  | .array items => 1 + depthItems items
  | .object fields => 1 + depthFields fields
  | _ => 0

/-- How deep the items of a list nest. -/
def depthItems : List Json → Nat
  | [] => 0
  | v :: vs => max (depth v) (depthItems vs)

/-- How deep the fields of an object nest. -/
def depthFields : List (String × Json) → Nat
  | [] => 0
  | (_, v) :: fs => max (depth v) (depthFields fs)

end

/-- How deep lists and objects may nest in a text. -/
def depthLimit : Nat := 127

/-- One value, in which the items of lists and objects are read by `nested`.
Without it no list or object may open. -/
def valueWith (nested : Option (Reader Json)) : Reader Json := do
  match ← peek with
  | none => ended .value
  | some '[' =>
    match nested with
    | none => malformed .tooDeep
    | some item =>
      let xs ← list item
      return .array xs
  | some '\x7b' =>
    match nested with
    | none => malformed .tooDeep
    | some item =>
      let field := fun (read : List (String × Json)) (k : String) => do
        colon
        let v ← item
        return (k, v) :: read
      let fs ← Reader.object field [] fun read => pure read.reverse
      return .object fs
  | some c =>
    match ← scalar? c with
    | some s => return ofScalar s
    | none => malformed .expectedValue

/-- One value whose lists and objects nest at most so deep. -/
def value : (depth : Nat) → Reader Json
  | 0 => valueWith none
  | depth + 1 => valueWith (some (value depth))

/-- The value of a whole text. -/
def read (text : String) : Except Fault Json :=
  (value depthLimit).run text

/-! ## Stepping over a value -/

/-- What a value that is stepped over stands in. -/
inductive Frame
  | list
  | object
deriving DecidableEq

/-- The key and the colon of a field that is stepped over. -/
def skipKey : Reader Unit := do
  match ← peek with
  | some '"' =>
    advance
    pass skipString
    match ← peek with
    | some ':' => advance
    | some _ => malformed .expectedColon
    | none => ended .object
  | some _ => malformed .keyNotString
  | none => ended .object

/-- Steps over the scalar that starts with the given character. -/
def skipScalar (c : Char) : Reader Unit :=
  match c with
  | 'n' => do
    advance
    word ['u', 'l', 'l']
  | 't' => do
    advance
    word ['r', 'u', 'e']
  | 'f' => do
    advance
    word ['a', 'l', 's', 'e']
  | '"' => do
    advance
    pass skipString
  | c =>
    if c == '-' || c.isDigit then pass skipNumber
    else malformed .expectedValue

/-- Closes the frames that end at the front of the text, and stands in front of
the next value if one of them goes on. `behind` says that a value of the
innermost frame has just been stepped over. -/
def skipClosing : (fuel : Nat) → (behind : Bool) → List Frame → Reader (List Frame)
  | 0, _, _ => ended .value
  | _ + 1, _, [] => return []
  | fuel + 1, behind, frame :: outer => do
    match ← peek, frame with
    | none, .list => ended .list
    | none, .object => ended .object
    | some ']', .list =>
      advance
      skipClosing fuel true outer
    | some '\x7d', .object =>
      advance
      skipClosing fuel true outer
    | some c, _ =>
      if behind then
        if c == ',' then advance
        else
          malformed (if frame = .list then .expectedListCommaOrEnd else .expectedObjectCommaOrEnd)
      if frame = .object then skipKey
      return frame :: outer

/-- Steps over values until every frame is closed. -/
def skipFrames : (fuel : Nat) → List Frame → Reader Unit
  | 0, _ => ended .value
  | fuel + 1, frames => do
    let opened : Option Frame ← do
      match ← peek with
      | none => ended .value
      | some '[' =>
        advance
        pure (some Frame.list)
      | some '\x7b' =>
        advance
        pure (some Frame.object)
      | some c =>
        skipScalar c
        pure none
    let frames ← withFuel fun n =>
      match opened with
      | some frame => skipClosing (n + 2) false (frame :: frames)
      | none => skipClosing (n + 2) true frames
    if frames.isEmpty then return ()
    else skipFrames fuel frames

/-- Steps over a value: its punctuation, strings and numbers are checked, its
depth and the size of its numbers are not. -/
def skip : Reader Unit :=
  withFuel fun n => skipFrames (n + 1) []

end Json

end DialogueScript
