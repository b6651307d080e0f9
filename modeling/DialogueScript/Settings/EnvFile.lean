import DialogueScript.Host.Files
import DialogueScript.Text.Alphanumeric
import DialogueScript.Text.Space
/-!
# Environment files

A file of lines `NAME=value` adds variables to an environment. A line may start
with `export`; a value may be quoted, may hold escapes and the values of other
variables, and a comment may follow it. A quoted value can go over several
lines. Variables that are set already stay as they are. At the first line that
cannot be read the reading stops, and what came before it counts.
-/

namespace DialogueScript

namespace Settings

namespace EnvFile

/-! ## Lines -/

/-- Where in a value the end of a piece of text stands. -/
inductive Quoting
  | plain
  | escape
  | blank
  | single
  | singleEscape
  | double
  | doubleEscape
  /-- A comment has begun. -/
  | comment
deriving DecidableEq

/-- Where the text stands after one more character. -/
def Quoting.step : Quoting → Char → Quoting
  | .blank, '#' => .comment
  | .blank, '\\' => .escape
  | .blank, '"' => .double
  | .blank, '\x27' => .single
  | .blank, _ => .plain
  | .escape, _ => .plain
  | .plain, '\\' => .escape
  | .plain, '"' => .double
  | .plain, '\x27' => .single
  | .plain, c => if Text.isSpace c && c != '\n' && c != '\r' then .blank else .plain
  | .double, '\\' => .doubleEscape
  | .double, '"' => .plain
  | .double, _ => .double
  | .doubleEscape, _ => .double
  | .single, '\\' => .singleEscape
  | .single, '\x27' => .plain
  | .single, _ => .single
  | .singleEscape, _ => .single
  | .comment, _ => .comment

/-- The characters up to a comment, and where the text stands behind them. -/
def Quoting.scan : Quoting → List Char → List Char × Quoting
  | q, [] => ([], q)
  | q, c :: cs =>
    match q.step c with
    | .comment => ([], .comment)
    | q =>
      let (rest, final) := q.scan cs
      (c :: rest, final)

/-- A text without the line end behind it. -/
def dropLineEnd (cs : List Char) : List Char :=
  match cs.reverse with
  | '\n' :: '\r' :: rest => rest.reverse
  | '\n' :: rest => rest.reverse
  | _ => cs

/-- Lines of a file, joined where a quote goes over several; `none` is a line
that cannot be read, after which there are no more. -/
def joinLines : (open_ : Quoting) → (read : List Char) → List (Option (List Char)) →
    List (Option (List Char))
  | .plain, _, [] => []
  | _, _, [] => [none]
  | _, _, none :: _ => [none]
  | q, read, some line :: rest =>
    let whole := read ++ line
    if (Text.trimStart whole).head? == some '#' then some [] :: joinLines .plain [] rest
    else
      match q.scan line with
      | (_, .plain) => some (dropLineEnd whole) :: joinLines .plain [] rest
      | (kept, .comment) => some (read ++ kept) :: joinLines .plain [] rest
      | (_, q) => joinLines q whole rest

/-- The lines of a text, each with its line end. -/
def splitLines : (current : List Char) → List Char → List (List Char)
  | [], [] => []
  | current, [] => [current.reverse]
  | current, c :: cs =>
    if c == '\n' then (c :: current).reverse :: splitLines [] cs else splitLines (c :: current) cs

/-- The lines of bytes, each with its line end. -/
def splitByteLines : (current : List UInt8) → List UInt8 → List (List UInt8)
  | [], [] => []
  | current, [] => [current.reverse]
  | current, b :: bs =>
    if b == 10 then (b :: current).reverse :: splitByteLines [] bs
    else splitByteLines (b :: current) bs

/-- A text without a mark of byte order in front. -/
def dropMark : List Char → List Char
  | c :: cs => if c.toNat = 0xfeff then cs else c :: cs
  | [] => []

/-- The lines of a file. -/
def fileLines : Host.Content → List (Option (List Char))
  | .text s => (splitLines [] (dropMark s.toList)).map some
  | .binary bytes =>
    let bytes :=
      match bytes with
      | 0xef :: 0xbb :: 0xbf :: rest => rest
      | bytes => bytes
    (splitByteLines [] bytes).map fun line => (Text.decode? line).map String.toList

/-! ## Values -/

/-- How far the name of a variable inside a value has been read. -/
inductive Naming
  | none
  /-- Behind a dollar sign. -/
  | bare
  /-- Between braces. -/
  | braced
deriving DecidableEq

/-- Where in a value the reading stands. -/
structure Progress where
  quote : Quoting := .plain
  naming : Naming := .none
  /-- The name read so far, reversed. -/
  name : List Char := []
  /-- The value read so far, reversed. -/
  read : List Char := []
  /-- Only a comment may follow. -/
  ended : Bool := false
  /-- The rest is a comment. -/
  commented : Bool := false

/-- Puts the value of the variable that was named into the value. -/
def Progress.substitute (lookup : String → String) (p : Progress) : Progress :=
  { p with
    name := []
    read := (lookup (String.ofList p.name.reverse)).toList.reverse ++ p.read }

/-- The character an escape stands for. -/
def escaped? : Char → Option Char
  | '\\' => some '\\'
  | '\x27' => some '\x27'
  | '"' => some '"'
  | '$' => some '$'
  | ' ' => some ' '
  | 'n' => some '\n'
  | _ => none

/-- One more character of a name inside a value. -/
def Progress.stepName (lookup : String → String) (p : Progress) (c : Char) : Progress :=
  if Text.isAlphanumeric c then { p with name := c :: p.name }
  else
    match p.naming with
    | .braced =>
      if c == '\x7d' then { p.substitute lookup with naming := .none }
      else { p with name := c :: p.name }
    | _ =>
      if c == '\x7b' && p.name.isEmpty then { p with naming := .braced }
      else
        let p := p.substitute lookup
        if c == '$' then { p with naming := .bare }
        else { p with naming := .none, read := c :: p.read }

/-- One more character of a value. -/
def Progress.step (lookup : String → String) (p : Progress) (c : Char) : Option Progress :=
  let push (c : Char) : Progress := { p with read := c :: p.read }
  if p.commented then some p
  else if p.ended then
    if c == ' ' || c == '\t' then some p
    else if c == '#' then some { p with commented := true }
    else none
  else
    match p.quote with
    | .escape => (escaped? c).map fun d => { push d with quote := .plain }
    | .doubleEscape => (escaped? c).map fun d => { push d with quote := .double }
    | .single => if c == '\x27' then some { p with quote := .plain } else some (push c)
    | quote =>
      if p.naming != .none then some (p.stepName lookup c)
      else if c == '$' then some { p with naming := .bare }
      else if quote == .double then
        if c == '"' then some { p with quote := .plain }
        else if c == '\\' then some { p with quote := .doubleEscape }
        else some (push c)
      else if c == '\x27' then some { p with quote := .single }
      else if c == '"' then some { p with quote := .double }
      else if c == '\\' then some { p with quote := .escape }
      else if c == ' ' || c == '\t' then some { p with ended := true }
      else some (push c)

/-- The value that a text stands for. Quotes and braces must be closed. -/
def value (lookup : String → String) (cs : List Char) : Option String := do
  let p ← cs.foldlM (fun p c => Progress.step lookup p c) ({} : Progress)
  if p.naming == .braced || p.quote == .single || p.quote == .double ||
      p.quote == .doubleEscape then
    none
  else
    some (String.ofList (p.substitute lookup).read.reverse)

/-! ## Entries -/

/-- The name at the front of a line. -/
def name (cs : List Char) : Option (String × List Char) :=
  match cs with
  | c :: _ =>
    if c.isAlpha || c == '_' then
      let test := fun (c : Char) => c.isAlphanum || c == '_' || c == '.'
      some (String.ofList (cs.takeWhile test), Text.trimStart (cs.dropWhile test))
    else none
  | [] => none

/-- The name of a line and what follows the equals sign behind it. The word
`export` may stand in front, and may also be the name. -/
def target (cs : List Char) : Option (String × List Char) := do
  match ← name cs with
  | (n, '=' :: rest) => some (n, Text.trimStart rest)
  | (n, rest) =>
    if n == "export" then
      match ← name rest with
      | (n, '=' :: rest) => some (n, Text.trimStart rest)
      | _ => none
    else none

/-- What a line says. -/
inductive Entry
  | empty
  | variable (name value : String)
  | malformed

/-- What a line says. -/
def entry (lookup : String → String) (line : List Char) : Entry :=
  match Text.trimStart (Text.trimEnd line) with
  | [] => .empty
  | '#' :: _ => .empty
  | cs =>
    match target cs with
    | none => .malformed
    | some (n, []) => .variable n ""
    | some (n, '#' :: _) => .variable n ""
    | some (n, rest) =>
      match value lookup rest with
      | some v => .variable n v
      | none => .malformed

/-- An environment, and the variables of the file so far, which a value can
name even where the environment keeps its own. -/
structure Loading where
  environment : List (String × String)
  seen : List (String × String) := []

/-- What follows one text at the front of another, if it stands there. -/
def after? : (front text : List Char) → Option (List Char)
  | [], text => some text
  | _ :: _, [] => none
  | c :: front, d :: text => if c == d then after? front text else none

/-- The value of a variable. An environment is a list of entries `NAME=value`,
so a name with an equals sign in it reaches into the values. -/
def valueOf? (environment : List (String × String)) (name : String) : Option String :=
  environment.findSome? fun (n, v) =>
    (after? (name.toList ++ ['=']) (n.toList ++ '=' :: v.toList)).map String.ofList

/-- The value a name stands for: that of the environment, else that of the
file, else nothing. -/
def Loading.lookup (l : Loading) (name : String) : String :=
  ((valueOf? l.environment name).orElse fun _ => l.seen.lookup name).getD ""

/-- Sets a variable that is not set yet. No variable can hold a zero. -/
def Loading.set (l : Loading) (name value : String) : Option Loading :=
  let seen := (name, value) :: l.seen
  if (valueOf? l.environment name).isSome then some { l with seen }
  else if value.toList.any (·.toNat == 0) then none
  else some { environment := l.environment ++ [(name, value)], seen }

/-- Goes through the lines up to the first that cannot be read. -/
def loadLines : Loading → List (Option (List Char)) → Option Loading
  | l, [] => some l
  | l, none :: _ => some l
  | l, some line :: rest =>
    match entry l.lookup line with
    | .empty => loadLines l rest
    | .variable n v => do loadLines (← l.set n v) rest
    | .malformed => some l

end EnvFile

/-- An environment with the variables of a file added, unless one of them cannot
be set. -/
def addFromFile (environment : List (String × String)) (content : Host.Content) :
    Option (List (String × String)) :=
  let lines := EnvFile.joinLines .plain [] (EnvFile.fileLines content)
  (EnvFile.loadLines { environment } lines).map (·.environment)

end Settings

end DialogueScript
