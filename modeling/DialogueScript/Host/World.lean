import DialogueScript.Host.Files
/-!
# What a program can do

The command line is written for any `Host`: it reads and writes files, prints,
waits for a line of input, and looks up its environment. It also lists tables,
and in which order their entries come is up to the host. `World` is a host in
which all of that is plain data, so a run is a function of it. Its files are
those below the working directory (`Files`), so in it a path that leads out of
that directory, such as an absolute one, is never found.
-/

namespace DialogueScript

namespace Host

/-- An order for the entries of a table: for each entry, how many of those
behind it are to come before it. -/
abbrev Order := List Nat

/-- Entries in another order. Those about which the order says nothing stay
where they are. -/
def Order.arrange {α : Type} : Order → List α → List α
  | n :: order, a :: entries =>
    let others := arrange order entries
    others.take n ++ a :: others.drop n
  | _, entries => entries

end Host

/-- What a program can do to its surroundings. -/
class Host (m : Type → Type) where
  readFile : String → m (Except Host.FileError Host.Content)
  writeFile : String → String → m (Except Host.FileError Unit)
  print : String → m Unit
  /-- Waits for a line of input: its text, or nothing at the end of the
  input. -/
  readLine : m (Except Host.FileError (Option String))
  /-- The order in which the entries of a table are listed this time. -/
  order : m Host.Order
  /-- The names and values of the environment, in order. -/
  environment : m (List (String × String))

namespace Host

/-- Input that has not been read. -/
structure Input where
  bytes : List UInt8 := []
deriving Inhabited

/-- Characters can be given as input. -/
instance : Coe (List Char) Input := ⟨fun typed => ⟨typed.flatMap String.utf8EncodeChar⟩⟩

/-- The byte at the end of a line. -/
def newline : UInt8 := 10

/-- The text of a line with the given bytes. -/
def lineText (bytes : List UInt8) : Except FileError String := (Content.ofBytes bytes).asText

/-- Surroundings as data. -/
structure World where
  files : Files := {}
  environment : List (String × String) := []
  input : Input := {}
  /-- The orders in which tables will be listed. Behind the last of them tables
  are listed as they are. -/
  orders : List Order := []
  /-- What has been printed. -/
  output : String := ""
deriving Inhabited

namespace World

/-- Takes a line off the input. The last one need not end. A line that is no
text is taken off as well, but cannot be read. -/
def takeLine (w : World) : Except FileError (Option String) × World :=
  match w.input.bytes with
  | [] => (.ok none, w)
  | bytes =>
    (some <$> lineText (bytes.takeWhile (· != newline)),
      { w with input := ⟨(bytes.dropWhile (· != newline)).drop 1⟩ })

/-- Takes the next order. -/
def takeOrder (w : World) : Order × World :=
  match w.orders with
  | [] => ([], w)
  | order :: orders => (order, { w with orders })

/-- Writes a file. -/
def writeFile (w : World) (path text : String) : Except FileError Unit × World :=
  match w.files.write path text with
  | .ok files => (.ok (), { w with files })
  | .error e => (.error e, w)

/-- Prints a text. -/
def print (w : World) (text : String) : World := { w with output := w.output ++ text }

end World

instance : Host (StateM World) where
  readFile path := fun w => (w.files.read path, w)
  writeFile path text := fun w => w.writeFile path text
  print text := fun w => ((), w.print text)
  readLine := fun w => w.takeLine
  order := fun w => w.takeOrder
  environment := fun w => (w.environment, w)

end Host

end DialogueScript
