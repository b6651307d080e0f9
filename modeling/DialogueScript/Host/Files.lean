import DialogueScript.Text.Utf8
/-!
# Files

A store of files as a program sees it from the directory it works in, with the
faults that reading and writing can meet. A directory exists as long as some
file is below it. The store knows no other files: what an absolute path names,
or one that leaves the working directory, is not found, wherever it leads in a
whole file system.
-/

namespace DialogueScript

namespace Host

/-- What a file holds: a text, or bytes that are none. -/
inductive Content
  | text (s : String)
  | binary (bytes : List UInt8)
deriving Repr, DecidableEq, Inhabited

/-- What a file of the given bytes holds. -/
def Content.ofBytes (bytes : List UInt8) : Content :=
  match Text.decode? bytes with
  | some s => .text s
  | none => .binary bytes

/-- What a file holds as text, with a mark for each malformed piece. -/
def Content.marked : Content → String
  | .text s => s
  | .binary bytes => Text.decodeMarked bytes

/-- Why a file cannot be read or written. -/
inductive FileError
  | notFound
  | isDirectory
  | notDirectory
  /-- The name holds a NUL. -/
  | badName
  | nameTooLong
  /-- The file is not a text. -/
  | notText
  | other (message : String)
deriving Repr, DecidableEq

/-- The message of a file error. -/
def FileError.message : FileError → String
  | .notFound => "No such file or directory (os error 2)"
  | .isDirectory => "Is a directory (os error 21)"
  | .notDirectory => "Not a directory (os error 20)"
  | .badName => "file name contained an unexpected NUL byte"
  | .nameTooLong => "File name too long (os error 36)"
  | .notText => "stream did not contain valid UTF-8"
  | .other message => message

/-- The text of a file that must be one. -/
def Content.asText : Content → Except FileError String
  | .text s => .ok s
  | .binary _ => .error .notText

/-- The files below the working directory, each under the parts of its path. -/
structure Files where
  entries : List (List String × Content) := []
deriving Repr, DecidableEq, Inhabited

namespace Files

/-- What a file holds. -/
def content? (files : Files) (name : List String) : Option Content :=
  files.entries.lookup name

/-- Whether some file is below a path. The working directory is always there. -/
def isDirectory (files : Files) (name : List String) : Bool :=
  name.isEmpty || files.entries.any fun (n, _) => name.length < n.length && name.isPrefixOf n

/-- The files with another content under a name. -/
def put (files : Files) (name : List String) (content : Content) : Files :=
  if (files.content? name).isSome then
    ⟨files.entries.map fun (n, c) => if n == name then (n, content) else (n, c)⟩
  else ⟨files.entries ++ [(name, content)]⟩

/-- Where a path leads. -/
inductive Place
  | directory
  | file (name : List String) (content : Content)
  /-- No file yet, in a directory that is there. -/
  | vacant (name : List String)

/-- How a path is meant to be used. -/
inductive Purpose
  | reading
  | writing
deriving DecidableEq

/-- How many bytes a part of a path may have. -/
def partLimit : Nat := 255

/-- How many bytes a path may have. -/
def pathLimit : Nat := 4095

/-- Follows the parts of a path from a directory. Outside the working directory
nothing is known. A slash at the end asks for a directory (`asDirectory`), which
no file can be and no file can become. -/
def walk (files : Files) (purpose : Purpose) (asDirectory : Bool) :
    Option (List String) → List String → Except FileError Place
  | _, [] => .ok .directory
  | here, part :: rest =>
    if part == "." then walk files purpose asDirectory here rest
    else if part == ".." then
      match here with
      | some (p :: ps) => walk files purpose asDirectory (some (p :: ps).dropLast) rest
      | _ => walk files purpose asDirectory none rest
    else if purpose == .writing && asDirectory && rest.isEmpty then .error .isDirectory
    else if partLimit < part.utf8ByteSize then .error .nameTooLong
    else
      match here with
      | none => .error .notFound
      | some dir =>
        let name := dir ++ [part]
        if files.isDirectory name then walk files purpose asDirectory (some name) rest
        else
          match files.content? name, rest with
          | some content, [] =>
            if asDirectory then .error .notDirectory else .ok (.file name content)
          | some _, _ => .error .notDirectory
          | none, [] => .ok (.vacant name)
          | none, _ => .error .notFound

/-- The parts of a path that are not empty. -/
def parts (path : String) : List String :=
  (path.splitToList (· == '/')).filter fun p => !p.isEmpty

/-- Where a path leads. -/
def locate (files : Files) (purpose : Purpose) (path : String) : Except FileError Place :=
  if path.isEmpty then .error .notFound
  else if path.toList.contains '\x00' then .error .badName
  else if pathLimit < path.utf8ByteSize then .error .nameTooLong
  else
    let start := if path.startsWith "/" then none else some []
    files.walk purpose (path.endsWith "/") start (parts path)

/-- Reads a file. -/
def read (files : Files) (path : String) : Except FileError Content :=
  match files.locate .reading path with
  | .error e => .error e
  | .ok .directory => .error .isDirectory
  | .ok (.file _ content) => .ok content
  | .ok (.vacant _) => .error .notFound

/-- Writes a file. -/
def write (files : Files) (path : String) (text : String) : Except FileError Files :=
  match files.locate .writing path with
  | .error e => .error e
  | .ok .directory => .error .isDirectory
  | .ok (.file name _) => .ok (files.put name (.text text))
  | .ok (.vacant name) => .ok (files.put name (.text text))

end Files

end Host

end DialogueScript
