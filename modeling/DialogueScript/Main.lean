import DialogueScript.CommandLine.Run
/-!
# The program

The command line over real files, input and output.
-/

namespace DialogueScript

namespace Host

/-- A fault of a real file. -/
def FileError.ofIO : IO.Error → FileError
  | .noFileOrDirectory _ _ _ => .notFound
  | .noSuchThing _ _ _ => .notFound
  | .inappropriateType _ 21 _ => .isDirectory
  | .inappropriateType _ _ _ => .notDirectory
  | .invalidArgument _ 22 _ => .badName
  | .invalidArgument _ _ _ => .nameTooLong
  | e => .other (toString e)

/-- A variable of the environment, from the bytes `NAME=value`. -/
def variableOf (bytes : List UInt8) : Option (String × String) :=
  let text := (Text.decodeMarked bytes).toList
  let name := text.takeWhile (· != '=')
  if name.isEmpty then none
  else some (String.ofList name, String.ofList ((text.dropWhile (· != '=')).drop 1))

/-- The variables of bytes with a zero behind each. -/
def variablesOf : (current : List UInt8) → List UInt8 → List (String × String)
  | current, [] => (variableOf current.reverse).toList
  | current, b :: bs =>
    if b == 0 then (variableOf current.reverse).toList ++ variablesOf [] bs
    else variablesOf (b :: current) bs

/-- Reads a line, byte by byte and at most so many, behind what has been read
of it. A byte at the end of the line belongs to it. -/
def readBytes (input : IO.FS.Stream) : (fuel : Nat) → List UInt8 → IO (List UInt8)
  | 0, read => return read.reverse
  | fuel + 1, read => do
    match (← input.read 1).toList with
    | [] => return read.reverse
    | b :: _ =>
      if b == newline then return (b :: read).reverse else readBytes input fuel (b :: read)

instance : Host IO where
  readFile path := do
    try
      let bytes ← IO.FS.readBinFile path
      match String.fromUTF8? bytes with
      | some s => return .ok (.text s)
      | none => return .ok (.binary bytes.toList)
    catch e => return .error (.ofIO e)
  writeFile path text := do
    try
      IO.FS.writeFile path text
      return .ok ()
    catch e => return .error (.ofIO e)
  print text := do
    let out ← IO.getStdout
    out.putStr text
    out.flush
  readLine := do
    let line ← readBytes (← IO.getStdin) (Nat.pow 2 62) []
    if line.isEmpty then return .ok none
    else return some <$> lineText (line.takeWhile (· != newline))
  order := return []
  environment := do
    try
      return variablesOf [] (← IO.FS.readBinFile "/proc/self/environ").toList
    catch _ => return []

end Host

end DialogueScript

open DialogueScript in
/-- Runs the command line. -/
def main (args : List String) : IO UInt32 := do
  let status : CommandLine.Status ← CommandLine.execute args
  match status with
  | .failed why => IO.eprintln ("Error: " ++ why.message)
  | .usage =>
    IO.eprintln ("usage: gds [--config FILE] " ++
      "(run [-a] [--checkpoint FILE] [--resume] | trace | check) SCRIPT")
  | .done => pure ()
  return UInt32.ofNat status.code
