import DialogueScript.Text.Digits
import DialogueScript.Yaml.Scanner
/-!
# Scalars in YAML

The texts of scalars: plain ones, quoted ones and blocks of lines. In plain and
quoted scalars a line end becomes a blank and each further one stays; a block
keeps its line ends, or folds them like that.
-/

namespace DialogueScript

namespace Yaml

open Scanning

/-- Blanks and line ends that wait to be added to a text. -/
structure Waiting where
  blanks : List Char := []
  /-- Whether a line has ended. -/
  broken : Bool := false
  /-- How many further lines have ended. -/
  further : Nat := 0

/-- What the waiting blanks and line ends add to a text: a single line end is
folded to a blank. -/
def Waiting.folded (w : Waiting) : List Char :=
  if w.broken then
    if w.further = 0 then [' '] else List.replicate w.further '\n'
  else w.blanks

/-! ## Plain scalars -/

/-- Whether the next character can belong to a plain scalar. -/
def atPlain : Scanning Bool := do
  let flow ← inFlow
  let next ← peekAt 1
  match ← peek with
  | some ':' => return !(isGap next || (flow && isFlowSign next))
  | c => return !(flow && isFlowSign c)

/-- The characters of a plain scalar up to a gap or its end. -/
def plainWord : (fuel : Nat) → (read : List Char) → Scanning (List Char)
  | 0, read => return read.reverse
  | fuel + 1, read => do
    match ← peek with
    | none => return read.reverse
    | some c =>
      if isGap (some c) || !(← atPlain) then return read.reverse
      else
        skip
        plainWord fuel (c :: read)

/-- The blanks and line ends behind a word of a plain scalar. -/
def plainGap (start : Mark) (indent : Int) : (fuel : Nat) → Waiting → Scanning Waiting
  | 0, w => return w
  | fuel + 1, w => do
    match ← peek with
    | none => return w
    | some c =>
      if isBlank (some c) then
        if !w.broken then
          skipBlank
          plainGap start indent fuel { w with blanks := w.blanks ++ [c] }
        else if (← column) < indent && c == '\t' then
          discard (skipBlanks true)
          if !isLineEnd (← peek) then failAt start .plainTab
          plainGap start indent fuel w
        else
          skipBlank
          plainGap start indent fuel w
      else if isBreak (some c) then
        skipBreak
        plainGap start indent fuel
          (if w.broken then { w with further := w.further + 1 } else { broken := true })
      else return w

/-- The words of a plain scalar, with what is between them: the text, and
whether a line has ended behind it. -/
def plainWords (start : Mark) (indent : Int) : (fuel : Nat) → (read : List Char) → Waiting →
    Scanning (List Char × Bool)
  | 0, read, w => return (read, w.broken)
  | fuel + 1, read, w => do
    if (← atDocumentIndicator) || (← peek) == some '#' then return (read, w.broken)
    else
      if (← inFlow) && (← peek) == some '-' && isFlowSign (← peekAt 1) then fail .flowDash
      let word ← withFuel fun n => plainWord n []
      let (read, w) := if word.isEmpty then (read, w) else (read ++ w.folded ++ word, {})
      let c ← peek
      if !(isBlank c || isBreak c) then return (read, w.broken)
      else
        let w ← withFuel fun n => plainGap start indent n w
        if !(← inFlow) && (← column) < indent then return (read, w.broken)
        else plainWords start indent fuel read w

/-- A plain scalar. -/
def plainScalar : Scanning Unit := do
  dropPrepared
  let start ← mark
  let indent := (← get).indent + 1
  if (← inFlow) && (start.column : Int) < indent then failAt start .flowIndentation
  let (text, broken) ← withFuel fun n => plainWords start indent n [] {}
  if broken then allowKey true
  push (.scalar true (String.ofList text)) start

/-! ## Quoted scalars -/

/-- Escapes by a character, and what they stand for. -/
def escapes : List (Char × Char) :=
  [('0', '\x00'), ('a', '\x07'), ('b', '\x08'), ('t', '\t'), ('\t', '\t'), ('n', '\n'),
    ('v', '\x0b'), ('f', '\x0c'), ('r', '\r'), ('e', '\x1b'), (' ', ' '), ('"', '"'), ('/', '/'),
    ('\\', '\\'), ('N', Char.ofNat 0x85), ('_', Char.ofNat 0xa0), ('L', Char.ofNat 0x2028),
    ('P', Char.ofNat 0x2029)]

/-- The character of an escape by number, with so many digits. -/
def numbered (start : Mark) (count : Nat) : Scanning Char := do
  skipMany 2
  let digits := (← rest).take count
  if digits.length < count || !digits.all (Text.isDigitOf 16) then failAt start .escapeDigits
  match Text.scalar? (Text.ofDigits 16 digits) with
  | none => failAt start .escapeCode
  | some c =>
    skipMany count
    return c

/-- The character of an escape. -/
def escape (start : Mark) : Scanning Char := do
  match ← peekAt 1 with
  | some 'x' => numbered start 2
  | some 'u' => numbered start 4
  | some 'U' => numbered start 8
  | some c =>
    match escapes.lookup c with
    | some d =>
      skipMany 2
      return d
    | none => failAt start .unknownEscape
  | none => failAt start .unknownEscape

/-- The characters of a quoted scalar up to a gap or its quote, and whether a
line end was escaped behind them. -/
def quotedWord (single : Bool) (start : Mark) : (fuel : Nat) → (read : List Char) →
    Scanning (List Char × Bool)
  | 0, read => return (read.reverse, false)
  | fuel + 1, read => do
    let next ← peekAt 1
    match ← peek with
    | none => return (read.reverse, false)
    | some c =>
      if isGap (some c) then return (read.reverse, false)
      else if c == '\x27' && single then
        if next == some '\x27' then
          skipMany 2
          quotedWord single start fuel ('\x27' :: read)
        else return (read.reverse, false)
      else if c == '"' && !single then return (read.reverse, false)
      else if c == '\\' && !single then
        if isBreak next then
          skip
          skipBreak
          return (read.reverse, true)
        else
          let d ← escape start
          quotedWord single start fuel (d :: read)
      else
        skip
        quotedWord single start fuel (c :: read)

/-- The blanks and line ends behind a word of a quoted scalar; `wrapped` says that
a line has ended already without a trace. -/
def quotedGap (wrapped : Bool) : (fuel : Nat) → Waiting → Scanning Waiting
  | 0, w => return w
  | fuel + 1, w => do
    match ← peek with
    | none => return w
    | some c =>
      if isBlank (some c) then
        if wrapped || w.broken then
          if c == '\t' && (← column) < (← get).indent then fail .quotedTab
          skipBlank
          quotedGap wrapped fuel w
        else
          skipBlank
          quotedGap wrapped fuel { w with blanks := w.blanks ++ [c] }
      else if isBreak (some c) then
        skipBreak
        quotedGap wrapped fuel
          (if wrapped || w.broken then { w with further := w.further + 1 } else { broken := true })
      else return w

/-- The words of a quoted scalar up to its quote, with what is between them. -/
def quotedWords (single : Bool) (start : Mark) : (fuel : Nat) → (read : List Char) →
    Scanning (List Char)
  | 0, read => return read
  | fuel + 1, read => do
    if ← atDocumentIndicator then failAt start .quotedDocument
    if (← peek).isNone then failAt start .quotedEnd
    if (← column) < (← get).indent then failAt start .quotedIndentation
    let (word, wrapped) ← withFuel fun n => quotedWord single start n []
    let read := read ++ word
    if (← peek) == some (if single then '\x27' else '"') then return read
    else
      let w ← withFuel fun n => quotedGap wrapped n {}
      let gap := if wrapped then List.replicate w.further '\n' else w.folded
      quotedWords single start fuel (read ++ gap)

/-- A quoted scalar. What follows it on its line must be able to. -/
def quotedScalar (single : Bool) : Scanning Unit := do
  let start ← mark
  skip
  let text ← withFuel fun n => quotedWords single start n []
  skip
  discard (skipBlanks true)
  let c ← peek
  let flow ← inFlow
  let fine := isLineEnd c ||
    (flow && [some ',', some '\x7d', some ']', some ':'].contains c) ||
    (!flow && c == some ':' && start.line == (← mark).line)
  if !fine then fail .quotedTrailing
  push (.scalar false (String.ofList text)) start

/-! ## Blocks of lines -/

/-- What becomes of the line ends at the end of a block. -/
inductive Chomping
  | strip
  | clip
  | keep
deriving DecidableEq

/-- The sign for the end of a block, if there is one. -/
def chomping? : Scanning (Option Chomping) := do
  match ← peek with
  | some '+' =>
    skip
    return some .keep
  | some '-' =>
    skip
    return some .strip
  | _ => return none

/-- The digit for the indentation of a block, if there is one. -/
def increment? (start : Mark) : Scanning (Option Nat) := do
  match ← peek with
  | some c =>
    if c.isDigit then
      if c == '0' then failAt start .blockIndicatorZero
      skip
      return some (c.toNat - '0'.toNat)
    else return none
  | none => return none

/-- The signs behind the mark of a block, in either order. -/
def blockSigns (start : Mark) : Scanning (Chomping × Option Nat) := do
  match ← chomping? with
  | some c => return (c, ← increment? start)
  | none =>
    let i ← increment? start
    if i.isSome then return ((← chomping?).getD .clip, i) else return (.clip, i)

/-- How many characters can be looked at. -/
def bufferSize : Nat := 16

/-- Moves on over the blanks of an indentation, looking at as many characters at
a time as possible. -/
def skipIndent (indent : Nat) : (fuel : Nat) → Scanning Unit
  | 0 => return ()
  | fuel + 1 => do
    lookAhead bufferSize
    let blanks := ((← rest).takeWhile (· == ' ')).length
    skipBlankMany (min (← get).buffered (min blanks (indent - (← mark).column)))
    let stopped := 0 < (← get).buffered && (← peek) != some ' '
    if !((← mark).column == indent || stopped) then skipIndent indent fuel

/-- Moves on over empty lines and the blanks of an indentation: how many lines
there were. -/
def skipIndented (indent : Nat) : (fuel : Nat) → (lines : Nat) → Scanning Nat
  | 0, lines => return lines
  | fuel + 1, lines => do
    withFuel (skipIndent indent)
    lookAhead 2
    if isBreak (← peek) then
      skipBreak
      skipIndented indent fuel (lines + 1)
    else return lines

/-- Moves on to the first line of a block that is not empty: how many lines came
before it, and the furthest column of blanks. -/
def findIndent : (fuel : Nat) → (lines furthest : Nat) → Scanning (Nat × Nat)
  | 0, lines, furthest => return (lines, furthest)
  | fuel + 1, lines, furthest => do
    skipBlankMany ((← rest).takeWhile (· == ' ')).length
    lookAhead 1
    let furthest := max furthest (← mark).column
    if isBreak (← peek) then
      lookAhead 2
      skipBreak
      findIndent fuel (lines + 1) furthest
    else return (lines, furthest)

/-- A block while it is read. -/
structure BlockText where
  read : List Char := []
  /-- Whether the last line has ended. -/
  broken : Bool := false
  /-- How many empty lines have ended since. -/
  further : Nat := 0
  /-- Whether the last line started with a blank. -/
  blankStart : Bool := false

/-- Adds a line to a block. In a folded block a line end between two lines that
start with no blank becomes a blank. -/
def BlockText.add (b : BlockText) (literal blankStart : Bool) (line : List Char) : BlockText :=
  let breaks := List.replicate b.further '\n'
  let gap :=
    if !literal && b.broken && !b.blankStart && !blankStart then
      if b.further = 0 then [' '] else breaks
    else (if b.broken then ['\n'] else []) ++ breaks
  { read := b.read ++ gap ++ line, blankStart }

/-- The lines of a block. -/
def blockLines (literal : Bool) (indent : Nat) : (fuel : Nat) → BlockText → Scanning BlockText
  | 0, b => return b
  | fuel + 1, b => do
    if (← mark).column ≠ indent || (← peek).isNone then return b
    else if indent = 0 && (← atIndicator '.') then return b
    else
      if indent = 0 then lookAhead 4
      let line := (← rest).takeWhile fun c => c != '\n' && c != '\r'
      let b := b.add literal (isBlank line.head?) line
      skipRaw line.length
      if (← peek).isNone then return b
      else
        lookAhead 2
        skipBreak
        let lines ← withFuel fun n => skipIndented indent n 0
        blockLines literal indent fuel { b with broken := true, further := lines }

/-- A block without lines at the end of the text. -/
def emptyBlock (chomping : Chomping) (sameLine broken : Bool) (lines : Nat) : List Char :=
  let first := if broken then ['\n'] else []
  match chomping with
  | .strip => []
  | .clip => if sameLine then [] else first
  | .keep => if sameLine then [] else if lines = 0 then first else List.replicate lines '\n'

/-- A block of lines. Its place is where its first line starts. -/
def blockScalar (literal : Bool) : Scanning Unit := do
  let start ← mark
  skip
  dropPrepared
  let (chomping, increment) ← blockSigns start
  discard (skipBlanks true)
  if !isLineEnd (← peek) then failAt start .blockHeader
  let broken := isBreak (← peek)
  lookAhead 2
  skipBreak
  lookAhead 1
  if (← peek) == some '\t' then failAt start .blockTab
  let outer := (← get).indent
  let (lines, indent) ← do
    match increment with
    | some n =>
      let indent := (max outer 0).toNat + n
      pure (← withFuel fun m => skipIndented indent m 0, indent)
    | none =>
      let (lines, furthest) ← withFuel fun n => findIndent n 0 0
      let indent := max furthest (outer + 1).toNat
      pure (lines, if 0 < outer then max indent 1 else indent)
  let finish (at_ : Mark) (text : List Char) : Scanning Unit :=
    push (.scalar false (String.ofList text)) at_
  let first ← mark
  if (← peek).isNone then
    finish start (emptyBlock chomping (first.line == start.line) broken lines)
  else
    if first.column < indent && outer < (← column) then fail .blockIndentation
    let b ← withFuel fun n => blockLines literal indent n { further := lines }
    let unfinished := (← peek).isNone && max indent 1 ≤ (← mark).column
    let ending := (if b.broken then ['\n'] else []) ++ (if unfinished then ['\n'] else [])
    match chomping with
    | .strip => finish first b.read
    | .clip => finish first (b.read ++ ending)
    | .keep => finish first (b.read ++ ending ++ List.replicate b.further '\n')

end Yaml

end DialogueScript
