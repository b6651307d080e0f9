import DialogueScript.Yaml.Fault
/-!
# Scanning YAML

What the scanning of a YAML text keeps in mind: its place, the tokens so far,
the columns of the blocks that are open, and where a key may have begun that is
known as one only by the colon behind it.
-/

namespace DialogueScript

namespace Yaml

/-- A tag: a handle that says whose tag it is, and its name there. -/
structure Tag where
  handle : String
  name : String
deriving Repr, DecidableEq

/-- A token. -/
inductive Token
  /-- The directive that gives a version. -/
  | version
  /-- A directive that says what a handle stands for. -/
  | handle (name meaning : String)
  | documentStart
  | documentEnd
  | blockSequenceStart
  | blockMappingStart
  | blockEnd
  | flowSequenceStart
  | flowSequenceEnd
  | flowMappingStart
  | flowMappingEnd
  | blockEntry
  | flowEntry
  | key
  | value
  | alias (name : String)
  | anchor (name : String)
  | tag (t : Tag)
  | scalar (plain : Bool) (text : String)
  | streamEnd
deriving Repr, DecidableEq, Inhabited

/-- The column of the block around an open one. An indentation can also be
prepared without a block. -/
structure Indent where
  column : Int
  isBlock : Bool

/-- Where a key may have begun. A key that is required is the only thing that
can stand there. -/
structure SimpleKey where
  possible : Bool := false
  required : Bool := false
  /-- How many tokens are in front of it. -/
  number : Nat := 0
  mark : Mark := {}

/-- What scanning keeps in mind. -/
structure Scanner where
  rest : List Char
  mark : Mark := {}
  /-- How many characters of the rest have been looked at. -/
  buffered : Nat := 0
  /-- Nothing but blanks has been on the line. -/
  atLineStart : Bool := true
  tokens : Array (Token × Mark) := #[]
  indent : Int := -1
  indents : List Indent := []
  /-- Where a key may have begun, in the innermost flow collection first. -/
  keys : List SimpleKey := [{}]
  keyAllowed : Bool := true
  /-- Where a value may follow a colon at once. -/
  adjacentAt : Option Nat := none
  /-- Whether a flow mapping has been opened by a sign of its own. -/
  mappingOpened : Bool := false
  /-- Whether a pair in a flow list has opened a mapping without a sign. -/
  pairOpened : Bool := false

/-- A step of scanning. -/
abbrev Scanning := StateT Scanner (Except Fault)

namespace Scanning

/-- Fails at a place. -/
def failAt {α : Type} (mark : Mark) (cause : Cause) : Scanning α := throw ⟨mark, cause⟩

/-- The place. -/
def mark : Scanning Mark := do return (← get).mark

/-- Fails at the place that is reached. -/
def fail {α : Type} (cause : Cause) : Scanning α := do failAt (← mark) cause

/-- The rest of the text. -/
def rest : Scanning (List Char) := do return (← get).rest

/-- The next character. -/
def peek : Scanning (Option Char) := do return (← rest).head?

/-- The character so many places on. -/
def peekAt (n : Nat) : Scanning (Option Char) := do return (← rest)[n]?

/-- The column, as a number to compare with indentations. -/
def column : Scanning Int := do return ((← mark).column : Int)

/-- Whether a flow collection is open. -/
def inFlow : Scanning Bool := do return 1 < (← get).keys.length

/-! ## Characters -/

/-- Blanks within a line. -/
def isBlank (c : Option Char) : Bool := c == some ' ' || c == some '\t'

/-- Line ends. -/
def isBreak (c : Option Char) : Bool := c == some '\n' || c == some '\r'

/-- Line ends, and the end of the text. -/
def isLineEnd (c : Option Char) : Bool := c.isNone || isBreak c

/-- Blanks, line ends and the end of the text. -/
def isGap (c : Option Char) : Bool := isBlank c || isLineEnd c

/-- Signs of flow collections. -/
def isFlowSign (c : Option Char) : Bool :=
  [some ',', some '[', some ']', some '\x7b', some '\x7d'].contains c

/-! ## Moving on -/

/-- Moves on by one character within a line. -/
def advance (s : Scanner) (rest : List Char) : Scanner :=
  { s with
    rest
    buffered := s.buffered - 1
    mark := { s.mark with index := s.mark.index + 1, column := s.mark.column + 1 } }

/-- Moves on over a blank. -/
def skipBlank : Scanning Unit := modify fun s =>
  match s.rest with
  | [] => s
  | _ :: rest => advance s rest

/-- Moves on over a character that is no blank. -/
def skip : Scanning Unit := modify fun s =>
  match s.rest with
  | [] => s
  | _ :: rest => { advance s rest with atLineStart := false }

/-- Moves on over so many characters that are no blanks. -/
def skipMany : Nat → Scanning Unit
  | 0 => return ()
  | n + 1 => do
    skip
    skipMany n

/-- Moves on over so many blanks. -/
def skipBlankMany : Nat → Scanning Unit
  | 0 => return ()
  | n + 1 => do
    skipBlank
    skipBlankMany n

/-- Moves on over a line end. -/
def skipBreak : Scanning Unit := modify fun s =>
  let next (length : Nat) (rest : List Char) : Scanner :=
    { s with
      rest
      buffered := s.buffered - length
      atLineStart := true
      mark := ⟨s.mark.index + length, s.mark.line + 1, 0⟩ }
  match s.rest with
  | '\r' :: '\n' :: rest => next 2 rest
  | '\n' :: rest => next 1 rest
  | '\r' :: rest => next 1 rest
  | _ => s

/-- Looks at so many characters. -/
def lookAhead (n : Nat) : Scanning Unit := modify fun s => { s with buffered := max s.buffered n }

/-- Moves on over so many characters within a line at once. Those that have been
looked at count as one each, the others by their bytes, and then the one behind
them has been looked at. -/
def skipRaw (n : Nat) : Scanning Unit := modify fun s =>
  let known := min n s.buffered
  let size := known + ((s.rest.take n).drop known).foldl (fun size c => size + c.utf8Size) 0
  { s with
    rest := s.rest.drop n
    buffered := max 1 (s.buffered - n)
    mark := { s.mark with index := s.mark.index + size, column := s.mark.column + size } }

/-- Runs a loop with the length of the text as fuel. -/
def withFuel {α : Type} (loop : Nat → Scanning α) : Scanning α := do
  loop ((← rest).length + 1)

/-- Moves on over the rest of a line. -/
def skipLine : Scanning Unit := do
  skipMany ((← rest).takeWhile fun c => c != '\n' && c != '\r').length

/-- What blanks were found. -/
structure Blanks where
  tabs : Bool := false
  spaces : Bool := false

/-- Moves on over blanks and a comment. A comment needs a blank in front. -/
def skipBlanksLoop (withTabs : Bool) : (fuel : Nat) → Blanks → Scanning Blanks
  | 0, found => return found
  | fuel + 1, found => do
    match ← peek with
    | some ' ' =>
      skipBlank
      skipBlanksLoop withTabs fuel { found with spaces := true }
    | some '\t' =>
      if withTabs then
        skipBlank
        skipBlanksLoop withTabs fuel { found with tabs := true }
      else return found
    | some '#' =>
      if !found.tabs && !found.spaces then fail .commentPlace
      skipLine
      return found
    | _ => return found

/-- Moves on over blanks and a comment, over tabs only if they may stand here. -/
def skipBlanks (withTabs : Bool) : Scanning Blanks :=
  withFuel fun n => skipBlanksLoop withTabs n {}

/-- Whether a line starts here with three given signs that stand alone. -/
def atIndicator (sign : Char) : Scanning Bool := do
  if (← mark).column ≠ 0 then return false
  else
    match ← rest with
    | a :: b :: c :: behind => return a == sign && b == sign && c == sign && isGap behind.head?
    | _ => return false

/-- Whether a document starts or ends here. -/
def atDocumentIndicator : Scanning Bool := do
  return (← atIndicator '-') || (← atIndicator '.')

/-! ## Tokens, indentation and keys -/

/-- Adds a token. -/
def push (token : Token) (at_ : Mark) : Scanning Unit :=
  modify fun s => { s with tokens := s.tokens.push (token, at_) }

/-- Puts a token behind so many others. -/
def insert (number : Nat) (token : Token) (at_ : Mark) : Scanning Unit :=
  modify fun s =>
    { s with
      tokens := s.tokens.extract 0 number ++ #[(token, at_)] ++
        s.tokens.extract number s.tokens.size }

/-- Says whether a key may begin at the next token. -/
def allowKey (allowed : Bool) : Scanning Unit := modify ({ · with keyAllowed := allowed })

/-- Prepares an indentation of one column that starts no block. -/
def prepareIndent : Scanning Unit := do
  if !(← inFlow) then
    modify fun s =>
      match s.indents with
      | i :: _ =>
        if i.isBlock then
          { s with indents := ⟨s.indent, false⟩ :: s.indents, indent := s.indent + 1 }
        else s
      | [] => s

/-- Takes back indentations that start no block. -/
def dropPrepared : Scanning Unit := modify fun s =>
  let prepared := s.indents.takeWhile fun i => !i.isBlock
  match prepared.getLast? with
  | some i => { s with indent := i.column, indents := s.indents.drop prepared.length }
  | none => s

/-- Opens a block at a column, unless one is open there. Its token goes behind
so many others, or to the end. -/
def openBlock (at_ : Int) (number : Option Nat) (token : Token) (mark : Mark) :
    Scanning Unit := do
  if !(← inFlow) then
    modify fun s =>
      match s.indents with
      | i :: others =>
        if s.indent ≤ at_ && !i.isBlock then { s with indent := i.column, indents := others }
        else s
      | [] => s
    let s ← get
    if s.indent < at_ then
      set { s with indents := ⟨s.indent, true⟩ :: s.indents, indent := at_ }
      match number with
      | some n => insert n token mark
      | none => push token mark

/-- Closes blocks that are indented further than a column, at most so many. -/
def closeLoop (limit : Int) : (fuel : Nat) → Scanning Unit
  | 0 => return ()
  | fuel + 1 => do
    let s ← get
    match s.indents with
    | i :: others =>
      if limit < s.indent then
        set { s with indent := i.column, indents := others }
        if i.isBlock then push .blockEnd s.mark
        closeLoop limit fuel
    | [] => return ()

/-- Closes the blocks that are indented further than a column. -/
def closeBlocks (limit : Int) : Scanning Unit := do
  if !(← inFlow) then closeLoop limit (← get).indents.length

/-- Notes that a key may begin here. -/
def saveKey : Scanning Unit := do
  let s ← get
  if s.keyAllowed then
    let required :=
      !(← inFlow) && s.indent == (s.mark.column : Int) && s.indents.head?.any (·.isBlock)
    set { s with keys := ⟨true, required, s.tokens.size, s.mark⟩ :: s.keys.drop 1 }

/-- Gives up the key that may have begun. -/
def removeKey : Scanning Unit := do
  let s ← get
  match s.keys with
  | k :: others =>
    if k.possible && k.required then fail .keyExpected
    set { s with keys := { k with possible := false } :: others }
  | [] => return ()

/-- How long a key may be. -/
def keyLimit : Nat := 1024

/-- Gives up keys that can no longer be: outside of flow collections a key is on
one line. -/
def dropStaleKeys : Scanning Unit := do
  let s ← get
  if !(← inFlow) then
    let stale (k : SimpleKey) : Bool :=
      k.possible && (k.mark.line < s.mark.line || k.mark.index + keyLimit < s.mark.index)
    if s.keys.any fun k => stale k && k.required then fail .keyWithoutColon
    set { s with keys := s.keys.map fun k => if stale k then { k with possible := false } else k }

end Scanning

end Yaml

end DialogueScript
