import DialogueScript.Yaml.Scalar
import DialogueScript.Yaml.Tag
/-!
# YAML streams

The tokens of a text, one after the other. Blocks are opened and closed by
columns; a key without a mark of its own is recognised by the colon behind it,
and its tokens are then put in front of it. A pair in a flow list opens a mapping
of its own, which the next comma or bracket closes.
-/

namespace DialogueScript

namespace Yaml

open Scanning

/-- Moves on to the next token: over blanks, comments and line ends. -/
def skipToToken : (fuel : Nat) → Scanning Unit
  | 0 => return ()
  | fuel + 1 => do
    match ← peek with
    | some '\t' =>
      let s ← get
      if !s.indents.isEmpty && s.atLineStart && (← column) < s.indent then
        discard (skipBlanks true)
        if !isLineEnd (← peek) then fail .tabAsIndentation
      else skipBlank
      skipToToken fuel
    | some ' ' =>
      skipBlank
      skipToToken fuel
    | some '#' =>
      skipLine
      skipToToken fuel
    | c =>
      if isBreak c then
        skipBreak
        if !(← inFlow) then allowKey true
        skipToToken fuel

/-- Closes what is open before a document starts or ends. -/
def closeAll : Scanning Unit := do
  closeBlocks (-1)
  removeKey
  allowKey false

/-- The start or the end of a document. -/
def documentIndicator (token : Token) : Scanning Unit := do
  closeAll
  let start ← mark
  skipMany 3
  push token start

/-- How deep flow collections may nest. -/
def flowLimit : Nat := 255

/-- The start of a flow collection. -/
def flowStart (token : Token) : Scanning Unit := do
  saveKey
  prepareIndent
  if flowLimit < (← get).keys.length then fail .flowDepth
  modify fun s => { s with keys := {} :: s.keys }
  allowKey true
  let start ← mark
  skip
  if token == .flowMappingStart then modify ({ · with mappingOpened := true })
  discard (skipBlanks true)
  push token start

/-- Closes the mapping that a pair in a flow list has opened. -/
def closePair : Scanning Unit := do
  if (← get).pairOpened then
    modify ({ · with pairOpened := false, mappingOpened := false })
    push .flowMappingEnd (← mark)

/-- The end of a flow collection. -/
def flowEnd (token : Token) : Scanning Unit := do
  removeKey
  if ← inFlow then modify fun s => { s with keys := s.keys.drop 1 }
  allowKey false
  closePair
  let start ← mark
  skip
  discard (skipBlanks true)
  if ← inFlow then modify fun s => { s with adjacentAt := some s.mark.index }
  push token start

/-- A comma in a flow collection. -/
def flowEntry : Scanning Unit := do
  removeKey
  allowKey true
  closePair
  let start ← mark
  skip
  discard (skipBlanks true)
  push .flowEntry start

/-- The place of an anchor or a tag that is the last token. -/
def lastProperty : Scanning (Option Mark) := do
  match (← get).tokens.back? with
  | some (.anchor _, at_) => return some at_
  | some (.tag _, at_) => return some at_
  | _ => return none

/-- The mark of an item of a block. An anchor or a tag in front of a list within
a block must be indented. -/
def blockEntry : Scanning Unit := do
  if ← inFlow then fail .entryInFlow
  if !(← get).keyAllowed then fail .entryPlace
  let start ← mark
  match ← lastProperty with
  | some at_ =>
    if start.column = 0 && at_.column = 0 && -1 < (← get).indent then failAt at_ .anchorIndentation
  | none => pure ()
  skip
  openBlock start.column none .blockSequenceStart start
  let found ← skipBlanks true
  if found.tabs && (← peek) == some '-' && isGap (← peekAt 1) then fail .entryBlank
  if isBreak (← peek) || isFlowSign (← peek) then prepareIndent
  removeKey
  allowKey true
  push .blockEntry (← mark)

/-- Moves on over spaces, line ends and comments: whether there was a space or a
line end. -/
def skipSpaces : (fuel : Nat) → (found : Bool) → Scanning Bool
  | 0, found => return found
  | fuel + 1, found => do
    match ← peek with
    | some ' ' =>
      skipBlank
      skipSpaces fuel true
    | some '#' =>
      skipLine
      skipSpaces fuel found
    | c =>
      if isBreak c then
        skipBreak
        if !(← inFlow) then allowKey true
        skipSpaces fuel true
      else return found

/-- The mark of a key. -/
def explicitKey : Scanning Unit := do
  let start ← mark
  let flow ← inFlow
  if flow then modify ({ · with mappingOpened := true })
  else
    if !(← get).keyAllowed then failAt start .keyPlace
    openBlock start.column none .blockMappingStart start
  removeKey
  allowKey !flow
  skip
  if !(← withFuel fun n => skipSpaces n false) then fail .keyBlank
  if (← peek) == some '\t' then fail .keyTab
  push .key start

/-- The colon in front of a value. If a key may have begun on its line, it was
one. -/
def valueMark : Scanning Unit := do
  let start ← mark
  let flow ← inFlow
  let pair := flow && !(← get).mappingOpened
  modify ({ · with pairOpened := pair })
  skip
  if (← peek) == some '\t' then
    let found ← skipBlanks true
    let next ← peek
    if !found.spaces && next.any isWordSign then fail .valueBlank
  match (← get).keys.head? with
  | some k =>
    if k.possible then
      insert k.number .key k.mark
      if pair then
        if k.mark.line < start.line then failAt start .valueLine
        insert k.number .flowMappingStart (← mark)
      openBlock k.mark.column (some k.number) .blockMappingStart start
      prepareIndent
      modify fun s => { s with keys := { k with possible := false } :: s.keys.drop 1 }
      allowKey false
    else
      if pair then push .flowMappingStart (← mark)
      if !flow then
        if !(← get).keyAllowed then failAt start .valuePlace
        openBlock start.column none .blockMappingStart start
      prepareIndent
      allowKey !flow
  | none => return ()
  push .value start

/-- The name of an anchor or of the node an alias stands for. -/
def anchorName (token : String → Token) : Scanning Unit := do
  saveKey
  allowKey false
  let start ← mark
  skip
  let name := (← rest).takeWhile fun c =>
    !isGap (some c) && !isFlowSign (some c) && c.toNat != 0xfeff
  if name.isEmpty then failAt start .anchorName
  skipMany name.length
  push (token (String.ofList name)) start

/-- The token that starts with a sign or a scalar. -/
def signOrScalar (c : Char) : Scanning Unit := do
  let flow ← inFlow
  let next ← peekAt 1
  let gap := isGap next
  let scalar (scan : Scanning Unit) : Scanning Unit := do
    saveKey
    allowKey false
    scan
  let quoted (single : Bool) : Scanning Unit := do
    scalar (quotedScalar single)
    withFuel skipToToken
    modify fun s => { s with adjacentAt := some s.mark.index }
  let block (literal : Bool) : Scanning Unit := do
    saveKey
    allowKey true
    blockScalar literal
  if c == '[' then flowStart .flowSequenceStart
  else if c == '\x7b' then flowStart .flowMappingStart
  else if c == ']' then flowEnd .flowSequenceEnd
  else if c == '\x7d' then flowEnd .flowMappingEnd
  else if c == ',' then flowEntry
  else if c == '-' && gap then blockEntry
  else if c == '?' && gap then explicitKey
  else if c == ':' &&
      (gap || (flow && (isFlowSign next || (← get).adjacentAt == some (← mark).index))) then
    valueMark
  else if c == '*' then anchorName .alias
  else if c == '&' then anchorName .anchor
  else if c == '!' then tag
  else if c == '|' && !flow then block true
  else if c == '>' && !flow then block false
  else if c == '\x27' then quoted true
  else if c == '"' then quoted false
  else if c == '%' || c == '@' || c.toNat == 0x60 then fail (.unexpectedCharacter c)
  else scalar plainScalar

/-- The end of the text, which counts as a line of its own. -/
def streamEnd : Scanning Unit := do
  modify fun s =>
    if s.mark.column = 0 then s
    else { s with mark := { s.mark with line := s.mark.line + 1, column := 0 } }
  if (← get).keys.any fun k => k.possible && k.required then fail .keyExpected
  modify fun s => { s with keys := s.keys.map fun k => { k with possible := false } }
  closeAll
  push .streamEnd (← mark)

/-- The next token, and those it closes or opens; says whether more can come. -/
def nextToken : Scanning Bool := do
  withFuel skipToToken
  dropStaleKeys
  closeBlocks (← column)
  lookAhead 4
  match ← peek with
  | none =>
    streamEnd
    return false
  | some c =>
    if c == '%' && (← mark).column = 0 then
      closeAll
      directive
    else if ← atIndicator '-' then documentIndicator .documentStart
    else if ← atIndicator '.' then
      documentIndicator .documentEnd
      discard (skipBlanks true)
      if !isLineEnd (← peek) then fail .textBehindDocument
    else if (← column) < (← get).indent then fail .indentation
    else signOrScalar c
    return true

/-- The tokens that no later one can change: those in front of where a key may
have begun. -/
def settled (s : Scanner) : Array (Token × Mark) :=
  let numbers := (s.keys.filter (·.possible)).map (·.number)
  s.tokens.extract 0 (numbers.foldl min s.tokens.size)

/-- All tokens up to the end of the text, or those that are settled before a
fault. -/
def tokensFrom : (fuel : Nat) → Scanner → Array (Token × Mark) × Option Fault
  | 0, s => (s.tokens, none)
  | fuel + 1, s =>
    match dropStaleKeys s with
    | .error fault => (settled s, some fault)
    | .ok ((), s) =>
      match nextToken s with
      | .error fault => (settled s, some fault)
      | .ok (true, s) => tokensFrom fuel s
      | .ok (false, s) => (s.tokens, none)

/-- The tokens of a text, and the fault behind them if there is one. A NUL ends
the text. -/
def tokens (text : String) : List (Token × Mark) × Option Fault :=
  let chars := text.toList.takeWhile (· != '\x00')
  let (ts, fault) := tokensFrom (chars.length + 1) { rest := chars }
  (ts.toList, fault)

end Yaml

end DialogueScript
