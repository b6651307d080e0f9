import DialogueScript.Yaml.Stream
import DialogueScript.Yaml.Value
/-!
# YAML documents

The documents of a stream of tokens, and the data of a text with one document.
An alias stands for the node with its anchor. A key may be in a mapping once; a
second one counts as a fault only if there is no other.
-/

namespace DialogueScript

namespace Yaml

/-- What the reading of documents keeps in mind. -/
structure Composer where
  tokens : List (Token × Mark)
  /-- The fault behind the tokens. -/
  behind : Option Fault
  /-- What the handles of tags stand for. -/
  handles : List (String × String) := []
  /-- The anchors of the document, the last one first, with the numbers of their
  nodes. -/
  anchors : List (String × Nat) := []
  /-- The nodes with anchors. One that is not read yet is bad. -/
  nodes : Array Value := #[]
  /-- The first key that came twice. -/
  duplicate : Option Fault := none

/-- A step of reading. -/
abbrev Composing := StateT Composer (Except Fault)

namespace Composing

/-- The next token. Where there is none, the fault behind the tokens shows. -/
def peek : Composing (Token × Mark) := do
  let s ← get
  match s.tokens, s.behind with
  | t :: _, _ => return t
  | [], some fault => throw fault
  | [], none => return (.streamEnd, {})

/-- Moves on by a token. -/
def skip : Composing Unit := modify fun s => { s with tokens := s.tokens.drop 1 }

/-- Whether the next token is one of several. -/
def nextIs (ts : List Token) : Composing Bool := do return ts.contains (← peek).1

/-- A value, and the place that counts for it. -/
abbrev Placed := Value × Mark

/-- An empty value, at the next token. -/
def empty : Composing Placed := do return (.null, (← peek).2)

/-- A value, unless one of several tokens comes first. -/
def unlessAt (ts : List Token) (node : Composing Placed) : Composing Placed := do
  if ← nextIs ts then empty else node

/-- The value behind a colon, or an empty one. -/
def valueUnlessAt (ts : List Token) (node : Composing Placed) : Composing Placed := do
  if ← nextIs [.value] then
    skip
    unlessAt ts node
  else empty

/-- A mapping while it is read. -/
structure Entries where
  /-- The entries, the last one first. -/
  read : List (Value × Value) := []
  /-- The keys as messages show them. -/
  shown : List String := []
  /-- The key that waits for its value; there is none if it is bad. -/
  key : Value := .bad

/-- The mapping. -/
def Entries.mapping (m : Entries) : Value := .mapping m.read.reverse

/-- Adds a node to a mapping: a key if none waits, a value otherwise. So a bad
key is none, and what follows it counts as one. -/
def Entries.add (m : Entries) (node : Placed) : Composing Entries := do
  match m.key with
  | .bad => return { m with key := node.1 }
  | key =>
    if m.shown.contains key.shown then
      modify fun s =>
        { s with
          duplicate := s.duplicate.orElse fun _ => some ⟨node.2, .duplicateKey key.shown⟩ }
    return { read := (key, node.1) :: m.read, shown := key.shown :: m.shown }

/-! ## Collections -/

/-- The items of a block up to its end. -/
def blockItems (node : Composing Placed) : (fuel : Nat) → (read : List Value) → Composing Placed
  | 0, read => return (.sequence read.reverse, {})
  | fuel + 1, read => do
    let (token, mark) ← peek
    match token with
    | .blockEntry =>
      skip
      let (v, _) ← unlessAt [.blockEntry, .blockEnd] node
      blockItems node fuel (v :: read)
    | .blockEnd =>
      skip
      return (.sequence read.reverse, mark)
    | _ => throw ⟨mark, .blockSequence⟩

/-- The items of a list that is indented no further than the mapping it is in. -/
def looseItems (node : Composing Placed) : (fuel : Nat) → (read : List Value) → Composing Placed
  | 0, read => return (.sequence read.reverse, {})
  | fuel + 1, read => do
    let (token, mark) ← peek
    if token == .blockEntry then
      skip
      let (v, _) ← unlessAt [.blockEntry, .key, .value, .blockEnd] node
      looseItems node fuel (v :: read)
    else return (.sequence read.reverse, mark)

/-- The entries of a block up to its end. -/
def blockEntries (node : Composing Placed) : (fuel : Nat) → Entries → Composing Placed
  | 0, m => return (m.mapping, {})
  | fuel + 1, m => do
    let ends := [.key, .value, .blockEnd]
    let (token, mark) ← peek
    match token with
    | .blockEnd =>
      skip
      return (m.mapping, mark)
    | .key =>
      skip
      let m ← m.add (← unlessAt ends node)
      let m ← m.add (← valueUnlessAt ends node)
      blockEntries node fuel m
    | .value =>
      let m ← m.add (.null, mark)
      let m ← m.add (← valueUnlessAt ends node)
      blockEntries node fuel m
    | _ => throw ⟨mark, .blockMapping⟩

/-- A key with a mark of its own within a flow list, and its value, as a mapping.
A sign that stands where the key should be is passed by. -/
def markedPair (node : Composing Placed) : Composing Value := do
  let ends := [.flowEntry, .flowSequenceEnd]
  let key ← do
    if ← nextIs (.value :: ends) then
      let none_ ← empty
      skip
      pure none_
    else node
  let m ← ({} : Entries).add key
  let m ← m.add (← valueUnlessAt ends node)
  return m.mapping

/-- The items of a flow list up to its end. -/
def flowItems (node : Composing Placed) : (fuel : Nat) → (read : List Value) → Composing Placed
  | 0, read => return (.sequence read.reverse, {})
  | fuel + 1, read => do
    let (token, mark) ← peek
    if token == .flowSequenceEnd then
      skip
      return (.sequence read.reverse, mark)
    else
      if !read.isEmpty then
        if token != .flowEntry then throw ⟨mark, .flowSequence⟩
        skip
      if ← nextIs [.flowSequenceEnd] then flowItems node fuel read
      else if ← nextIs [.key] then
        skip
        let v ← markedPair node
        flowItems node fuel (v :: read)
      else
        let (v, _) ← node
        flowItems node fuel (v :: read)

/-- The value behind the key of a flow mapping. An empty one is at the colon, if
there is one. -/
def flowValue (node : Composing Placed) : Composing Placed := do
  let (token, mark) ← peek
  if token == .value then
    skip
    if ← nextIs [.flowEntry, .flowMappingEnd] then return (.null, mark) else node
  else return (.null, mark)

/-- The entries of a flow mapping up to its end. A node without the mark of a key
is a key without a value. -/
def flowEntries (node : Composing Placed) : (fuel : Nat) → (first : Bool) → Entries →
    Composing Placed
  | 0, _, m => return (m.mapping, {})
  | fuel + 1, first, m => do
    let (token, mark) ← peek
    if token == .flowMappingEnd then
      skip
      return (m.mapping, mark)
    else
      if !first then
        if token != .flowEntry then throw ⟨mark, .flowMapping⟩
        skip
      let (token, here) ← peek
      match token with
      | .flowMappingEnd =>
        skip
        return (m.mapping, mark)
      | .key =>
        skip
        let m ← m.add (← unlessAt [.value, .flowEntry, .flowMappingEnd] node)
        let m ← m.add (← flowValue node)
        flowEntries node fuel false m
      | .value =>
        let m ← m.add (.null, here)
        let m ← m.add (← flowValue node)
        flowEntries node fuel false m
      | _ =>
        let m ← m.add (← node)
        let m ← m.add (← empty)
        flowEntries node fuel false m

/-! ## Nodes -/

/-- What stands in front of a node: an anchor, by the number of its node, and a
tag. -/
structure Properties where
  anchor : Option Nat := none
  tag : Option Tag := none

/-- Notes an anchor: the number of its node. -/
def register (name : String) : Composing Nat := do
  let s ← get
  set { s with anchors := (name, s.nodes.size) :: s.anchors, nodes := s.nodes.push .bad }
  return s.nodes.size

/-- A tag with what its handle stands for. A word between two marks must be
known. -/
def resolve (mark : Mark) (t : Tag) : Composing Tag := do
  match (← get).handles.lookup t.handle with
  | some meaning => return { t with handle := meaning }
  | none =>
    if t.handle == "!!" then return { t with handle := standardHandle }
    else if isNamedHandle t.handle.toList then throw ⟨mark, .tagHandle⟩
    else return t

/-- The anchor and the tag in front of a node, in either order. -/
def properties : Composing Properties := do
  match ← peek with
  | (.anchor name, mark) =>
    skip
    let id ← register name
    match (← peek).1 with
    | .tag t =>
      skip
      return ⟨some id, some (← resolve mark t)⟩
    | _ => return ⟨some id, none⟩
  | (.tag t, mark) =>
    skip
    let t ← resolve mark t
    match (← peek).1 with
    | .anchor name =>
      skip
      return ⟨some (← register name), some t⟩
    | _ => return ⟨none, some t⟩
  | _ => return {}

/-- Notes the node of an anchor. -/
def note (p : Properties) (v : Value) : Composing Unit :=
  match p.anchor with
  | some id => modify fun s => { s with nodes := s.nodes.setIfInBounds id v }
  | none => return ()

/-- The content of a node behind its properties. In a block collections may be
blocks; a list may be indented no further than the mapping it is in if `loose`. -/
def content (p : Properties) (block loose : Bool)
    (node : (block loose : Bool) → Composing Placed) : Composing Placed := do
  let (token, mark) ← peek
  let count := (← get).tokens.length + 1
  match token with
  | .scalar plain text =>
    skip
    return (.ofScalar p.tag plain text, mark)
  | .flowSequenceStart =>
    skip
    flowItems (node false false) count []
  | .flowMappingStart =>
    skip
    flowEntries (node false false) count true {}
  | .blockEntry =>
    if loose then looseItems (node true false) count [] else empty?
  | .blockSequenceStart =>
    if block then
      skip
      blockItems (node true false) count []
    else empty?
  | .blockMappingStart =>
    if block then
      skip
      blockEntries (node true true) count {}
    else empty?
  | _ => empty?
where
  /-- An empty node, which only a property can stand in front of. -/
  empty? : Composing Placed := do
    if p.anchor.isSome || p.tag.isSome then
      return (Value.ofScalar p.tag true "", (← peek).2)
    else throw ⟨(← peek).2, .nodeContent⟩

/-- A node, in which nodes nest at most so deep. -/
def node : (depth : Nat) → (block loose : Bool) → Composing Placed
  | 0, _, _ => do throw ⟨(← peek).2, .nodeContent⟩
  | depth + 1, block, loose => do
    match ← peek with
    | (.alias name, mark) =>
      skip
      let s ← get
      match s.anchors.lookup name with
      | some id => return (s.nodes.getD id .bad, mark)
      | none => throw ⟨mark, .unknownAnchor⟩
    | _ =>
      let p ← properties
      let placed ← content p block loose (node depth)
      note p placed.1
      return placed

/-! ## Documents -/

/-- Skips tokens as long as they are the given one, at most so many. -/
def skipAll (token : Token) : (fuel : Nat) → Composing Unit
  | 0 => return ()
  | fuel + 1 => do
    if ← nextIs [token] then
      skip
      skipAll token fuel

/-- Reads the directives in front of a document: whether there are any. Each
takes the place of the one before, and a version may be given once. -/
def directives : (fuel : Nat) → (versioned found : Bool) → Composing Bool
  | 0, _, found => return found
  | fuel + 1, versioned, found => do
    match ← peek with
    | (.version, mark) =>
      if versioned then throw ⟨mark, .versionTwice⟩
      skip
      modify ({ · with handles := [] })
      directives fuel true true
    | (.handle name meaning, _) =>
      skip
      modify ({ · with handles := [(name, meaning)] })
      directives fuel versioned true
    | _ => return found

/-- Whether a token is a directive. -/
def isDirective : Token → Bool
  | .version => true
  | .handle _ _ => true
  | _ => false

/-- A document behind its directives. Handles hold for it only. -/
def document : Composing Value := do
  let count := (← get).tokens.length + 1
  modify ({ · with anchors := [] })
  let token := (← peek).1
  let (v, _) ←
    if isDirective token then empty
    else unlessAt [.documentStart, .documentEnd, .streamEnd] (node count true false)
  modify ({ · with handles := [] })
  return v

/-- The documents of a stream. The first one needs no mark in front, and one
behind the mark that ends another does not either. Directives need that mark. -/
def documents : (fuel : Nat) → (implicit : Bool) → Composing (List Value)
  | 0, _ => return []
  | fuel + 1, implicit => do
    let count := (← get).tokens.length + 1
    skipAll .documentEnd count
    if ← nextIs [.streamEnd] then return []
    else
      let directed ← directives count false false
      let (token, mark) ← peek
      if token == .documentStart then skip
      else if directed || !implicit then throw ⟨mark, .documentStart⟩
      let v ← document
      let (token, mark) ← peek
      if isDirective token then throw ⟨mark, .directivePlace⟩
      return v :: (← documents fuel (token == .documentEnd))

end Composing

/-- Why a text is not one document of data. -/
inductive Refusal
  | fault (f : Fault)
  /-- Several documents. -/
  | several (count : Nat)
  /-- A real number without digits. -/
  | real (text : String)
  /-- A key that is neither a string nor an integer. -/
  | key

/-- The message for a text that is not one document of data. -/
def Refusal.message : Refusal → String
  | .fault f => f.message
  | .several count => "Got " ++ toString count ++ " YAML documents, expected 1"
  | .real text => "Parsing " ++ text ++ " as floating point number failed"
  | .key => "internal error: entered unreachable code"

/-- A key as a string. -/
def Value.key : Value → Except Refusal String
  | .string s => .ok s
  | .integer i => .ok (toString i)
  | _ => .error .key

mutual

/-- A value as data. -/
def Value.toData : Value → Except Refusal Data
  | .null => .ok .nothing
  | .boolean b => .ok (.boolean b)
  | .integer i => .ok (.integer i)
  | .real text =>
    match Decimal.float? text.toList with
    | some x => .ok (.float x)
    | none => .error (.real text)
  | .string s => .ok (.string s)
  | .sequence items => Data.sequence <$> Value.toItems items
  | .mapping entries => Data.table <$> Value.toEntries entries
  | .bad => .ok .nothing

/-- Values as data. -/
def Value.toItems : List Value → Except Refusal (List Data)
  | [] => .ok []
  | v :: rest => do
    let d ← v.toData
    return d :: (← Value.toItems rest)

/-- Values under keys as data. -/
def Value.toEntries : List (Value × Value) → Except Refusal (List (String × Data))
  | [] => .ok []
  | (k, v) :: rest => do
    let key ← k.key
    let d ← v.toData
    return (key, d) :: (← Value.toEntries rest)

end

/-- The documents of a text. -/
def documents (text : String) : Except Fault (List Value) :=
  let (tokens, behind) := tokens text
  match Composing.documents (tokens.length + 1) true { tokens, behind } with
  | .error f => .error f
  | .ok (ds, s) =>
    match s.duplicate with
    | some f => .error f
    | none => .ok ds

/-- Reads a text with one document at most. Without one it is an empty table. -/
def read (text : String) : Except Refusal Data :=
  match documents text with
  | .error f => .error (.fault f)
  | .ok [] => .ok (.table [])
  | .ok [v] => v.toData
  | .ok ds => .error (.several ds.length)

end Yaml

end DialogueScript
