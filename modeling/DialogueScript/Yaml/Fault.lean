/-!
# Faults of YAML texts

Why a text is no YAML stream, and where.
-/

namespace DialogueScript

namespace Yaml

/-- A place in a text: how much of the text is in front of it, its line from one
on, and its column from zero on. -/
structure Mark where
  index : Nat := 0
  line : Nat := 1
  column : Nat := 0
deriving Repr, DecidableEq, Inhabited

/-- What is wrong at a place. -/
inductive Cause
  | keyWithoutColon
  | keyExpected
  | tabAsIndentation
  | textBehindDocument
  | indentation
  | unexpectedCharacter (c : Char)
  | entryInFlow
  | entryPlace
  | entryBlank
  | anchorIndentation
  | keyPlace
  | keyBlank
  | keyTab
  | valueBlank
  | valuePlace
  | valueLine
  | commentPlace
  | flowDepth
  | flowIndentation
  | flowDash
  | plainTab
  | quotedDocument
  | quotedEnd
  | quotedIndentation
  | quotedTab
  | quotedTrailing
  | unknownEscape
  | escapeDigits
  | escapeCode
  | blockIndicatorZero
  | blockHeader
  | blockTab
  | blockIndentation
  | anchorName
  | tagMark
  | tagName
  | tagEnd
  | verbatimEnd
  | tagEscape
  | tagFirstByte
  | tagFurtherByte
  | tagCodePoint
  | tagHandle
  | directiveName
  | directiveNameEnd
  | directiveEnd
  | versionDigits
  | versionLength
  | versionPoint
  | versionTwice
  | handleMark
  | handleStart
  | handleEnd
  | directivePlace
  | documentStart
  | nodeContent
  | blockMapping
  | blockSequence
  | flowMapping
  | flowSequence
  | unknownAnchor
  /-- A key that a mapping has already, as messages show it. -/
  | duplicateKey (shown : String)

/-- The message for a cause. -/
def Cause.message : Cause → String
  | .keyWithoutColon => "simple key expect ':'"
  | .keyExpected => "simple key expected"
  | .tabAsIndentation => "tabs disallowed within this context (block indentation)"
  | .textBehindDocument => "invalid content after document end marker"
  | .indentation => "invalid indentation"
  | .unexpectedCharacter c => "unexpected character: `" ++ String.singleton c ++ "'"
  | .entryInFlow => "\"-\" is only valid inside a block"
  | .entryPlace => "block sequence entries are not allowed in this context"
  | .entryBlank => "'-' must be followed by a valid YAML whitespace"
  | .anchorIndentation => "invalid indentation for anchor"
  | .keyPlace => "mapping keys are not allowed in this context"
  | .keyBlank => "expected whitespace"
  | .keyTab => "tabs disallowed in this context"
  | .valueBlank => "':' must be followed by a valid YAML whitespace"
  | .valuePlace => "mapping values are not allowed in this context"
  | .valueLine => "illegal placement of ':' indicator"
  | .commentPlace => "comments must be separated from other tokens by whitespace"
  | .flowDepth => "recursion limit exceeded"
  | .flowIndentation => "invalid indentation in flow construct"
  | .flowDash => "plain scalar cannot start with '-' followed by ,[]\x7b\x7d"
  | .plainTab => "while scanning a plain scalar, found a tab"
  | .quotedDocument => "while scanning a quoted scalar, found unexpected document indicator"
  | .quotedEnd => "while scanning a quoted scalar, found unexpected end of stream"
  | .quotedIndentation => "invalid indentation in quoted scalar"
  | .quotedTab => "tab cannot be used as indentation"
  | .quotedTrailing => "invalid trailing content after double-quoted scalar"
  | .unknownEscape => "while parsing a quoted scalar, found unknown escape character"
  | .escapeDigits => "while parsing a quoted scalar, did not find expected hexadecimal number"
  | .escapeCode => "while parsing a quoted scalar, found invalid Unicode character escape code"
  | .blockIndicatorZero =>
    "while scanning a block scalar, found an indentation indicator equal to 0"
  | .blockHeader =>
    "while scanning a block scalar, did not find expected comment or line break"
  | .blockTab => "a block scalar content cannot start with a tab"
  | .blockIndentation => "wrongly indented line in block scalar"
  | .anchorName =>
    "while scanning an anchor or alias, did not find expected alphabetic or numeric character"
  | .tagMark => "while scanning a tag, did not find expected '!'"
  | .tagName => "while parsing a tag, did not find expected tag URI"
  | .tagEnd => "while scanning a tag, did not find expected whitespace or line break"
  | .verbatimEnd => "while scanning a verbatim tag, did not find the expected '>'"
  | .tagEscape => "while parsing a tag, did not find URI escaped octet"
  | .tagFirstByte => "while parsing a tag, found an incorrect leading UTF-8 octet"
  | .tagFurtherByte => "while parsing a tag, found an incorrect trailing UTF-8 octet"
  | .tagCodePoint => "while parsing a tag, found an invalid UTF-8 codepoint"
  | .tagHandle => "the handle wasn't declared"
  | .directiveName => "while scanning a directive, could not find expected directive name"
  | .directiveNameEnd =>
    "while scanning a directive, found unexpected non-alphabetical character"
  | .directiveEnd => "while scanning a directive, did not find expected comment or line break"
  | .versionDigits => "while scanning a YAML directive, did not find expected version number"
  | .versionLength => "while scanning a YAML directive, found extremely long version number"
  | .versionPoint =>
    "while scanning a YAML directive, did not find expected digit or '.' character"
  | .versionTwice => "duplicate version directive"
  | .handleMark => "while parsing a tag directive, did not find expected '!'"
  | .handleStart => "invalid global tag character"
  | .handleEnd => "while scanning TAG, did not find expected whitespace or line break"
  | .directivePlace => "missing explicit document end marker before directive"
  | .documentStart => "did not find expected <document start>"
  | .nodeContent => "while parsing a node, did not find expected node content"
  | .blockMapping => "while parsing a block mapping, did not find expected key"
  | .blockSequence => "while parsing a block collection, did not find expected '-' indicator"
  | .flowMapping => "while parsing a flow mapping, did not find expected ',' or '\x7d'"
  | .flowSequence => "while parsing a flow sequence, expected ',' or ']'"
  | .unknownAnchor => "while parsing node, found unknown anchor"
  | .duplicateKey shown => shown ++ ": duplicated key in mapping"

/-- What is wrong, and where. -/
structure Fault where
  mark : Mark
  cause : Cause

/-- The message for a fault. Columns are shown from one on. -/
def Fault.message (f : Fault) : String :=
  f.cause.message ++ " at byte " ++ toString f.mark.index ++ " line " ++ toString f.mark.line ++
    " column " ++ toString (f.mark.column + 1)

end Yaml

end DialogueScript
