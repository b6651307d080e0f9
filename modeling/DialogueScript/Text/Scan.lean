/-!
# Scanning texts

A scan reads something off the front of a text, or gives nothing if the text
does not start with what it looks for. Why it does not is left out: these scans
serve formats in which a text that cannot be read is refused as a whole.
-/

namespace DialogueScript

namespace Text

/-- A scan of the front of a text. -/
abbrev Scan := StateT (List Char) Option

namespace Scan

/-- Gives nothing. -/
def refuse {α : Type} : Scan α := fun _ => none

/-- The next character, left in place. -/
def peek : Scan (Option Char) := fun cs => some (cs.head?, cs)

/-- The next character. -/
def next : Scan Char
  | [] => none
  | c :: cs => some (c, cs)

/-- A character that passes a test. -/
def one (test : Char → Bool) : Scan Char := do
  let c ← next
  if test c then return c else refuse

/-- A given character. -/
def char (c : Char) : Scan Unit := do
  discard (one (· == c))

/-- Given characters one after the other. -/
def word (w : List Char) : Scan Unit := fun cs =>
  if w.isPrefixOf cs then some ((), cs.drop w.length) else none

/-- The characters that pass a test, as many as there are. -/
def many (test : Char → Bool) : Scan (List Char) := fun cs =>
  some (cs.takeWhile test, cs.dropWhile test)

/-- The first scan, or the second where the first gives nothing. -/
def orElse {α : Type} (a b : Scan α) : Scan α := fun cs =>
  match a cs with
  | some r => some r
  | none => b cs

/-- What a scan gives, if anything. -/
def attempt {α : Type} (a : Scan α) : Scan (Option α) := fun cs =>
  match a cs with
  | some (x, rest) => some (some x, rest)
  | none => some (none, cs)

/-- Runs a loop with the length of the text as fuel. -/
def withFuel {α : Type} (loop : Nat → Scan α) : Scan α := fun cs => loop (cs.length + 1) cs

end Scan

end Text

end DialogueScript
