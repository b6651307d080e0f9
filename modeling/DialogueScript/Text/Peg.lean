/-!
# Grammars that report what they expected

A scan of a text by rules with names. Where a scan fails, it is known which
rules were tried in vain at the place furthest into the text, and that is what
a message can say was expected. A rule that fails stands for the rules tried
within it from the same place, unless that was only one.
-/

namespace DialogueScript

namespace Text

/-- A place in a text: how many characters are in front of it, and the rest. -/
structure Place where
  position : Nat
  rest : List Char

/-- The furthest place at which rules were tried in vain, and those rules. -/
structure Trace (ρ : Type) where
  furthest : Nat := 0
  expected : List ρ := []

namespace Trace

variable {ρ : Type}

/-- How many rules were tried in vain at a position, if it is the furthest. -/
def countAt (t : Trace ρ) (position : Nat) : Nat :=
  if t.furthest = position then t.expected.length else 0

/-- Records that a rule failed at a position at which `before` rules had been
tried in vain when it began. -/
def record (t : Trace ρ) (rule : ρ) (position before : Nat) : Trace ρ :=
  if t.countAt position = before + 1 then t
  else if position = t.furthest then { t with expected := t.expected.take before ++ [rule] }
  else if t.furthest < position then ⟨position, [rule]⟩
  else t

end Trace

/-- A scan by named rules. If it fails the place is the one it began at, but
the trace is kept. -/
abbrev Peg (ρ : Type) := StateT Place (OptionT (StateM (Trace ρ)))

namespace Peg

variable {ρ α : Type}

/-- Fails. -/
def refuse : Peg ρ α := fun _ t => (none, t)

/-- The rest of the text, left in place. -/
def rest : Peg ρ (List Char) := fun p t => (some (p.rest, p), t)

/-- The next characters, as many as pass a test. -/
def many (test : Char → Bool) : Peg ρ (List Char) := fun p t =>
  let taken := p.rest.takeWhile test
  (some (taken, ⟨p.position + taken.length, p.rest.drop taken.length⟩), t)

/-- The next so many characters. -/
def take (count : Nat) : Peg ρ (List Char) := fun p t =>
  let taken := p.rest.take count
  if taken.length = count then (some (taken, ⟨p.position + count, p.rest.drop count⟩), t)
  else (none, t)

/-- A character that passes a test. -/
def one (test : Char → Bool) : Peg ρ Char := fun p t =>
  match p.rest with
  | c :: cs => if test c then (some (c, ⟨p.position + 1, cs⟩), t) else (none, t)
  | [] => (none, t)

/-- Given characters one after the other. -/
def word (w : String) : Peg ρ Unit := do
  if (← take w.length) == w.toList then return () else refuse

/-- The first scan, or the second where the first fails. -/
def orElse (a b : Peg ρ α) : Peg ρ α := fun p t =>
  match a p t with
  | (some r, t) => (some r, t)
  | (none, t) => b p t

/-- What a scan gives, if anything. -/
def attempt (a : Peg ρ α) : Peg ρ (Option α) := orElse (some <$> a) (pure none)

/-- A scan as often as it succeeds, at most so many times. -/
def repeatedLoop (a : Peg ρ α) : (fuel : Nat) → Peg ρ (List α)
  | 0 => pure []
  | fuel + 1 => do
    match ← attempt a with
    | some x => return x :: (← repeatedLoop a fuel)
    | none => return []

/-- A scan as often as it succeeds. It is tried once more at the end of the text,
so that it can be known as what was expected there. -/
def repeated (a : Peg ρ α) : Peg ρ (List α) := do
  repeatedLoop a ((← rest).length + 1)

/-- A scan as the rule of a name. -/
def rule (name : ρ) (a : Peg ρ α) : Peg ρ α := fun p t =>
  match a p t with
  | (some r, t') => (some r, t')
  | (none, t') => (none, t'.record name p.position (t.countAt p.position))

/-- The end of the text. -/
def eof : Peg ρ Unit := fun p t =>
  match p.rest with
  | [] => (some ((), p), t)
  | _ :: _ => (none, t)

end Peg

end Text

end DialogueScript
