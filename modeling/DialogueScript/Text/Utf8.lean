/-!
# UTF-8

Bytes as characters. Bytes that are no UTF-8 are kept apart as malformed
pieces, each as long as it could still have become a character, so a reader can
refuse them or put a mark in their place.
-/

namespace DialogueScript

namespace Text

/-- A character that has begun: its bits so far, how many bytes are owed, and
the range of the next one. -/
structure Begun where
  bits : Nat
  owed : Nat
  low : Nat := 0x80
  high : Nat := 0xbf

/-- What a byte between two characters starts: a character of its own, a longer
one, or nothing. -/
inductive Opening
  | whole (c : Char)
  | begun (b : Begun)
  | malformed

/-- What a byte between two characters starts. -/
def Opening.of (b : Nat) : Opening :=
  if b < 0x80 then .whole (Char.ofNat b)
  else if 0xc2 ≤ b ∧ b ≤ 0xdf then .begun { bits := b - 0xc0, owed := 1 }
  else if b = 0xe0 then .begun { bits := 0, owed := 2, low := 0xa0 }
  else if b = 0xed then .begun { bits := 0xd, owed := 2, high := 0x9f }
  else if 0xe1 ≤ b ∧ b ≤ 0xef then .begun { bits := b - 0xe0, owed := 2 }
  else if b = 0xf0 then .begun { bits := 0, owed := 3, low := 0x90 }
  else if b = 0xf4 then .begun { bits := 4, owed := 3, high := 0x8f }
  else if 0xf1 ≤ b ∧ b ≤ 0xf3 then .begun { bits := b - 0xf0, owed := 3 }
  else .malformed

/-- The characters of bytes; a malformed piece gives nothing in its place. -/
def pieces : Option Begun → List UInt8 → List (Option Char)
  | none, [] => []
  | some _, [] => [none]
  | none, b :: bs =>
    match Opening.of b.toNat with
    | .whole c => some c :: pieces none bs
    | .begun p => pieces (some p) bs
    | .malformed => none :: pieces none bs
  | some p, b :: bs =>
    let bits := p.bits * 0x40 + (b.toNat - 0x80)
    if p.low ≤ b.toNat ∧ b.toNat ≤ p.high then
      if p.owed = 1 then some (Char.ofNat bits) :: pieces none bs
      else pieces (some { bits, owed := p.owed - 1 }) bs
    else
      none ::
        match Opening.of b.toNat with
        | .whole c => some c :: pieces none bs
        | .begun p => pieces (some p) bs
        | .malformed => none :: pieces none bs

/-- The text of bytes, if they are UTF-8. -/
def decode? (bytes : List UInt8) : Option String :=
  (pieces none bytes).mapM id |>.map String.ofList

/-- The text of bytes, with a mark for each malformed piece. -/
def decodeMarked (bytes : List UInt8) : String :=
  String.ofList ((pieces none bytes).map fun c => c.getD (Char.ofNat 0xfffd))

end Text

end DialogueScript
