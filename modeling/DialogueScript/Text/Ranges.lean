/-!
# Ranges of characters

Properties of characters beyond ASCII are kept as tables of closed ranges of
code points, each table in ascending order. The tables of this library follow
Unicode 17.
-/

namespace DialogueScript

namespace Text

/-- Whether a character lies in one of several closed ranges. -/
def inRanges (ranges : List (Nat × Nat)) (c : Char) : Bool :=
  ranges.any fun r => r.1 ≤ c.toNat && c.toNat ≤ r.2

end Text

end DialogueScript
