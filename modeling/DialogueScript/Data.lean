/-!
# Data

What a text in one of several formats holds: a tree of tables and lists with
plain values at its leaves. Keys stand in the order of the text, and one may
stand there more than once.
-/

namespace DialogueScript

/-- A piece of data. -/
inductive Data
  | nothing
  | boolean (b : Bool)
  | integer (i : Int)
  | float (x : Float)
  | string (s : String)
  | sequence (items : List Data)
  | table (entries : List (String × Data))
deriving Inhabited

namespace Data

/-- Whether an integer fits sixty-four bits with a sign. -/
def fits (i : Int) : Bool :=
  decide (-9223372036854775808 ≤ i) && decide (i ≤ 9223372036854775807)

end Data

end DialogueScript
