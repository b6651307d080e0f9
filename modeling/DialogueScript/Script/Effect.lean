import DialogueScript.Script.Instruction
import DialogueScript.Script.Eval
/-!
# Effects

What an instruction does to the scope when a run comes upon it: dialogue is
appended, an expression is evaluated for its assignments, and nothing else has
an effect.
-/

namespace DialogueScript

namespace Instruction

/-- Applies an instruction to a scope. The scope of a failure holds what was
done before it. -/
def apply : Instruction → Scope → Except EvalError Unit × Scope
  | .dialog text, s => (.ok (), s.say text)
  | .expression e, s =>
    match e.eval s with
    | (.ok _, s) => (.ok (), s)
    | (.error err, s) => (.error err, s)
  | _, s => (.ok (), s)

end Instruction

end DialogueScript
