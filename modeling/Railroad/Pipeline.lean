import Railroad.Node.Parser
import Railroad.Visual.Layout

/-!
# From a pattern to its diagram

A pattern is first put to a check that decides whether it may be drawn at all, then parsed, then laid
out. Whatever goes wrong becomes a message in place of the diagram.
-/

namespace Railroad

/-- A check of patterns: a pattern passes, or is refused with a message. -/
abbrev Validator := String → Except String Unit

namespace Validator

/-- The check that every pattern passes. -/
def accept : Validator := fun _ => .ok ()

/-- The check that refuses every pattern with one message. -/
def reject (message : String) : Validator := fun _ => .error message

end Validator

/-- Why a pattern is not drawn. -/
inductive AnalysisError where
  /-- The check refused it with this message. -/
  | rejected (message : String)
  /-- It has no tree. -/
  | pattern (error : PatternError)
  deriving DecidableEq, Repr

/-- The wording of the error. -/
def AnalysisError.message : AnalysisError → String
  | rejected message => message
  | pattern e => e.message

/-- The tree of a pattern that passes a check. -/
def analyze (validator : Validator) (pattern : String) : Except AnalysisError Node :=
  match validator pattern with
  | .error message => .error (.rejected message)
  | .ok _ =>
    match Node.ofPattern pattern with
    | .error e => .error (.pattern e)
    | .ok node => .ok node

/-- What is shown for a pattern. -/
inductive Visualization (α : Type) where
  /-- A hint, as long as there is no pattern. -/
  | placeholder (text : String)
  /-- A message, for a pattern that cannot be drawn. -/
  | failed (message : String)
  /-- The diagram. -/
  | diagram (diagram : Diagram α)

/-- The hint for an empty pattern. -/
def placeholderText : String := "Enter a regular expression to see its diagram."

/-- What is shown for a pattern under a check, at a zoom in percent. -/
def visualize {α : Type} [Scalar α] (validator : Validator) (pattern : String) (scale : Nat) :
    Visualization α :=
  if pattern.isEmpty then .placeholder placeholderText
  else match analyze validator pattern with
    | .ok node => .diagram (.ofNode node scale)
    | .error e => .failed e.message

end Railroad
