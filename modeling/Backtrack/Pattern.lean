import Backtrack.Pattern.Footprint
import Backtrack.Pattern.Reader
import Backtrack.Pattern.Search
import Backtrack.Text.Quoted

/-!
# Patterns

A pattern is a regular expression that is ready to be matched. Matching starts at the
start of the text, which is all that the pattern sees, and takes the preferred match.
-/

namespace Backtrack

/-- A regular expression with its plan. -/
structure Pattern where
  expr : Pattern.Expr
  plan : Pattern.Plan := expr.plan 0
  plan_eq : plan = expr.plan 0 := by rfl

/-- Why a text is no pattern. -/
inductive PatternError
  /-- The text does not follow the syntax of expressions. -/
  | malformed (source : Text)
  /-- The automaton of the expression would be too large. -/
  | tooLarge (source : Text)
  deriving DecidableEq, Repr

namespace PatternError

/-- The text that is no pattern. -/
def source : PatternError → Text
  | malformed t => t
  | tooLarge t => t

/-- What is wrong with the text. -/
def reason : PatternError → String
  | malformed _ => "error parsing pattern 0"
  | tooLarge _ => "error building NFA"

def message (e : PatternError) : String :=
  "invalid pattern " ++ String.ofList (quote e.source) ++ ": " ++ e.reason

end PatternError

namespace Pattern

/-- The pattern that a text spells. -/
def ofText? (t : Text) : Except PatternError Pattern :=
  match Expr.read? t with
  | none => .error (.malformed t)
  | some expr => if expr.isSmall then .ok { expr } else .error (.tooLarge t)

/-- The start of the text that the pattern matches, and the text after it. -/
def split (p : Pattern) (t : Text) : Option (Text × Text) := p.plan.split t

/-- Any amount of white space, and as much as there is: the pattern `\s*`. -/
def blanks : Pattern := { expr := .repetition 0 none true (.set Unicode.blanks) }

end Pattern

end Backtrack
