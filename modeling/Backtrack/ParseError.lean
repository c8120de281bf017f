import Backtrack.Run
import Backtrack.Text.Quoted

/-!
# Parse errors

A text is accepted if exactly one candidate leaves nothing of it. This module says
why a text is not accepted, and in which words.
-/

namespace Backtrack

/-- Why a text was not accepted. -/
inductive ParseError
  /-- There is no candidate. -/
  | noMatch
  /-- Every candidate leaves some text; the shortest that is left. -/
  | incomplete (remaining : Text)
  /-- Several candidates leave nothing. -/
  | ambiguous (candidates : Nat)
  deriving DecidableEq, Repr

namespace ParseError

/-- How many characters of the remaining text a message shows. -/
def previewLength : Nat := 16

/-- What is wrong, in one line. -/
def message : ParseError → String
  | noMatch => "input did not match"
  | incomplete remaining =>
    let preview := remaining.take previewLength
    "unexpected trailing input " ++ String.ofList (quote preview) ++
      if byteLength preview < byteLength remaining then "..." else ""
  | ambiguous candidates => "ambiguous input: " ++ toString candidates ++ " complete parses"

/-- The error as it is written in a program, on one line. -/
def describe : ParseError → String
  | noMatch => "NoMatch"
  | incomplete remaining =>
    "Incomplete \x7b remaining: " ++ String.ofList (quote remaining) ++ " \x7d"
  | ambiguous candidates => "Ambiguous \x7b candidates: " ++ toString candidates ++ " \x7d"

end ParseError

/-- What was seen of the candidates: the results that leave nothing, latest first, and the shortest
text that another candidate leaves. -/
structure Tally (α : Type) where
  complete : List α := []
  shortest : Option Text := none

/-- Takes one more candidate into account. Of two texts that are equally short the first one is
kept. -/
def Tally.add {α : Type} (tally : Tally α) (candidate : α × Text) : Tally α :=
  if candidate.2.isEmpty then { tally with complete := candidate.1 :: tally.complete }
  else if tally.shortest.all fun t => byteLength candidate.2 < byteLength t then
    { tally with shortest := some candidate.2 }
  else tally

/-- The result of the only candidate that leaves nothing. -/
def verdict {α : Type} (candidates : Candidates α) : Except ParseError α :=
  let tally := candidates.foldl Tally.add {}
  match tally.complete, tally.shortest with
  | [a], _ => .ok a
  | _ :: _ :: _, _ => .error (.ambiguous tally.complete.length)
  | [], some remaining => .error (.incomplete remaining)
  | [], none => .error .noMatch

end Backtrack
