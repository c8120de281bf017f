import Backtrack.Text.Quoted

/-!
# Faults

A fault ends a run at once. It is no failure to match: that is a run without
candidates. Functions that are given to a parser can raise a fault, and so can a
recursive parser that is used where it has no definition.
-/

namespace Backtrack

/-- Why a run was cut short. -/
inductive Fault
  /-- Raised, with a message, by a function that was given to a parser. -/
  | raised (message : String)
  /-- A recursive parser was run before its definition was complete. -/
  | undefined
  /-- A recursive parser was run after its definition was dropped. -/
  | dropped
  /-- A scope was left that is not the innermost open one. -/
  | scopeMismatch (left innermost : String)
  deriving DecidableEq, Repr

/-- What went wrong, in one line. -/
def Fault.message : Fault → String
  | raised message => message
  | undefined => "Recursive parser used prior to construction"
  | dropped => "Recursive parser used after its definition was dropped"
  | scopeMismatch left innermost =>
    "exited " ++ String.ofList (quote left.toList) ++ " while " ++
      String.ofList (quote innermost.toList) ++ " was the innermost open scope"

/-- The value of a function that may raise a fault. -/
abbrev Attempt.{u} (α : Type u) := Except Fault α

end Backtrack
