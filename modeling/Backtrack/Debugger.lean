import Backtrack.Run

/-!
# Debuggers

A debugger is told when a marked parser starts to read and when it ends. Parsers
without a mark are not reported.
-/

namespace Backtrack

/-- A place in a source file. -/
structure Site where
  file : String
  line : Nat
  deriving DecidableEq, Repr

/-- What is known of a marked parser: its label, and where it was marked. -/
structure Mark where
  label : String
  site : Site
  deriving DecidableEq, Repr

/-- What is done when a marked parser starts to read a text, and when it ends with a number of
candidates. -/
structure Debugger (σ : Type) where
  enter : Mark → Text → Run σ Unit
  leave : Mark → Nat → Run σ Unit

/-- A call of a debugger. -/
inductive Event
  | enter (mark : Mark) (input : Text)
  | leave (mark : Mark) (candidates : Nat)
  deriving DecidableEq, Repr

/-- The events so far, in order. -/
abbrev Log := Array Event

namespace Debugger

/-- Keeps nothing. -/
def silent : Debugger Unit where
  enter _ _ := pure ()
  leave _ _ := pure ()

/-- Keeps every event. -/
def recorder : Debugger Log where
  enter mark input := .update (·.push (.enter mark input))
  leave mark candidates := .update (·.push (.leave mark candidates))

end Debugger

end Backtrack
