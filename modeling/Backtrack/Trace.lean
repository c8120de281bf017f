import Backtrack.Debugger
import Backtrack.Text.Quoted

/-!
# Traces

A trace is the state of a debugger that records everything as a forest of scopes:
those that have ended, and those that are still open, each inside the one before.
It is shown with one line for each scope.
-/

namespace Backtrack

/-- One run of a marked parser: its input, how many candidates it had if it has ended, and
the marked parsers that ran meanwhile. -/
structure Scope where
  mark : Mark
  input : Text
  candidates : Option Nat
  children : List Scope
  deriving Repr

/-- The scopes that have ended and are in no other, and the open ones, innermost first. -/
structure Trace where
  roots : List Scope := []
  opened : List Scope := []
  deriving Repr

namespace Trace

def enter (t : Trace) (mark : Mark) (input : Text) : Trace :=
  { t with opened := ⟨mark, input, none, []⟩ :: t.opened }

/-- Puts a scope inside the innermost open one, or among the roots. -/
def place (t : Trace) (s : Scope) : Trace :=
  match t.opened with
  | [] => { t with roots := t.roots ++ [s] }
  | parent :: outer =>
    { t with opened := { parent with children := parent.children ++ [s] } :: outer }

/-- Ends the innermost open scope, which must have the given mark: otherwise it is lost, and the
mismatch is a fault. Without an open scope nothing happens. -/
def leave (t : Trace) (mark : Mark) (candidates : Nat) : Attempt Unit × Trace :=
  match t.opened with
  | [] => (.ok (), t)
  | s :: outer =>
    let rest := { t with opened := outer }
    if s.mark = mark then (.ok (), rest.place { s with candidates := some candidates })
    else (.error (.scopeMismatch mark.label s.mark.label), rest)

end Trace

/-- Records a trace. -/
def Debugger.tracer : Debugger Trace where
  enter mark input := .update (·.enter mark input)
  leave mark candidates := do
    let (ended, t) := (← get).leave mark candidates
    set t
    Run.attempt ended

/-- The line of a scope, indented by four spaces for each level. -/
def Scope.line (depth : Nat) (s : Scope) : String :=
  let result := match s.candidates with
    | some n => toString n ++ " candidate(s)"
    | none => "unfinished"
  String.ofList (List.replicate (4 * depth) ' ') ++ "Entered " ++ s.mark.label ++ " at line " ++
    toString s.mark.site.line ++ " in " ++ s.mark.site.file ++ " on " ++
    String.ofList (quote s.input) ++ " -> " ++ result ++ "\n"

mutual
/-- The line of a scope, then those of its children one level deeper. -/
def Scope.render (depth : Nat) : Scope → String
  | ⟨mark, input, candidates, children⟩ =>
    Scope.line depth ⟨mark, input, candidates, children⟩ ++ Scope.renderAll (depth + 1) children

def Scope.renderAll (depth : Nat) : List Scope → String
  | [] => ""
  | s :: rest => s.render depth ++ Scope.renderAll depth rest
end

/-- The lines of all roots, then of all open scopes, outermost first. -/
def Trace.render (t : Trace) : String := Scope.renderAll 0 (t.roots ++ t.opened.reverse)

end Backtrack
