import Backtrack.ParseError
import Backtrack.Parser.Combinators
import Backtrack.Trace

/-!
# Applying parsers

A parser without handles of its own can be run on a text. Each definition may be used
within itself once more than the text has characters: where every use has less text
to read than the one around it, this is always enough.
-/

namespace Backtrack.Parser

variable {σ α : Type}

/-- How often a definition may be used within itself on the given text. -/
def depthFor (t : Text) : Nat := t.length + 1

/-- Runs the parser on the text as it is. -/
def runWith (d : Debugger σ) (p : Parser [] α) (t : Text) : Run σ (Candidates α) :=
  p.behaviour d (depthFor t) .empty t

/-- Runs the parser after the white space at the start of the text. -/
def applyWith (d : Debugger σ) (p : Parser [] α) (t : Text) : Run σ (Candidates α) := do
  fromEach (fun _ => p.behaviour d (depthFor t) .empty) (← Behaviour.blanks t)

/-- A parser is applied by running it on what is left after the white space. -/
theorem outcome_applyWith (d : Debugger σ) (p : Parser [] α) (t : Text) (state : σ) :
    (p.applyWith d t).outcome state =
      match Pattern.blanks.split t with
      | none => (.ok [], state)
      | Option.some (_, rest) => (p.behaviour d (depthFor t) .empty rest).outcome state := by
  have blanks : (Behaviour.blanks t : Run σ (Candidates Text)).outcome state =
      (.ok (Pattern.blanks.split t).toList, state) := rfl
  rw [applyWith, Run.outcome_bind_of_ok blanks]
  cases Pattern.blanks.split t with
  | none => rfl
  | some c =>
    simp only [Option.toList_some, fromEach, pure_bind, List.append_nil]
    rw [bind_pure]

def run (p : Parser [] α) (t : Text) : Except Halt (Candidates α) :=
  ((p.runWith .silent t).outcome ()).1

def apply (p : Parser [] α) (t : Text) : Except Halt (Candidates α) :=
  ((p.applyWith .silent t).outcome ()).1

/-- Applies the parser and shows the trace, unless the run is cut short. -/
def applyVerbose (p : Parser [] α) (t : Text) : Except Halt (Candidates α × String) :=
  let (result, trace) := (p.applyWith .tracer t).outcome {}
  result.map (·, trace.render)

/-- Applies the parser and accepts the text if exactly one candidate leaves nothing of it. -/
def parse (p : Parser [] α) (t : Text) : Except Halt (Except ParseError α) :=
  (p.apply t).map verdict

end Backtrack.Parser
