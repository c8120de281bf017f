import Backtrack.Calculator.Program

/-!
# Command line

Prints what the calculator answers to its arguments.
-/

open Backtrack

def main (args : List String) : IO UInt32 := do
  match Calculator.output args with
  | .ok text =>
    IO.print text
    return 0
  | .error halt =>
    IO.eprintln halt.message
    return 1
