import Backtrack.Calculator.Evaluation
import Backtrack.Calculator.Grammar
import Backtrack.Decimal.Numeral
import Backtrack.Decimal.Shortest
import Backtrack.Parser.Apply

/-!
# The calculator program

The program takes an expression from its arguments and answers with one line. If the
first argument asks for a trace, the trace of the parser comes before that line.
-/

namespace Backtrack.Calculator

/-- The parser of the program, where numbers are doubles. -/
def parser : Parser [] (Expr Float) := grammar Decimal.read

/-- What is shown if there is no expression. -/
def usage : String := "Run `cargo run --example calc -- [--trace] <expression>`"

/-- The first argument that asks for a trace. -/
def traceFlag : String := "--trace"

/-- The line for what was read. -/
def answer : Except ParseError (Expr Float) → String
  | .ok e => match e.value .double with
    | .ok x => String.ofList (Decimal.write x)
    | .error e => "Evaluation error: " ++ e.message
  | .error e => "Parse error: " ++ e.message

/-- The line for an expression. -/
def evaluate (source : Text) : Except Halt String := (parser.parse source).map answer

/-- What the program prints for its arguments. -/
def output (args : List String) : Except Halt String := do
  let traced := args.head? == some traceFlag
  let words := if traced then args.tail else args
  if words.isEmpty then return usage ++ "\n"
  let source := (" ".intercalate words).toList
  let trace ← if traced then Prod.snd <$> parser.applyVerbose source else pure ""
  return trace ++ (← evaluate source) ++ "\n"

end Backtrack.Calculator
