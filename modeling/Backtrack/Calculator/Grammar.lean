import Backtrack.Calculator.Expr
import Backtrack.Parser.Combinators

/-!
# The grammar of the calculator

A text is any number of bindings and then a sum. The operators of a sum and of a
product are taken from the left; a sign comes before an atom or another sign. White
space may follow every token. Two parsers are marked, `decl` and `atom`.

The parsers take a function `number` that gives each numeral its value.
-/

open Backtrack.Parser

namespace Backtrack.Calculator

/-- The file that the marks name. -/
def sourceFile : String := "demos/calc.rs"

def declMark : Mark := ⟨"decl", ⟨sourceFile, 75⟩⟩

def atomMark : Mark := ⟨"atom", ⟨sourceFile, 44⟩⟩

namespace Lexeme

def digit : CharSet := .range '0'.toNat '9'.toNat

def nameStart : CharSet :=
  ⟨[⟨'A'.toNat, 'Z'.toNat⟩, ⟨'_'.toNat, '_'.toNat⟩, ⟨'a'.toNat, 'z'.toNat⟩]⟩

def nameRest : CharSet := ⟨digit.ranges ++ nameStart.ranges⟩

def digits : Pattern.Expr := .repetition 1 none true (.set digit)

/-- The pattern `[0-9]+(\.[0-9]+)?`. -/
def numeral : Pattern where
  expr := .concat digits (.repetition 0 (some 1) true
    (.group true (.concat (.set (.single '.')) digits)))

/-- The pattern `[a-zA-Z_][a-zA-Z0-9_]*`. -/
def name : Pattern where
  expr := .concat (.set nameStart) (.repetition 0 none true (.set nameRest))

/-- The pattern `let\b`. -/
def letWord : Pattern where
  expr := .concat (.literal "let".toList) (.look .wordBoundary)

end Lexeme

variable {ν : Type} {Γ : Scopes}

/-- A name that is not the word `let`. -/
def identifier : Parser Γ Text :=
  ((pattern Lexeme.name).filter (· != "let".toList)).token

def numeral (number : Text → ν) : Parser Γ (Expr ν) :=
  ((pattern Lexeme.numeral).map fun t => .number (number t)).token

/-- A symbol for an operator, with the function that joins its operands. -/
def operator (symbolText : String) (op : Operator) :
    Parser Γ (Expr ν → Expr ν → Attempt (Expr ν)) :=
  (symbol symbolText.toList).replace fun left right => .ok (.binary op left right)

/-- A numeral, a sum in parentheses or a name. -/
def atom (number : Text → ν) (sum : Parser Γ (Expr ν)) : Parser Γ (Expr ν) :=
  debug atomMark
    (((numeral number).orElse
      (sum.delimitedBy (symbol "(".toList) (symbol ")".toList))).orElse
      (identifier.map .name))

/-- An atom after any number of signs. -/
def unary (number : Text → ν) (sum : Handle Γ (Expr ν)) : Parser Γ (Expr ν) :=
  recursive
    ((((symbol "-".toList).ignoreThen self).map .negate).orElse
      (atom number (handle (.outer sum))))

def product (number : Text → ν) (sum : Handle Γ (Expr ν)) : Parser Γ (Expr ν) :=
  (unary number sum).chain ((operator "*" .multiply).union (operator "/" .divide))

def sum (number : Text → ν) : Parser Γ (Expr ν) :=
  recursive
    ((product number .here).chain ((operator "+" .add).union (operator "-" .subtract)))

/-- The word `let`, a name, a sum and what the name is used in, with `=` and `;` between. -/
def binding (number : Text → ν) (body : Parser Γ (Expr ν)) : Parser Γ (Expr ν) :=
  ((((((pattern Lexeme.letWord).token.ignoreThen identifier).thenIgnore
    (symbol "=".toList)).then (sum number)).thenIgnore (symbol ";".toList)).then body).map
      fun ((x, bound), body) => .binding x bound body

/-- Bindings and then a sum. -/
def grammar (number : Text → ν) : Parser Γ (Expr ν) :=
  recursive (debug declMark ((binding number self).orElse (sum number)))

end Backtrack.Calculator
