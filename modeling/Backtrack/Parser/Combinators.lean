import Backtrack.Parser.Basic

/-!
# Combinators

Parsers that are made of others, and the forms for functions that raise no fault.
-/

namespace Backtrack.Parser

variable {Γ : Scopes} {α β γ : Type}

/-- The parser that an attempt to build it gives. A fault is raised when it is run. -/
def ofAttempt : Attempt (Parser Γ α) → Parser Γ α
  | .ok p => p
  | .error f => raise f

/-- Applies a function to each result. -/
def map (p : Parser Γ α) (f : α → β) : Parser Γ β := p.tryMap fun a => .ok (f a)

/-- The candidates whose result passes the test. -/
def filter (p : Parser Γ α) (keep : α → Bool) : Parser Γ α := p.tryFilter fun a => .ok (keep a)

/-- Reads one character that passes the test. -/
def satisfy (keep : Char → Bool) : Parser Γ Char := item.filter keep

/-- Reads one of the given characters. -/
def oneOf (chars : Text) : Parser Γ Char := satisfy fun c => chars.contains c

/-- Reads any amount of white space, also none. -/
def blanks : Parser Γ Text := pattern .blanks

/-- Reads exactly the given text, and drops the white space after it. -/
def symbol (text : Text) : Parser Γ Text := (literal text).token

/-- As `chain`, with a result for texts that start with no term. -/
def chainSeeded (term : Parser Γ α) (operator : Parser Γ (α → α → Attempt α)) (seed : α) :
    Parser Γ α :=
  (term.chain operator).committed (pure seed)

/-- The first parser and then the second, with the result of the second. -/
def ignoreThen (p : Parser Γ α) (q : Parser Γ β) : Parser Γ β := p.bind fun _ => q

/-- The first parser and then the second, with the result of the first. -/
def thenIgnore (p : Parser Γ α) (q : Parser Γ β) : Parser Γ α := (p.then q).map Prod.fst

/-- The parser between two others, with its result. -/
def delimitedBy (p : Parser Γ α) (left : Parser Γ β) (right : Parser Γ γ) : Parser Γ α :=
  (left.ignoreThen p).thenIgnore right

/-- Replaces each result. -/
def replace (p : Parser Γ α) (value : β) : Parser Γ β := p.map fun _ => value

/-- Forgets each result. -/
def ignored (p : Parser Γ α) : Parser Γ Unit := p.replace ()

/-- Makes something of each list of items. -/
def collect (p : Parser Γ (List α)) (f : List α → β) : Parser Γ β := p.map f

/-- A definition that may use a handle for itself. -/
def recursive (definition : Parser (α :: Γ) α) : Parser Γ α :=
  define .alive definition definition

/-- The handle of the innermost definition. -/
def self : Parser (α :: Γ) α := handle .here

/-- The line for a parser in a report. It shows nothing of what the parser is made of. -/
def describe (_ : Parser Γ α) : String := "Parser \x7b .. \x7d"

end Backtrack.Parser
