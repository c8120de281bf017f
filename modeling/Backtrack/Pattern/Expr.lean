import Backtrack.CharSet
import Backtrack.Text.Basic
import Backtrack.Unicode.WordCharacter

/-!
# Regular expressions

What an expression matches, once its flags are resolved: character sets, conditions
on the place between two characters, and the ways to combine expressions. The
first of two alternatives is preferred, and a repetition prefers more rounds if it is
greedy and fewer if it is not.
-/

namespace Backtrack.Pattern

/-- A place in a text: the character before it, if any, the text after it, and how
many characters are before it. -/
structure Place where
  previous : Option Char
  rest : Text
  offset : Nat

/-- The place at the start of a text. -/
def Place.start (t : Text) : Place := ⟨none, t, 0⟩

/-- A condition on a place. -/
inductive Look
  | textStart
  | textEnd
  | lineStart
  | lineEnd
  /-- As `lineStart`, where a line may end in a carriage return too, and the two
  characters of a line break are not divided. -/
  | lineStartCRLF
  | lineEndCRLF
  | wordBoundary
  | notWordBoundary
  | asciiWordBoundary
  | notAsciiWordBoundary
  deriving DecidableEq, Repr

/-- Exactly one of the two neighbours of the place is in the class. -/
def Place.isEdge (p : Place) (inClass : Char → Bool) : Bool :=
  (p.previous.any inClass) != (p.rest.head?.any inClass)

def Look.holds (p : Place) : Look → Bool
  | textStart => p.previous.isNone
  | textEnd => p.rest.isEmpty
  | lineStart => p.previous.all (· == '\n')
  | lineEnd => p.rest.head?.all (· == '\n')
  | lineStartCRLF =>
    p.previous.all fun c => c == '\n' || (c == '\r' && p.rest.head?.all (· != '\n'))
  | lineEndCRLF =>
    p.rest.head?.all fun c => c == '\r' || (c == '\n' && p.previous.all (· != '\r'))
  | wordBoundary => p.isEdge Unicode.isWordCharacter
  | notWordBoundary => !p.isEdge Unicode.isWordCharacter
  | asciiWordBoundary => p.isEdge Unicode.isAsciiWordCharacter
  | notAsciiWordBoundary => !p.isEdge Unicode.isAsciiWordCharacter

inductive Expr
  /-- Matches the empty text. -/
  | empty
  /-- Matches one character of the set. -/
  | set (members : CharSet)
  | look (condition : Look)
  /-- An expression in parentheses, which may be numbered. It matches what its content matches. -/
  | group (numbered : Bool) (content : Expr)
  | concat (first second : Expr)
  | alternate (first second : Expr)
  /-- At least `min` and at most `max` rounds, without limit if there is no `max`. -/
  | repetition (min : Nat) (max : Option Nat) (greedy : Bool) (round : Expr)
  deriving Repr, Inhabited

namespace Expr

def concatAll : List Expr → Expr
  | [] => empty
  | [e] => e
  | e :: rest => concat e (concatAll rest)

def alternateAll : List Expr → Expr
  | [] => empty
  | [e] => e
  | e :: rest => alternate e (alternateAll rest)

/-- Whether the form of the expression shows that it matches no text but the empty one. -/
def matchesOnlyEmpty : Expr → Bool
  | empty | look _ => true
  | set _ => false
  | group _ e => e.matchesOnlyEmpty
  | concat a b | alternate a b => a.matchesOnlyEmpty && b.matchesOnlyEmpty
  | repetition _ max _ e => max == some 0 || e.matchesOnlyEmpty

/-- A repetition with the given bounds. If every round matches the empty text, then one round does
what many do, and no more than one is kept. -/
def repeated (min : Nat) (max : Option Nat) (greedy : Bool) (round : Expr) : Expr :=
  if round.matchesOnlyEmpty then
    repetition (Nat.min min 1) (some (Nat.min (max.getD 1) 1)) greedy round
  else repetition min max greedy round

/-- Matches exactly the given text. -/
def literal (t : Text) : Expr := concatAll (t.map fun c => set (.single c))

end Expr

end Backtrack.Pattern
