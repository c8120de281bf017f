import Backtrack.Behaviour
import Backtrack.Text.Grapheme

/-!
# Parsers

A parser is a value that describes how to read the start of a text. Definitions that
refer to themselves do so by a handle: a parser has a scope, the list of the result
types of the definitions around it, and a handle is a position in that list.

`Parser.behaviour` says what a parser does. A handle is answered from a store that has
a cell for each definition of the scope: the definition may be complete, still under
construction, or dropped. How often a definition may be used within itself is bounded.
-/

namespace Backtrack

/-- The result types of the definitions that a parser can refer to, innermost first. -/
abbrev Scopes := List Type

/-- A reference to a definition of the scope, by its position. -/
inductive Handle : Scopes → Type → Type 1
  | here {Γ : Scopes} {α : Type} : Handle (α :: Γ) α
  | outer {Γ : Scopes} {α β : Type} (h : Handle Γ α) : Handle (β :: Γ) α

/-- How far a definition has come when it is used. -/
inductive Lifetime
  | underConstruction
  | alive
  | dropped
  deriving DecidableEq, Repr

/-- A parser with results in the second index, which may use the handles of its scope. -/
inductive Parser : Scopes → Type → Type 1
  /-- Reads nothing. -/
  | pure {Γ : Scopes} {α : Type} (value : α) : Parser Γ α
  /-- Never matches. -/
  | empty {Γ : Scopes} {α : Type} : Parser Γ α
  /-- Ends the run with a fault. -/
  | raise {Γ : Scopes} {α : Type} (f : Fault) : Parser Γ α
  /-- Matches at the end of the text. -/
  | endOfText {Γ : Scopes} : Parser Γ Unit
  /-- Reads any one character. -/
  | item {Γ : Scopes} : Parser Γ Char
  /-- Reads any one grapheme cluster. -/
  | grapheme {Γ : Scopes} : Parser Γ Text
  /-- Reads exactly the given text. -/
  | literal {Γ : Scopes} (text : Text) : Parser Γ Text
  /-- Reads what the pattern matches. -/
  | pattern {Γ : Scopes} (p : Pattern) : Parser Γ Text
  /-- Has the candidates that the function gives, which must leave suffixes of the text. -/
  | custom {Γ : Scopes} {α : Type} (candidates : Text → Attempt (Candidates α)) : Parser Γ α
  /-- Applies a function to each result. -/
  | tryMap {Γ : Scopes} {α β : Type} (p : Parser Γ α) (f : α → Attempt β) : Parser Γ β
  /-- Goes on with a parser that depends on the result. -/
  | bind {Γ : Scopes} {α β : Type} (p : Parser Γ α) (next : α → Parser Γ β) : Parser Γ β
  /-- The candidates of both parsers, those of the first one first. -/
  | union {Γ : Scopes} {α : Type} (p q : Parser Γ α) : Parser Γ α
  /-- The first candidate of the first parser that has one. The second is not run if the first
  has a candidate. -/
  | committed {Γ : Scopes} {α : Type} (p q : Parser Γ α) : Parser Γ α
  /-- The candidates of the first parser that has any. -/
  | orElse {Γ : Scopes} {α : Type} (p q : Parser Γ α) : Parser Γ α
  /-- The candidates whose result passes the test. -/
  | tryFilter {Γ : Scopes} {α : Type} (p : Parser Γ α) (keep : α → Attempt Bool) : Parser Γ α
  /-- Each candidate of the parser, then the one that reads nothing. -/
  | optional {Γ : Scopes} {α : Type} (p : Parser Γ α) : Parser Γ (Option α)
  /-- As many rounds as possible, each with the first candidate. -/
  | many {Γ : Scopes} {α : Type} (p : Parser Γ α) : Parser Γ (List α)
  /-- Each candidate of the parser, then as many further rounds as possible. -/
  | some {Γ : Scopes} {α : Type} (p : Parser Γ α) : Parser Γ (List α)
  /-- As `some`, where a separator is read before each further round. -/
  | separatedByAtLeastOne {Γ : Scopes} {α β : Type} (p : Parser Γ α) (separator : Parser Γ β) :
    Parser Γ (List α)
  /-- The first candidate of `separatedByAtLeastOne`, or the empty list. -/
  | separatedBy {Γ : Scopes} {α β : Type} (p : Parser Γ α) (separator : Parser Γ β) :
    Parser Γ (List α)
  /-- Terms with operators between them, folded from the left. -/
  | chain {Γ : Scopes} {α : Type} (term : Parser Γ α)
    (operator : Parser Γ (α → α → Attempt α)) : Parser Γ α
  /-- The first parser and then the second, with both results. -/
  | «then» {Γ : Scopes} {α β : Type} (p : Parser Γ α) (q : Parser Γ β) : Parser Γ (α × β)
  /-- Applies the function that was read to the argument that follows it. -/
  | ap {Γ : Scopes} {α β : Type} (p : Parser Γ (α → Attempt β)) (q : Parser Γ α) : Parser Γ β
  /-- Drops the white space after what was read. -/
  | token {Γ : Scopes} {α : Type} (p : Parser Γ α) : Parser Γ α
  /-- Reports the parser to the debugger. -/
  | debug {Γ : Scopes} {α : Type} (mark : Mark) (p : Parser Γ α) : Parser Γ α
  /-- The definition that the handle refers to. -/
  | handle {Γ : Scopes} {α : Type} (h : Handle Γ α) : Parser Γ α
  /-- Makes a definition, which may use a handle for itself, and runs `body` with that handle
  while the definition is in the given state. -/
  | define {Γ : Scopes} {α β : Type} (state : Lifetime) (definition : Parser (β :: Γ) β)
    (body : Parser (β :: Γ) α) : Parser Γ α

/-- What a handle finds: the state of its definition, with the behaviour if it is alive. -/
inductive Cell (σ α : Type)
  | underConstruction
  | alive (b : Behaviour σ α)
  | dropped

/-- The cell of a definition in the given state. -/
def Lifetime.cell {σ α : Type} (b : Behaviour σ α) : Lifetime → Cell σ α
  | underConstruction => .underConstruction
  | alive => .alive b
  | dropped => .dropped

/-- What a handle does: it runs its definition, if there is one. -/
def Cell.behaviour {σ α : Type} : Cell σ α → Behaviour σ α
  | underConstruction => .halt (.fault .undefined)
  | alive b => b
  | dropped => .halt (.fault .dropped)

/-- A cell for each handle of a scope. -/
def Store (σ : Type) (Γ : Scopes) : Type 1 := ⦃α : Type⦄ → Handle Γ α → Cell σ α

namespace Store

def empty {σ : Type} : Store σ [] := nofun

/-- The store with one more cell, for the innermost definition. -/
def push {σ β : Type} {Γ : Scopes} (c : Cell σ β) (s : Store σ Γ) : Store σ (β :: Γ)
  | _, .here => c
  | _, .outer h => s h

end Store

/-- A definition that may be used within itself as often as `depth` says. -/
def unfold {σ α : Type} (definition : Behaviour σ α → Behaviour σ α) : Nat → Behaviour σ α
  | 0 => .halt .tooDeep
  | depth + 1 => definition (unfold definition depth)

/-- What a parser does with the handles of a store, where each definition may be used within itself
`depth` times. -/
def Parser.behaviour {σ : Type} (d : Debugger σ) (depth : Nat) :
    {Γ : Scopes} → {α : Type} → Parser Γ α → Store σ Γ → Behaviour σ α
  | _, _, .pure value, _ => .pure value
  | _, _, .empty, _ => .split fun _ => none
  | _, _, .raise f, _ => .halt (.fault f)
  | _, _, .endOfText, _ => .split fun t => if t.isEmpty then Option.some ((), t) else none
  | _, _, .item, _ => .split fun t => t.head?.map (·, t.tail)
  | _, _, .grapheme, _ => .split Grapheme.splitFirst?
  | _, _, .literal text, _ => .split fun t => (stripStart text t).map (text, ·)
  | _, _, .pattern p, _ => .split p.split
  | _, _, .custom f, _ => .custom f
  | _, _, .tryMap p f, s => (p.behaviour d depth s).tryMap f
  | _, _, .bind p next, s =>
    (p.behaviour d depth s).bind fun a => (next a).behaviour d depth s
  | _, _, .union p q, s => (p.behaviour d depth s).union (q.behaviour d depth s)
  | _, _, .committed p q, s => (p.behaviour d depth s).committed (q.behaviour d depth s)
  | _, _, .orElse p q, s => (p.behaviour d depth s).orElse (q.behaviour d depth s)
  | _, _, .tryFilter p keep, s => (p.behaviour d depth s).tryFilter keep
  | _, _, .optional p, s => (p.behaviour d depth s).optional
  | _, _, .many p, s => (p.behaviour d depth s).many
  | _, _, .some p, s => (p.behaviour d depth s).some
  | _, _, .separatedByAtLeastOne p q, s =>
    (p.behaviour d depth s).separatedByAtLeastOne (q.behaviour d depth s)
  | _, _, .separatedBy p q, s => (p.behaviour d depth s).separatedBy (q.behaviour d depth s)
  | _, _, .chain p q, s => (p.behaviour d depth s).chain (q.behaviour d depth s)
  | _, _, .then p q, s => (p.behaviour d depth s).then (q.behaviour d depth s)
  | _, _, .ap p q, s => (p.behaviour d depth s).ap (q.behaviour d depth s)
  | _, _, .token p, s => (p.behaviour d depth s).token
  | _, _, .debug mark p, s => (p.behaviour d depth s).debug d mark
  | _, _, .handle h, s => (s h).behaviour
  | _, _, .define state definition body, s =>
    let tied := unfold (fun b => definition.behaviour d depth (s.push (.alive b))) depth
    body.behaviour d depth (s.push (state.cell tied))

end Backtrack
