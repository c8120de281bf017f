import Backtrack.Pattern.Bracket
import Backtrack.Unicode.Alphabetic

/-!
# Reading expressions

The reader goes through the text once, with the groups that are still open on a
stack. Flags hold to the end of the group in which they are set, across its
alternatives. An expression may be nested at most `maxDepth` levels deep; a text
that breaks a rule of the syntax is not read at all.
-/

namespace Backtrack.Pattern

/-- How deeply an expression may be nested. -/
def maxDepth : Nat := 250

/-- A part of a sequence, with the depth of the syntax that it was read from. A directive
only sets flags, and cannot be repeated. -/
structure Piece where
  expr : Expr
  depth : Nat
  directive : Bool := false

/-- The alternatives of a group so far, and the sequence that is being read; both with the
latest first. -/
structure Level where
  alternatives : List Piece := []
  pieces : List Piece := []

namespace Level

def add (l : Level) (p : Piece) : Level := { l with pieces := p :: l.pieces }

def deepest (ps : List Piece) : Nat := (ps.map (·.depth)).foldl max 0

/-- The pieces as one sequence. -/
def sequence (l : Level) : Piece :=
  match l.pieces with
  | [] => ⟨.empty, 0, false⟩
  | [p] => { p with directive := false }
  | ps =>
    let parts := (ps.filter (!·.directive)).map (·.expr)
    ⟨.concatAll parts.reverse, deepest ps + 1, false⟩

def startAlternative (l : Level) : Level := ⟨l.sequence :: l.alternatives, []⟩

/-- All alternatives as one expression. -/
def close (l : Level) : Piece :=
  match l.alternatives with
  | [] => l.sequence
  | others =>
    let all := l.sequence :: others
    ⟨.alternateAll (all.map (·.expr)).reverse, deepest all + 1, false⟩

end Level

/-- A group that is still open: what was read before it, and the flags that hold after it. -/
structure OpenGroup where
  before : Level
  flags : Flags
  numbered : Bool

def OpenGroup.close (g : OpenGroup) (content : Level) : Level :=
  let content := content.close
  g.before.add ⟨.group g.numbered content.expr, content.depth + 1, false⟩

/-- What an opening parenthesis starts. -/
inductive GroupHead
  | numbered (name : Option Text)
  | flagged (f : Flags)
  /-- No group, but a change of the flags. -/
  | directive (f : Flags)

/-- Whether the characters form the name of a group. -/
def isGroupName : Text → Bool
  | [] => false
  | c :: rest =>
    (c == '_' || Unicode.alphabetic.contains c) &&
      rest.all fun c =>
        c == '_' || c == '.' || c == '[' || c == ']' || Unicode.alphanumeric.contains c

/-- The name of a group up to `>`. -/
def readGroupName (t : Text) : Option (GroupHead × Text) :=
  let name := t.takeWhile (· != '>')
  match t.dropWhile (· != '>') with
  | '>' :: rest => if isGroupName name then some (.numbered (some name), rest) else none
  | _ => none

/-- The start of a group, after its parenthesis. Conditions on what is before or after a place
(`(?=`, `(?!`, `(?<=`, `(?<!`) are no groups. -/
def readGroupHead (f : Flags) (t : Text) : Option (GroupHead × Text) :=
  match f.skip t with
  | '?' :: 'P' :: '<' :: rest => readGroupName rest
  | '?' :: '<' :: '=' :: _ | '?' :: '<' :: '!' :: _ => none
  | '?' :: '<' :: rest => readGroupName rest
  | '?' :: rest => do
    let isEnd := fun (c : Char) => c == ':' || c == ')'
    let letters := rest.takeWhile (!isEnd ·)
    let f ← f.withLetters? letters
    match rest.dropWhile (!isEnd ·) with
    | ':' :: rest => some (.flagged f, rest)
    | ')' :: rest => if letters.isEmpty then none else some (.directive f, rest)
    | _ => none
  | t => some (.numbered none, t)

/-- The largest count that a repetition may have. -/
def maxCount : Nat := 0xFFFFFFFF

/-- Digits, with what may be skipped after each. -/
def readDigits (f : Flags) (t : Text) : Text × Text :=
  match _h : t with
  | c :: rest =>
    if c.isDigit then
      let (more, rest) := readDigits f (f.skip rest)
      (c :: more, rest)
    else ([], t)
  | [] => ([], [])
termination_by t.length
decreasing_by
  have := f.length_skip_le rest
  simp
  omega

/-- A count, which blanks may surround. -/
def readCount (f : Flags) (t : Text) : Option (Nat × Text) :=
  let (digits, rest) := readDigits f (t.dropWhile Unicode.isBlank)
  let rest := match rest with
    | c :: after => if Unicode.isBlank c then f.skip (after.dropWhile Unicode.isBlank) else rest
    | [] => []
  let n := digits.foldl (fun n c => n * 10 + (c.toNat - 0x30)) 0
  if digits.isEmpty || n > maxCount then none else some (n, rest)

/-- The bounds of a counted repetition, after the opening brace. -/
def readBounds (f : Flags) (t : Text) : Option ((Nat × Option Nat) × Text) := do
  let (min, rest) ← readCount f (f.skip t)
  match rest with
  | '}' :: rest => some ((min, some min), rest)
  | ',' :: rest =>
    match f.skip rest with
    | '}' :: rest => some ((min, none), rest)
    | rest => do
      let (max, rest) ← readCount f rest
      match rest with
      | '}' :: rest => if min ≤ max then some ((min, some max), rest) else none
      | _ => none
  | _ => none

/-- The bounds of a repetition, after the sign that starts it. -/
def readRepetition (f : Flags) : Char → Text → Option ((Nat × Option Nat) × Text)
  | '?', rest => some ((0, some 1), rest)
  | '*', rest => some ((0, none), rest)
  | '+', rest => some ((1, none), rest)
  | _, rest => do
    let (bounds, rest) ← readBounds f rest
    return (bounds, f.skip rest)

/-- Repeats the last piece of the sequence, which must not be a directive. -/
def Level.repeatLast? (l : Level) (bounds : Nat × Option Nat) (greedy : Bool) : Option Level :=
  match l.pieces with
  | [] => none
  | p :: before =>
    if p.directive then none
    else
      some { l with
        pieces := ⟨.repeated bounds.1 bounds.2 greedy p.expr, p.depth + 1, false⟩ :: before }

/-- Any character, or any but those that end a line. It never matches a lone byte. -/
def Flags.dot? (f : Flags) : Option Expr :=
  if !f.unicode then none
  else if f.dotMatchesNewline then some (.set .full)
  else
    let lineEnds := if f.crlf then ['\n', '\r'] else ['\n']
    some (.set (CharSet.ofChars lineEnds).complement)

def Flags.lineStart (f : Flags) : Look :=
  if !f.multiLine then .textStart else if f.crlf then .lineStartCRLF else .lineStart

def Flags.lineEnd (f : Flags) : Look :=
  if !f.multiLine then .textEnd else if f.crlf then .lineEndCRLF else .lineEnd

/-- One symbol that is no sign of repetition, grouping or choice. -/
def readSymbol (f : Flags) : Char → Text → Option (Piece × Text)
  | '[', rest => do
    let (s, rest) ← readClass f rest
    return (⟨.set s.members, s.depth, false⟩, rest)
  | '\\', rest => do
    let (symbol, rest) ← readEscape f rest
    return (⟨← symbol.expr? f, 0, false⟩, rest)
  | '.', rest => do return (⟨← f.dot?, 0, false⟩, rest)
  | '^', rest => some (⟨.look f.lineStart, 0, false⟩, rest)
  | '$', rest => some (⟨.look f.lineEnd, 0, false⟩, rest)
  | c, rest => do return (⟨← (Primitive.char c).expr? f, 0, false⟩, rest)

/-- What has been read of an expression. -/
structure ReaderState where
  flags : Flags := {}
  names : List Text := []
  level : Level := {}
  groups : List OpenGroup := []

namespace ReaderState

def openGroup? (s : ReaderState) (t : Text) : Option (ReaderState × Text) := do
  match ← readGroupHead s.flags t with
  | (.directive f, rest) =>
    some ({ s with flags := f, level := s.level.add ⟨.empty, 0, true⟩ }, rest)
  | (.flagged f, rest) =>
    some ({ s with flags := f, level := {}, groups := ⟨s.level, s.flags, false⟩ :: s.groups }, rest)
  | (.numbered name, rest) =>
    let names ← match name with
      | none => some s.names
      | some name => if s.names.contains name then none else some (name :: s.names)
    some ({ s with names, level := {}, groups := ⟨s.level, s.flags, true⟩ :: s.groups }, rest)

def closeGroup? (s : ReaderState) : Option ReaderState :=
  match s.groups with
  | [] => none
  | g :: groups => some { s with flags := g.flags, level := g.close s.level, groups }

def repeatLast? (s : ReaderState) (sign : Char) (t : Text) : Option (ReaderState × Text) := do
  let (bounds, rest) ← readRepetition s.flags sign t
  let (lazy, rest) := match rest with
    | '?' :: rest => (true, rest)
    | _ => (false, rest)
  let level ← s.level.repeatLast? bounds (lazy == s.flags.swapGreed)
  return ({ s with level }, rest)

/-- Reads what starts with the given character. -/
def step? (s : ReaderState) (c : Char) (t : Text) : Option (ReaderState × Text) :=
  match c with
  | '(' => s.openGroup? t
  | ')' => s.closeGroup?.map (·, t)
  | '|' => some ({ s with level := s.level.startAlternative }, t)
  | '?' | '*' | '+' | '{' => s.repeatLast? c t
  | _ => do
    let (piece, rest) ← readSymbol s.flags c t
    return ({ s with level := s.level.add piece }, rest)

/-- The expression, when the text has ended: no group may be open. -/
def finish? (s : ReaderState) : Option Expr :=
  if s.groups.isEmpty then
    let all := s.level.close
    if all.depth ≤ maxDepth then some all.expr else none
  else none

/-- Reads the rest of the text. -/
def read? (s : ReaderState) (t : Text) : Option Expr :=
  match s.flags.skip t with
  | [] => s.finish?
  | c :: rest => do
    let (s, rest) ← s.step? c rest
    if _h : rest.length < t.length then s.read? rest else none
termination_by t.length

end ReaderState

/-- The expression that a text spells, if it follows the syntax. -/
def Expr.read? (t : Text) : Option Expr := ReaderState.read? {} t

end Backtrack.Pattern
