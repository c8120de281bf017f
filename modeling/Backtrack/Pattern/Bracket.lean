import Backtrack.Pattern.Escape

/-!
# Bracketed classes

A class in brackets lists characters, ranges, escapes, named ASCII classes and
further brackets. Two lists can be joined by `&&`, `--` or `~~`, which all bind
equally and to the left. The reader keeps the brackets that are still open on a
stack and computes the sets on the way; it also measures how deeply the class is
nested, which is limited for an expression as a whole.
-/

namespace Backtrack.Pattern

inductive ClassOperation
  | intersection
  | difference
  | symmetricDifference
  deriving DecidableEq, Repr

def ClassOperation.combine (s t : CharSet) : ClassOperation → CharSet
  | intersection => s.intersection t
  | difference => s.difference t
  | symmetricDifference => s.symmetricDifference t

/-- A set with the depth of the syntax that it was read from. -/
structure Nested where
  members : CharSet
  depth : Nat

/-- A bracket that is being read: the list since the last operation, and what the operation
joins it to. -/
structure OpenBracket where
  negated : Bool
  items : List Nested := []
  pending : Option (Nested × ClassOperation) := none

namespace OpenBracket

def add (b : OpenBracket) (s : CharSet) (depth : Nat) : OpenBracket :=
  { b with items := ⟨s, depth⟩ :: b.items }

/-- The list of items as one set. A list of two or more is one level deeper than its items. -/
def list (b : OpenBracket) : Nested :=
  let depth := (b.items.map (·.depth)).foldl max 0
  ⟨.unionAll (b.items.map (·.members)), if b.items.length ≤ 1 then depth else depth + 1⟩

/-- The set read so far, with the pending operation carried out. -/
def content (f : Flags) (b : OpenBracket) : Nested :=
  match b.pending with
  | none => b.list
  | some (left, operation) =>
    let right := b.list
    ⟨operation.combine (f.fold left.members) (f.fold right.members),
      max left.depth right.depth + 1⟩

def startOperation (f : Flags) (b : OpenBracket) (operation : ClassOperation) : OpenBracket :=
  { b with items := [], pending := some (b.content f, operation) }

/-- The class of a bracket that ends here. -/
def close? (f : Flags) (b : OpenBracket) : Option Nested := do
  let content := b.content f
  return ⟨← f.finish? b.negated content.members, content.depth + 1⟩

end OpenBracket

/-- Hyphens at the start of a bracket, which stand for themselves. -/
def leadingHyphens (f : Flags) (b : OpenBracket) (t : Text) : OpenBracket × Text :=
  match _h : t with
  | '-' :: rest => leadingHyphens f (b.add (.single '-') 0) (f.skip rest)
  | _ => (b, t)
termination_by t.length
decreasing_by
  have := f.length_skip_le rest
  simp
  omega

/-- Opens a bracket, after the `[`. A `]` that comes first stands for itself. -/
def openBracket (f : Flags) (t : Text) : OpenBracket × Text :=
  let (negated, t) := match f.skip t with
    | '^' :: rest => (true, f.skip rest)
    | t => (false, t)
  match leadingHyphens f { negated } t with
  | (b, ']' :: rest) =>
    if b.items.isEmpty then (b.add (.single ']') 0, f.skip rest) else (b, ']' :: rest)
  | opened => opened

/-- A named ASCII class such as `[:alpha:]`, after its first bracket. -/
def readAsciiClass (f : Flags) (t : Text) : Option (Option CharSet × Text) := do
  let t ← stripStart [':'] t
  let (negated, t) := match t with
    | '^' :: rest => (true, rest)
    | _ => (false, t)
  let s ← asciiClass? (String.ofList (t.takeWhile (· != ':')))
  let rest ← stripStart [':', ']'] (t.dropWhile (· != ':'))
  return (f.finish? negated s, rest)

/-- The character after the next one, where blanks and comments are passed over. A comment is not
read to its end: its first character that is not blank counts. -/
def peekAfter (f : Flags) (t : Text) : Option Char :=
  let afterNext := t.drop 1
  if !f.extended then afterNext.head?
  else
    match afterNext.dropWhile Unicode.isBlank with
    | '#' :: comment =>
      (comment.dropWhile Unicode.isBlank).head? <|> afterNext.head?
    | [] => afterNext.head?
    | c :: _ => some c

def readClassSymbol (f : Flags) : Text → Option (Primitive × Text)
  | [] => none
  | '\\' :: rest => readEscape f rest
  | c :: rest => some (.char c, rest)

/-- An item of a class: one symbol, or the range between two characters. -/
def readClassItem (f : Flags) (t : Text) : Option (CharSet × Text) := do
  let (first, rest) ← readClassSymbol f t
  let rest := f.skip rest
  if rest.isEmpty then none
  if rest.head? != some '-' || peekAfter f rest == some ']' || peekAfter f rest == some '-' then
    return (← first.class? f, rest)
  match ← readClassSymbol f (f.skip (rest.drop 1)), first with
  | (.char last, rest), .char first => do
    let _ ← charClass? f first
    let _ ← charClass? f last
    if first ≤ last then return (.range first.toNat last.toNat, rest) else none
  | _, _ => none

/-- Reads the brackets that are open to the end of the outermost one. -/
def readBrackets (f : Flags) (b : OpenBracket) (outer : List OpenBracket) (t : Text) :
    Option (Nested × Text) :=
  let goOn := fun (b : OpenBracket) outer (rest : Text) =>
    if _h : rest.length < t.length then readBrackets f b outer rest else none
  match f.skip t with
  | [] => none
  | '[' :: rest =>
    match readAsciiClass f rest with
    | some (s, rest) => do goOn (b.add (← s) 0) outer rest
    | none =>
      let (inner, rest) := openBracket f rest
      goOn inner (b :: outer) rest
  | ']' :: rest => do
    let closed ← b.close? f
    match outer with
    | [] => some (closed, rest)
    | b :: outer => goOn (b.add closed.members closed.depth) outer rest
  | '&' :: '&' :: rest => goOn (b.startOperation f .intersection) outer rest
  | '-' :: '-' :: rest => goOn (b.startOperation f .difference) outer rest
  | '~' :: '~' :: rest => goOn (b.startOperation f .symmetricDifference) outer rest
  | t => do
    let (s, rest) ← readClassItem f t
    goOn (b.add s 0) outer rest
termination_by t.length

/-- A class in brackets, after the `[`, with its depth. -/
def readClass (f : Flags) (t : Text) : Option (Nested × Text) :=
  let (b, rest) := openBracket f t
  readBrackets f b [] rest

end Backtrack.Pattern
