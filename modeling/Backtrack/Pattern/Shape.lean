import Backtrack.Pattern.Expr

/-!
# Shapes

The shape of an expression is the form from which its automaton is built. A sequence
in it is flat, and its characters that stand side by side are one literal; nested
alternatives are flat as well, alternatives that are single characters form a set, and
a start that all alternatives share is written once.
-/

namespace Backtrack.Pattern

inductive Shape
  /-- A text of one character or more. -/
  | literal (text : Text)
  | set (members : CharSet)
  | look (condition : Look)
  /-- A group that is numbered. -/
  | capture (content : Shape)
  | concat (parts : List Shape)
  | alternation (branches : List Shape)
  | repetition (min : Nat) (max : Option Nat) (greedy : Bool) (round : Shape)
  deriving Inhabited

namespace Shape

/-- Matches the empty text. -/
def empty : Shape := concat []

mutual

/-- Whether two shapes are the same. A capture is the same as no other, since each has a number of
its own. -/
def same : Shape → Shape → Bool
  | literal s, literal t => s == t
  | set s, set t => s == t
  | look l, look m => l == m
  | concat ps, concat qs => sameAll ps qs
  | alternation bs, alternation cs => sameAll bs cs
  | repetition min max greedy s, repetition min' max' greedy' t =>
    min == min' && max == max' && greedy == greedy' && s.same t
  | _, _ => false

def sameAll : List Shape → List Shape → Bool
  | [], [] => true
  | s :: ss, t :: ts => s.same t && sameAll ss ts
  | _, _ => false

end

/-- The parts of a range that are no surrogates. -/
def withoutSurrogates (r : CodeRange) : Option CodeRange :=
  let isSurrogate := (⟨0xD800, 0xDFFF⟩ : CodeRange).contains
  let first := if isSurrogate r.first then 0xE000 else r.first
  let last := if isSurrogate r.last then 0xD7FF else r.last
  if first ≤ last then some ⟨first, last⟩ else none

/-- One character of the set; a set of one character is a literal. -/
def ofSet (s : CharSet) : Shape :=
  match s.ranges.filterMap withoutSurrogates with
  | [r] => if r.first = r.last then literal [Char.ofNat r.first] else set ⟨[r]⟩
  | ranges => set ⟨ranges⟩

def parts : Shape → List Shape
  | concat ps => ps
  | s => [s]

def ofParts : List Shape → Shape
  | [s] => s
  | ps => concat ps

/-- The two sequences as one: where a literal meets a literal, they become one. -/
def joinParts : List Shape → List Shape → List Shape
  | [], qs => qs
  | [literal s], literal t :: qs => literal (s ++ t) :: qs
  | p :: ps, qs => p :: joinParts ps qs

/-- The first shape and then the second. -/
def append (s t : Shape) : Shape := ofParts (joinParts s.parts t.parts)

def branches : Shape → List Shape
  | alternation bs => bs
  | s => [s]

def char? : Shape → Option Char
  | literal [c] => some c
  | _ => none

def members? : Shape → Option CharSet
  | set s => some s
  | _ => none

/-- One of the given shapes; it is a set if all of them are single characters, or all of them
sets. -/
def choice (bs : List Shape) : Shape :=
  let bs := bs.flatMap branches
  match bs.mapM char?, bs.mapM members? with
  | some cs, _ => ofSet (.ofChars cs)
  | none, some sets => ofSet (.unionAll sets)
  | none, none => alternation bs

/-- The longest start that two sequences share. -/
def sharedStart : List Shape → List Shape → List Shape
  | p :: ps, q :: qs => if p.same q then p :: sharedStart ps qs else []
  | _, _ => []

/-- The longest start that all the given shapes share, as far as they are sequences. -/
def sharedParts (bs : List Shape) : List Shape :=
  let sequence? := fun
    | concat ps => some ps
    | _ => none
  match bs.mapM sequence? with
  | some (ps :: rest) => rest.foldl sharedStart ps
  | _ => []

/-- One of the given shapes, with a start that they share in front. -/
def ofBranches : List Shape → Shape
  | [s] => s
  | bs =>
    let bs := bs.flatMap branches
    match sharedParts bs with
    | [] => choice bs
    | shared =>
      (ofParts shared).append (choice (bs.map fun b => ofParts (b.parts.drop shared.length)))

def repeated (min : Nat) (max : Option Nat) (greedy : Bool) (round : Shape) : Shape :=
  match min, max with
  | 0, some 0 => empty
  | 1, some 1 => round
  | _, _ => repetition min max greedy round

mutual

/-- Whether the shape matches no text but the empty one. -/
def matchesOnlyEmpty : Shape → Bool
  | literal _ | set _ => false
  | look _ => true
  | capture s => s.matchesOnlyEmpty
  | concat ps => allMatchOnlyEmpty ps
  | alternation bs => allMatchOnlyEmpty bs
  | repetition _ max _ s => max.isSome && s.matchesOnlyEmpty

def allMatchOnlyEmpty : List Shape → Bool
  | [] => true
  | s :: ss => s.matchesOnlyEmpty && allMatchOnlyEmpty ss

end

mutual

/-- The fewest characters of a match, if every branch can match. -/
def minLength? : Shape → Option Nat
  | literal t => some t.length
  | set s => if s.ranges.isEmpty then none else some 1
  | look _ => some 0
  | capture s => s.minLength?
  | concat ps => (minLengths? ps).map List.sum
  | alternation bs => (minLengths? bs).bind List.min?
  | repetition min _ _ s => s.minLength?.map (min * ·)

def minLengths? : List Shape → Option (List Nat)
  | [] => some []
  | s :: ss => do return (← s.minLength?) :: (← minLengths? ss)

end

end Shape

/-- The shapes of the alternatives of the expression. -/
def Expr.branches : Expr → List Shape
  | empty => [.empty]
  | set s => [.ofSet s]
  | look l => [.look l]
  | group true e => [.capture (.ofBranches e.branches)]
  | group false e => [.ofBranches e.branches]
  | concat a b => [(Shape.ofBranches a.branches).append (.ofBranches b.branches)]
  | alternate a b => .ofBranches a.branches :: b.branches
  | repetition min max greedy e => [.repeated min max greedy (.ofBranches e.branches)]

def Expr.shape (e : Expr) : Shape := .ofBranches e.branches

end Backtrack.Pattern
