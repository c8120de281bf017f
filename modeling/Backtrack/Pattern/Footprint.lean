import Backtrack.Pattern.Footprint.Literals
import Backtrack.Pattern.Footprint.Members
import Backtrack.Pattern.Shape

/-!
# The footprint of an expression

An expression is compiled to an automaton on bytes, forwards and backwards, and refused
if either of the two is too large. The automaton that reads forwards also marks where
groups begin and end. Repetitions are written out, so each round has states of its own.
-/

namespace Backtrack.Pattern

/-- What a part of an expression adds to an automaton. -/
abbrev Construction := Footprint → Footprint

namespace Construction

/-- Repeats a construction, up to the size that is too large anyhow. -/
def times (c : Construction) : Nat → Construction
  | 0, f => f
  | n + 1, f => if f.fits then times c n (c f) else f

/-- A repetition whose rounds are built by `round`. Rounds without limit need more states if a
round may be empty. -/
def repetition (round : Construction) (mayBeEmpty : Bool) (min : Nat) (max : Option Nat) :
    Construction := fun f =>
  match min, max with
  | 0, some 1 => (round (f.addChoice 2)).addState
  | 0, none =>
    if mayBeEmpty then (((round f).addChoice 2).addChoice 2).addState else round (f.addChoice 2)
  | min, none => (times round min f).addChoice 2
  | min, some max =>
    if min = max then times round min f
    else
      let required := if min = 0 then f.addState else times round min f
      times (fun f => round (f.addChoice 2)) (max - min) required.addState

/-- Alternatives, of which the first two are built before the point of choice. -/
def alternatives : List Construction → Construction
  | first :: second :: rest, f =>
    rest.foldl (fun f c => c f) ((second (first f)).addChoice (rest.length + 2)).addState
  | _, f => f

/-- One construction after the other, in the order of reading. -/
def sequence (direction : Direction) (cs : List Construction) : Construction := fun f =>
  match direction with
  | .forwards => cs.foldl (fun f c => c f) f
  | .backwards => cs.foldr (fun c f => c f) f

end Construction

/-- The bytes of a text in the order of reading. -/
def Direction.bytes (d : Direction) (t : Text) : List Nat :=
  let all := t.flatMap fun c => Utf8.bytes c.toNat
  match d with
  | forwards => all
  | backwards => all.reverse

namespace Shape

def text? : Shape → Option Text
  | literal t => some t
  | _ => none

mutual

def construction (d : Direction) : Shape → Construction
  | literal t => (·.addStates (byteLength t))
  | set s => (·.addMember d s)
  | look _ => (·.addState)
  | capture s => fun f =>
    match d with
    | .forwards => (s.construction d f.addState).addState
    | .backwards => s.construction d f
  | concat [] => (·.addState)
  | concat ps => .sequence d (constructions d ps)
  | alternation bs =>
    match bs.mapM text? with
    | some texts => (·.addLiterals (texts.map d.bytes))
    | none => .alternatives (constructions d bs)
  | repetition min max _ s => .repetition (s.construction d) (s.minLength?.all (· == 0)) min max

def constructions (d : Direction) : List Shape → List Construction
  | [] => []
  | s :: ss => s.construction d :: constructions d ss

end

mutual

/-- Whether every match meets the condition where its reading begins. -/
def requires (d : Direction) (l : Look) : Shape → Bool
  | literal _ | set _ => false
  | look m => l == m
  | capture s => s.requires d l
  | concat ps => sequenceRequires d l ps
  | alternation bs => allRequire d l bs
  | repetition min _ _ s => min != 0 && s.requires d l

/-- The condition holds at the empty parts that are read first, or at the one after them. -/
def sequenceRequires (d : Direction) (l : Look) : List Shape → Bool
  | [] => false
  | p :: ps =>
    match d with
    | .forwards => p.requires d l || (p.matchesOnlyEmpty && sequenceRequires d l ps)
    | .backwards => sequenceRequires d l ps || (allMatchOnlyEmpty ps && p.requires d l)

def allRequire (d : Direction) (l : Look) : List Shape → Bool
  | [] => true
  | b :: bs => b.requires d l && allRequire d l bs

end

/-- Whether a match begins, in the order of reading, at an end of the text. -/
def isAnchored (d : Direction) (s : Shape) : Bool :=
  match d with
  | .forwards => s.requires d .textStart
  | .backwards => s.requires d .textEnd

/-- The automaton of the shape. If it is not anchored, it starts with a loop that passes over any
bytes; it ends with a state for the match. -/
def footprint (d : Direction) (s : Shape) : Footprint :=
  let start : Footprint :=
    if s.isAnchored d then ({} : Footprint).addState
    else ((({} : Footprint).addChoice 2).addState).addRanges 1
  ((capture s).construction d start).addState

end Shape

/-- Whether the automata of the expression are small enough. -/
def Expr.isSmall (e : Expr) : Bool :=
  let s := e.shape
  (s.footprint .forwards).fits && (s.footprint .backwards).fits

end Backtrack.Pattern
