import Backtrack.Pattern.Footprint.Basic
import Backtrack.Text.Utf8
import Std.Data.HashMap

/-!
# The states for a set of characters

A set of ASCII characters takes two states. For any other set, the states are built
from the byte sequences of its members, and a state that would do the same as an
earlier one is not built again, as long as the earlier one is remembered. What is
remembered has a fixed number of places: the place of a state is computed from its
edges, and of two states with the same place the later one is kept.
-/

namespace Backtrack.Pattern

/-- A number for a list of numbers: each is mixed in by an exclusive or and a multiplication, modulo
two to the power of 64. -/
def mix (key : List Nat) : Nat :=
  (key.foldl (fun h n => (h ^^^ UInt64.ofNat n) * 1099511628211) 14695981039346656037).toNat

/-- An automaton together with the states that are remembered, by their place: the numbers that
describe the edges of the state, and its own number. -/
structure StatePool where
  footprint : Footprint
  places : Nat
  kept : Std.HashMap Nat (List Nat × Nat) := ∅

namespace StatePool

/-- Adds a state with the given edges and remembers it at the given place. -/
def add (pool : StatePool) (place : Nat) (edges : List Nat) (state : Footprint → Footprint) :
    Nat × StatePool :=
  let id := pool.footprint.states
  (id, ⟨state pool.footprint, pool.places, pool.kept.insert place (edges, id)⟩)

/-- The number of the state with the given edges, which is added if it is not remembered. -/
def state (pool : StatePool) (edges : List Nat) (state : Footprint → Footprint) :
    Nat × StatePool :=
  let place := mix edges % pool.places
  match pool.kept[place]? with
  | some (edges', id) => if edges' = edges then (id, pool) else pool.add place edges state
  | none => pool.add place edges state

end StatePool

/-- Sequences grouped by their first range, where neighbours have the same one. -/
def groupByFirst : List (List ByteRange) → List (ByteRange × List (List ByteRange))
  | [] => []
  | [] :: rest => groupByFirst rest
  | (r :: tail) :: rest =>
    match groupByFirst rest with
    | (r', tails) :: groups =>
      if r = r' then (r, tail :: tails) :: groups else (r, [tail]) :: (r', tails) :: groups
    | [] => [(r, [tail])]

namespace StatePool

/-- Adds the states that lead to the target by the given sequences, of at most the given length, and
gives the number of the first one. -/
def addForwards (target : Nat) : Nat → List (List ByteRange) → StatePool → Nat × StatePool
  | 0, _, pool => (target, pool)
  | length + 1, sequences, pool =>
    let addGroup := fun (found : List Nat × StatePool)
        (group : ByteRange × List (List ByteRange)) =>
      let (next, pool) :=
        if group.2.all List.isEmpty then (target, found.2)
        else addForwards target length group.2 found.2
      (next :: group.1.2 :: group.1.1 :: found.1, pool)
    let groups := groupByFirst sequences
    let (edges, pool) := groups.foldl addGroup ([], pool)
    pool.state edges.reverse (·.addRanges groups.length)

/-- Adds the states that lead to the target by the given sequence, read backwards. -/
def addBackwards (target : Nat) (pool : StatePool) (sequence : List ByteRange) : StatePool :=
  let addRange := fun (found : Nat × StatePool) (r : ByteRange) =>
    found.2.state [found.1, r.1, r.2] (·.addState)
  (sequence.foldl addRange (target, pool)).2

end StatePool

/-- Adds the states for one member of the set. -/
def Footprint.addMember (direction : Direction) (s : CharSet) (f : Footprint) : Footprint :=
  if s.within 0x7F then f.addState.addRanges s.ranges.length
  else
    let sequences := s.byteSequences
    match direction with
    | .forwards =>
      (StatePool.addForwards f.states 4 sequences { footprint := f.addState, places := 10000 }).2
        |>.footprint
    | .backwards =>
      let target := f.states + 1
      let f := (f.addChoice sequences.length).addState
      (sequences.foldl (StatePool.addBackwards target) { footprint := f, places := 1000 }).footprint

end Backtrack.Pattern
