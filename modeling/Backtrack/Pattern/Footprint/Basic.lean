/-!
# The size of an automaton

An automaton on bytes is measured while it is built: its states are counted, and the
bytes that their edges take are added up. An automaton with more than `maxFootprint`
bytes is too large.
-/

namespace Backtrack.Pattern

/-- The bytes of an automaton at most. -/
def maxFootprint : Nat := 10 * 1024 * 1024

/-- The bytes of a state, with an edge that needs no room of its own. -/
def stateSize : Nat := 32

/-- The bytes of an edge from a point of choice. -/
def choiceEdgeSize : Nat := 4

/-- The bytes of an edge that is labelled with a range of bytes. -/
def rangeEdgeSize : Nat := 8

/-- The direction in which an automaton reads. -/
inductive Direction
  | forwards
  | backwards
  deriving DecidableEq, Repr

/-- What an automaton has so far. Its states are numbered from zero in the order in which they are
added, so the next one has the number `states`. -/
structure Footprint where
  states : Nat := 0
  edgeBytes : Nat := 0
  deriving DecidableEq, Repr

namespace Footprint

def size (f : Footprint) : Nat := stateSize * f.states + f.edgeBytes

def fits (f : Footprint) : Bool := f.size ≤ maxFootprint

def addStates (n : Nat) (f : Footprint) : Footprint := { f with states := f.states + n }

def addState (f : Footprint) : Footprint := f.addStates 1

/-- Adds a point of choice. -/
def addChoice (edges : Nat) (f : Footprint) : Footprint :=
  ⟨f.states + 1, f.edgeBytes + choiceEdgeSize * edges⟩

/-- Adds a state with edges for ranges of bytes. -/
def addRanges (edges : Nat) (f : Footprint) : Footprint :=
  ⟨f.states + 1, f.edgeBytes + rangeEdgeSize * edges⟩

end Footprint

end Backtrack.Pattern
