/-!
# Sets of characters

A set is a list of ranges of code points, kept in increasing order with a gap
between neighbours. Union and complement are computed on the ranges; the other
operations are made of these two.
-/

namespace Backtrack

/-- The code points from `first` to `last`, both included. -/
structure CodeRange where
  first : Nat
  last : Nat
  deriving DecidableEq, Repr

def CodeRange.contains (r : CodeRange) (n : Nat) : Bool :=
  decide (r.first ≤ n) && decide (n ≤ r.last)

/-- A set of characters, by the ranges of their code points. -/
structure CharSet where
  ranges : List CodeRange
  deriving DecidableEq, Repr, Inhabited

namespace CharSet

/-- The largest code point. -/
def maxCode : Nat := 0x10FFFF

def empty : CharSet := ⟨[]⟩

def full : CharSet := ⟨[⟨0, maxCode⟩]⟩

def range (first last : Nat) : CharSet := ⟨[⟨first, last⟩]⟩

def single (c : Char) : CharSet := range c.toNat c.toNat

def hasCode (s : CharSet) (n : Nat) : Bool := s.ranges.any (·.contains n)

def contains (s : CharSet) (c : Char) : Bool := s.hasCode c.toNat

/-- The range with those of the given ones that touch or overlap it, and the ones after them. The
ranges are given in order of their first code point. -/
def joinFrom (r : CodeRange) : List CodeRange → List CodeRange
  | [] => [r]
  | next :: rest =>
    if next.first ≤ r.last + 1 then joinFrom ⟨r.first, max r.last next.last⟩ rest
    else r :: joinFrom next rest

/-- Joins ranges that touch or overlap, given in order of their first code point. -/
def joinTouching : List CodeRange → List CodeRange
  | [] => []
  | r :: rest => joinFrom r rest

/-- The set of all the given ranges, in any order. -/
def ofRanges (rs : List CodeRange) : CharSet :=
  ⟨joinTouching (rs.mergeSort fun a b => decide (a.first ≤ b.first))⟩

def ofChars (cs : List Char) : CharSet := ofRanges (cs.map fun c => ⟨c.toNat, c.toNat⟩)

def union (s t : CharSet) : CharSet := ofRanges (s.ranges ++ t.ranges)

def unionAll (sets : List CharSet) : CharSet := ofRanges (sets.flatMap (·.ranges))

/-- The gaps between ranges, from `start` up to `top`. -/
def gaps (top : Nat) : Nat → List CodeRange → List CodeRange
  | start, [] => if start ≤ top then [⟨start, top⟩] else []
  | start, r :: rest =>
    if start < r.first then ⟨start, r.first - 1⟩ :: gaps top (r.last + 1) rest
    else gaps top (max start (r.last + 1)) rest

/-- The code points up to `top` that are not in the set. -/
def complementUpTo (top : Nat) (s : CharSet) : CharSet := ⟨gaps top 0 s.ranges⟩

def complement (s : CharSet) : CharSet := s.complementUpTo maxCode

def intersection (s t : CharSet) : CharSet := (s.complement.union t.complement).complement

def difference (s t : CharSet) : CharSet := (s.complement.union t).complement

def symmetricDifference (s t : CharSet) : CharSet := (s.difference t).union (t.difference s)

/-- Whether every code point of the set is at most `top`. -/
def within (top : Nat) (s : CharSet) : Bool := s.ranges.all fun r => decide (r.last ≤ top)

end CharSet

end Backtrack
