import Backtrack.CharSet

/-!
# Tables of character ranges

A table is written as text: the code points at which membership changes, each
as its distance from the one before, in base 36 and divided by blanks. The first
number is where the first range starts, the second is its length, the third the
length of the gap after it, and so on; an open last range goes up to the largest
code point.
-/

namespace Backtrack.Unicode

/-- The value of a digit in base 36. -/
def digit36 (c : Char) : Nat := if c.isDigit then c.toNat - 48 else c.toNat - 87

/-- The parts of a text that consist of characters that pass the test, as long as possible. -/
def partsOf (keep : Char → Bool) (text : List Char) : List (List Char) :=
  let step := fun c (state : List Char × List (List Char)) =>
    if keep c then (c :: state.1, state.2)
    else if state.1.isEmpty then state
    else ([], state.1 :: state.2)
  let (first, rest) := text.foldr step ([], [])
  if first.isEmpty then rest else first :: rest

/-- The numbers that a text spells in base 36, with anything else between them. -/
def numbers (text : List Char) : List Nat :=
  (partsOf Char.isAlphanum text).map fun digits => digits.foldl (fun n c => n * 36 + digit36 c) 0

/-- Each number added to the sum of those before it. -/
def runningSums : Nat → List Nat → List Nat
  | _, [] => []
  | sum, n :: rest => (sum + n) :: runningSums (sum + n) rest

/-- Ranges from the code points at which membership changes. -/
def rangesOfChanges : List Nat → List CodeRange
  | [] => []
  | [first] => [⟨first, CharSet.maxCode⟩]
  | first :: next :: rest => ⟨first, next - 1⟩ :: rangesOfChanges rest

/-- The set that a table's text describes. -/
def decodeRanges (text : String) : CharSet :=
  ⟨rangesOfChanges (runningSums 0 (numbers text.toList))⟩

/-- A row of a table: the names of a set, and its ranges in the form of `decodeRanges`. -/
structure NamedRanges where
  names : List String
  table : String

/-- The set of the row that has the given name. -/
def lookup (rows : List NamedRanges) (name : String) : Option CharSet :=
  (rows.find? fun row => row.names.contains name).map fun row => decodeRanges row.table

end Backtrack.Unicode
