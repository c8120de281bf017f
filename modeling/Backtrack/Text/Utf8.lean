import Backtrack.CharSet

/-!
# Sets of characters in UTF-8

The characters of a set, as sequences of bytes: a sequence of byte ranges spells all
characters whose first byte is in the first range, whose second byte is in the second,
and so on. A range of code points is cut where the parts can be spelled so.
-/

namespace Backtrack

/-- A range of bytes, from the first to the last. -/
abbrev ByteRange := Nat × Nat

namespace Utf8

/-- The bytes of a code point. -/
def bytes (n : Nat) : List Nat :=
  if n ≤ 0x7F then [n]
  else if n ≤ 0x7FF then [0xC0 + n / 0x40, 0x80 + n % 0x40]
  else if n ≤ 0xFFFF then [0xE0 + n / 0x1000, 0x80 + n / 0x40 % 0x40, 0x80 + n % 0x40]
  else
    [0xF0 + n / 0x40000, 0x80 + n / 0x1000 % 0x40, 0x80 + n / 0x40 % 0x40, 0x80 + n % 0x40]

/-- Where a range of code points has to be cut so that its parts can be spelled by one sequence
each: the end of the first part and the start of the second. Surrogates belong to neither. -/
def cut? (first last : Nat) : Option (Nat × Nat) :=
  if first ≤ 0xDFFF ∧ 0xD800 ≤ last then some (0xD7FF, 0xE000)
  else
    match [0x7F, 0x7FF, 0xFFFF].find? fun n => first ≤ n && n < last with
    | some n => some (n, n + 1)
    | none =>
      if last ≤ 0x7F then none
      else
        [0x40, 0x1000, 0x40000].findSome? fun block =>
          if first / block = last / block then none
          else if first % block ≠ 0 then
            some (first / block * block + (block - 1), (first / block + 1) * block)
          else if last % block ≠ block - 1 then
            some (last / block * block - 1, last / block * block)
          else none

/-- The sequences that spell the code points of a range, for at most the given number of cuts in a
row. -/
def sequences : Nat → Nat → Nat → List (List ByteRange)
  | 0, _, _ => []
  | cuts + 1, first, last =>
    if last < first then []
    else
      match cut? first last with
      | some (end₁, start₂) => sequences cuts first end₁ ++ sequences cuts start₂ last
      | none => [(bytes first).zip (bytes last)]

end Utf8

/-- The sequences that spell the members of a set. A range is cut less than twenty times in a row:
at the surrogates, at three lengths, and at two ends of three block sizes. -/
def CharSet.byteSequences (s : CharSet) : List (List ByteRange) :=
  s.ranges.flatMap fun r => Utf8.sequences 20 r.first r.last

end Backtrack
