import Backtrack.Binary64
import Backtrack.Text.Basic

/-!
# Shortest decimals

A double is written with the fewest digits that are read back as the same double. Of
several decimals of that length it is the one nearest to the double, and the larger
one if two are equally near. There is never an exponent.
-/

namespace Backtrack

/-- A decimal: `digits * 10 ^ place`. -/
structure Decimal where
  digits : Nat
  place : Int
  deriving DecidableEq, Repr

namespace Decimal

/-- The decimal as digits, with a point where needed. -/
def text (d : Decimal) : Text :=
  let digits := Nat.toDigits 10 d.digits
  if 0 ≤ d.place then digits ++ List.replicate d.place.toNat '0'
  else
    let places := (-d.place).toNat
    let padded := List.replicate (places + 1 - digits.length) '0' ++ digits
    padded.take (padded.length - places) ++ '.' :: padded.drop (padded.length - places)

/-- The numbers that are read as one double, in quarters of the smallest step: those between `low`
and `high`, and these two if `closed`. -/
structure Neighbourhood where
  low : Nat
  middle : Nat
  high : Nat
  closed : Bool

/-- A double reaches half the way to its neighbours. The one below is nearer where the scale
changes. Numbers that are halfway go to the even mantissa. -/
def Neighbourhood.of (m : Magnitude) : Neighbourhood where
  low :=
    let share := if m.mantissa = Magnitude.leadingBit ∧ 0 < m.scale then 1 else 2
    (4 * m.mantissa - share) * Nat.pow 2 m.scale
  middle := 4 * m.mantissa * Nat.pow 2 m.scale
  high := (4 * m.mantissa + 2) * Nat.pow 2 m.scale
  closed := m.mantissa % 2 = 0

namespace Neighbourhood

/-- Whether `num / den` is in the neighbourhood. -/
def contains (n : Neighbourhood) (num den : Nat) : Bool :=
  if n.closed then n.low * den ≤ num ∧ num ≤ n.high * den
  else n.low * den < num ∧ num < n.high * den

/-- The multiple of `10 ^ place` in the neighbourhood that is nearest to its middle. Only those next
to the middle need to be tried. -/
def multiple? (n : Neighbourhood) (place : Int) : Option Nat :=
  let den := Nat.pow 10 (-place).toNat
  let unit := Nat.pow 2 (Magnitude.stepBits + 2) * Nat.pow 10 place.toNat
  let below := n.middle * den / unit
  let rest := n.middle * den % unit
  match n.contains (below * unit) den, n.contains ((below + 1) * unit) den with
  | true, true => some (if 2 * rest < unit then below else below + 1)
  | true, false => some below
  | false, true => some (below + 1)
  | false, false => none

/-- The first place, from the given one on to the right, that has a multiple in the neighbourhood. At
most `steps` places are left out. -/
def decimalFrom (n : Neighbourhood) : Nat → Int → Decimal
  | 0, place => ⟨(n.multiple? place).getD 0, place⟩
  | steps + 1, place =>
    match n.multiple? place with
    | some digits => ⟨digits, place⟩
    | none => decimalFrom n steps (place - 1)

end Neighbourhood

/-- Every finite double is below `10 ^ firstPlace`. -/
def firstPlace : Nat := 309

/-- Multiples of `10 ^ -lastPlace` are nearer to each other than doubles ever are. -/
def lastPlace : Nat := 325

/-- The decimal that is written for a positive magnitude. -/
def shortest (m : Magnitude) : Decimal :=
  (Neighbourhood.of m).decimalFrom (firstPlace + lastPlace) firstPlace

/-- How a magnitude is written. -/
def magnitudeText (m : Magnitude) : Text :=
  if m.mantissa = 0 then ['0'] else (shortest m).text

/-- How a double is written. Zero keeps its sign. -/
def write (x : Float) : Text :=
  let signed (negative : Bool) (t : Text) := if negative then '-' :: t else t
  match Binary64.ofFloat x with
  | .notANumber => "NaN".toList
  | .infinite negative => signed negative "inf".toList
  | .finite negative m => signed negative (magnitudeText m)

end Decimal

end Backtrack
