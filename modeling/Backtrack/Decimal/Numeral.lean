import Backtrack.Binary64
import Backtrack.Text.Basic

/-!
# Decimal numerals

A numeral is a run of digits, and may go on with a point and further digits. It stands
for the double that is nearest to its value.
-/

namespace Backtrack.Decimal

/-- The number that a run of digits writes. -/
def digitsValue (digits : Text) : Nat :=
  digits.foldl (fun n c => 10 * n + (c.toNat - '0'.toNat)) 0

/-- The double that a numeral stands for. -/
def read (numeral : Text) : Float :=
  let whole := numeral.takeWhile (· != '.')
  let fraction := (numeral.dropWhile (· != '.')).drop 1
  (Magnitude.nearest (digitsValue (whole ++ fraction)) (Nat.pow 10 fraction.length)).toFloat

end Backtrack.Decimal
