/-!
# Doubles as multiples of the smallest step

A finite double is a sign and a multiple of `2 ^ -1074`, the step from zero to the
smallest positive double. The multiple is a mantissa below `2 ^ 53` times a power of
two. If that power is the least possible, the bits of the double are the power times
`2 ^ 52` plus the mantissa, and so a larger double has larger bits.
-/

namespace Backtrack

/-- The double with this sign and the value `mantissa * 2 ^ scale`, in smallest steps. -/
structure Magnitude where
  mantissa : Nat
  scale : Nat
  deriving DecidableEq, Repr

/-- What a double is. -/
inductive Binary64
  | notANumber
  | infinite (negative : Bool)
  | finite (negative : Bool) (magnitude : Magnitude)
  deriving DecidableEq, Repr

namespace Magnitude

/-- One is `2 ^ stepBits` smallest steps. -/
def stepBits : Nat := 1074

/-- How many bits of a double hold its mantissa, but for the first bit of it. -/
def fractionBits : Nat := 52

/-- The weight of the first bit of a mantissa with 53 bits. -/
def leadingBit : Nat := Nat.pow 2 fractionBits

/-- The first bits that are of no finite double. -/
def infiniteBits : Nat := 2047 * leadingBit

/-- The bits without the sign. -/
def bits (m : Magnitude) : Nat := m.scale * leadingBit + m.mantissa

/-- The magnitude that has these bits. -/
def ofBits (n : Nat) : Magnitude :=
  let field := n / leadingBit
  let fraction := n % leadingBit
  if field = 0 then ⟨fraction, 0⟩ else ⟨leadingBit + fraction, field - 1⟩

/-- The whole number that is nearest to a quotient, and the even one of two. -/
def divideToNearest (num den : Nat) : Nat :=
  let floor := num / den
  let twice := 2 * (num % den)
  if twice < den ∨ (twice = den ∧ floor % 2 = 0) then floor else floor + 1

/-- The magnitude that is nearest to a quotient. Its scale is the least at which the mantissa has
at most 53 bits; a mantissa that is rounded up to `2 ^ 53` has the bits of the next scale. -/
def nearest (num den : Nat) : Magnitude :=
  let steps := num * Nat.pow 2 stepBits
  let scale := Nat.log2 (steps / den) - fractionBits
  ⟨divideToNearest steps (den * Nat.pow 2 scale), scale⟩

/-- The double without a sign. What is too large becomes infinite. -/
def toFloat (m : Magnitude) : Float := Float.ofBits (UInt64.ofNat (min m.bits infiniteBits))

end Magnitude

/-- Takes a double apart. -/
def Binary64.ofFloat (x : Float) : Binary64 :=
  let n := x.toBits.toNat
  let negative := decide (Nat.pow 2 63 ≤ n)
  let rest := n % Nat.pow 2 63
  if rest < Magnitude.infiniteBits then finite negative (.ofBits rest)
  else if rest = Magnitude.infiniteBits then infinite negative
  else notANumber

end Backtrack
