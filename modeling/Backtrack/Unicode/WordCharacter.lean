import Backtrack.Unicode.BinaryProperty
import Backtrack.Unicode.GeneralCategory

/-!
# Digits and word characters

The classes that a pattern writes as `\d` and `\w`.
-/

namespace Backtrack.Unicode

/-- Decimal digits of every script. -/
def digits : CharSet := (lookup generalCategories "nd").getD .empty

/-- Letters, marks, decimal digits, connectors and joiners. -/
def wordCharacters : CharSet :=
  .unionAll <|
    ["alphabetic", "joincontrol"].filterMap (lookup binaryProperties) ++
    ["mn", "mc", "me", "nd", "pc"].filterMap (lookup generalCategories)

def isWordCharacter (c : Char) : Bool := wordCharacters.contains c

def isAsciiWordCharacter (c : Char) : Bool := c.isAlphanum || c == '_'

end Backtrack.Unicode
