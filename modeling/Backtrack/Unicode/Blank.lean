import Backtrack.CharSet

/-!
# White space

The characters that separate lexemes: tab to carriage return, the space, and the
other characters with the property White_Space.
-/

namespace Backtrack.Unicode

/-- The characters with the property White_Space. -/
def blanks : CharSet := ⟨[
  ⟨0x09, 0x0D⟩, ⟨0x20, 0x20⟩, ⟨0x85, 0x85⟩, ⟨0xA0, 0xA0⟩, ⟨0x1680, 0x1680⟩, ⟨0x2000, 0x200A⟩,
  ⟨0x2028, 0x2029⟩, ⟨0x202F, 0x202F⟩, ⟨0x205F, 0x205F⟩, ⟨0x3000, 0x3000⟩]⟩

def isBlank (c : Char) : Bool := blanks.contains c

end Backtrack.Unicode
