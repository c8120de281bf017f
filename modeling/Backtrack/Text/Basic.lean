/-!
# Texts

A text is the list of its characters. What a parser has left to read is a suffix
of its input, and one suffix is shorter than another exactly if it takes fewer
bytes in UTF-8, which is how lengths are compared here.
-/

namespace Backtrack

abbrev Text := List Char

/-- The number of bytes that the text takes in UTF-8. -/
def byteLength (t : Text) : Nat := t.foldl (fun n c => n + c.utf8Size) 0

@[simp] theorem byteLength_nil : byteLength [] = 0 := rfl

theorem foldl_utf8Size (t : Text) (n : Nat) :
    t.foldl (fun n c => n + c.utf8Size) n = n + byteLength t := by
  induction t generalizing n with
  | nil => rfl
  | cons c t ih =>
    simp only [byteLength, List.foldl_cons, Nat.zero_add]
    rw [ih, ih c.utf8Size, Nat.add_assoc]

@[simp] theorem byteLength_cons (c : Char) (t : Text) :
    byteLength (c :: t) = c.utf8Size + byteLength t := by
  simp only [byteLength, List.foldl_cons, Nat.zero_add]
  exact foldl_utf8Size t c.utf8Size

theorem byteLength_append (a b : Text) : byteLength (a ++ b) = byteLength a + byteLength b := by
  rw [byteLength, List.foldl_append, foldl_utf8Size]
  rfl

/-- The text without the given start, if it starts so. -/
def stripStart : Text → Text → Option Text
  | [], t => some t
  | _ :: _, [] => none
  | c :: start, d :: t => if c = d then stripStart start t else none

end Backtrack
