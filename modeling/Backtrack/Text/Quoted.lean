import Backtrack.Text.Basic
import Backtrack.Unicode.Unprintable

/-!
# Quoted texts

A text is quoted on one line: between double quotes, with a backslash before quotes
and backslashes, short escapes for the common controls, and the number of every other
character that would not show.
-/

namespace Backtrack

/-- How a character is written inside of quotes. -/
def escapeChar (c : Char) : Text :=
  match c with
  | '\x00' => ['\\', '0']
  | '\t' => ['\\', 't']
  | '\r' => ['\\', 'r']
  | '\n' => ['\\', 'n']
  | '\\' => ['\\', '\\']
  | '"' => ['\\', '"']
  | _ =>
    if Unicode.unprintable.contains c then
      ['\\', 'u', '\x7b'] ++ Nat.toDigits 16 c.toNat ++ ['\x7d']
    else [c]

/-- The text between quotes. -/
def quote (t : Text) : Text := '"' :: t.flatMap escapeChar ++ ['"']

end Backtrack
