import Backtrack.Text.Basic
import Backtrack.Unicode.Blank

/-!
# Flags

Flags change how the rest of a group is read. In the extended mode, blanks and
comments between the parts of an expression are skipped.
-/

namespace Backtrack.Pattern

structure Flags where
  ignoreCase : Bool := false
  multiLine : Bool := false
  dotMatchesNewline : Bool := false
  swapGreed : Bool := false
  unicode : Bool := true
  crlf : Bool := false
  extended : Bool := false
  deriving DecidableEq, Repr

namespace Flags

/-- The flags with the one that the letter names switched on or off. -/
def switch? (f : Flags) (on : Bool) : Char → Option Flags
  | 'i' => some { f with ignoreCase := on }
  | 'm' => some { f with multiLine := on }
  | 's' => some { f with dotMatchesNewline := on }
  | 'U' => some { f with swapGreed := on }
  | 'u' => some { f with unicode := on }
  | 'R' => some { f with crlf := on }
  | 'x' => some { f with extended := on }
  | _ => none

/-- Switches the flags that the letters name, in turn. -/
def switchAll? (f : Flags) (on : Bool) (letters : Text) : Option Flags :=
  letters.foldlM (fun f c => f.switch? on c) f

/-- Applies the letters between `(?` and `:` or `)`: those after a `-` are switched off. No
letter may come twice, and a `-` has a letter after it. -/
def withLetters? (f : Flags) (letters : Text) : Option Flags :=
  let on := letters.takeWhile (· != '-')
  match letters.dropWhile (· != '-') with
  | [] => if on.Nodup then f.switchAll? true on else none
  | _ :: off =>
    if (on ++ off).Nodup && !off.isEmpty then do (← f.switchAll? true on).switchAll? false off
    else none

/-- Drops blanks and comments; a comment goes from `#` to the end of its line. -/
def skipFrom : Bool → Text → Text
  | _, [] => []
  | true, c :: rest => skipFrom (c != '\n') rest
  | false, c :: rest =>
    if Unicode.isBlank c then skipFrom false rest
    else if c = '#' then skipFrom true rest
    else c :: rest

/-- Drops blanks and comments in the extended mode. -/
def skip (f : Flags) (t : Text) : Text := if f.extended then skipFrom false t else t

theorem length_skipFrom_le (inComment : Bool) (t : Text) :
    (skipFrom inComment t).length ≤ t.length := by
  induction t generalizing inComment with
  | nil => cases inComment <;> exact Nat.le_refl _
  | cons c rest ih =>
    have shorter : ∀ b, (skipFrom b rest).length ≤ (c :: rest).length := fun b =>
      Nat.le_trans (ih b) (Nat.le_succ _)
    cases inComment with
    | true => exact shorter _
    | false =>
      simp only [skipFrom]
      split
      · exact shorter _
      · split
        · exact shorter _
        · exact Nat.le_refl _

theorem length_skip_le (f : Flags) (t : Text) : (f.skip t).length ≤ t.length := by
  unfold skip
  split
  · exact length_skipFrom_le _ _
  · exact Nat.le_refl _

end Flags

end Backtrack.Pattern
