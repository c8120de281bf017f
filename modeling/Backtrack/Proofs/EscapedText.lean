import Backtrack.Parser.Apply
import Backtrack.Proofs.Slice
import Backtrack.Proofs.WhiteSpace

/-!
# Escaped text

A text in which each sign of the syntax has a backslash in front is read as an expression that
matches the text itself. So it is refused for its size only, and where it is accepted, the pattern
reads what a literal reads: `escaped_text_is_literal`.
-/

namespace Backtrack.Pattern

/-! ## Escapes -/

/-- The characters that stand for something else than themselves somewhere in an expression. -/
def signs : Text :=
  ['\\', '.', '+', '*', '?', '(', ')', '|', '[', ']', '{', '}', '^', '$', '#', '&', '-', '~']

/-- How a character is spelled in an expression. -/
def spelling (c : Char) : Text := if c ∈ signs then ['\\', c] else [c]

/-- The text with a backslash in front of each sign of the syntax. -/
def escape (t : Text) : Text := t.flatMap spelling

/-! ## Reading -/

/-- The piece for a character that stands for itself. -/
def Piece.char (c : Char) : Piece := ⟨.set (.single c), 0, false⟩

/-- The state of the reader when it has read the given pieces, the latest first, outside of groups
and with no flags set. -/
def ReaderState.after (pieces : List Piece) : ReaderState := { level := { pieces } }

namespace ReaderState

variable {c : Char} (pieces : List Piece) (rest : Text)

theorem step_sign (h : c ∈ signs) :
    (after pieces).step? '\\' (c :: rest) = some (after (.char c :: pieces), rest) := by
  simp only [signs, List.mem_cons, List.not_mem_nil, or_false] at h
  rcases h with rfl | rfl | rfl | rfl | rfl | rfl | rfl | rfl | rfl | rfl | rfl | rfl | rfl | rfl |
    rfl | rfl | rfl | rfl <;> rfl

theorem readSymbol_of_not_mem (h : c ∉ signs) : readSymbol {} c rest = some (.char c, rest) := by
  -- All characters that have a case of their own are signs.
  unfold readSymbol
  split
  · exact absurd (by decide) h
  · exact absurd (by decide) h
  · exact absurd (by decide) h
  · exact absurd (by decide) h
  · exact absurd (by decide) h
  · rfl

theorem step_of_not_mem (h : c ∉ signs) :
    (after pieces).step? c rest = some (after (.char c :: pieces), rest) := by
  unfold step?
  split
  · exact absurd (by decide) h
  · exact absurd (by decide) h
  · exact absurd (by decide) h
  · exact absurd (by decide) h
  · exact absurd (by decide) h
  · exact absurd (by decide) h
  · exact absurd (by decide) h
  · have symbol : readSymbol (after pieces).flags c rest = some (.char c, rest) :=
      readSymbol_of_not_mem rest h
    rw [symbol]
    rfl

/-- A character is read as itself, however it is spelled. -/
theorem read_spelling (c : Char) :
    (after pieces).read? (spelling c ++ rest) = (after (.char c :: pieces)).read? rest := by
  by_cases h : c ∈ signs
  · simp only [spelling, h, ↓reduceIte]
    exact read_of_step rfl (step_sign pieces rest h) (Nat.le_add_right _ 1)
  · simp only [spelling, h, ↓reduceIte]
    exact read_of_step rfl (step_of_not_mem pieces rest h) (Nat.lt_succ_self _)

theorem read_escape (t : Text) :
    (after pieces).read? (escape t) = (after ((t.map .char).reverse ++ pieces)).read? [] := by
  induction t generalizing pieces with
  | nil => rfl
  | cons c t ih =>
    rw [escape, List.flatMap_cons, read_spelling, ← escape, ih, List.map_cons, List.reverse_cons,
      List.append_assoc, List.singleton_append]

end ReaderState

/-! ## The sequence -/

namespace Level

theorem sequence_depth_le (l : Level) : l.sequence.depth ≤ deepest l.pieces + 1 := by
  unfold sequence
  split
  · exact Nat.zero_le _
  · rename_i same
    simp [same, deepest]
  · exact Nat.le_refl _

/-- A sequence without directives consists of all its pieces. -/
theorem sequence_expr {l : Level} (h : ∀ p ∈ l.pieces, p.directive = false) :
    l.sequence.expr = .concatAll (l.pieces.map (·.expr)).reverse := by
  unfold sequence
  split
  · rename_i same
    rw [same]
    rfl
  · rename_i p same
    rw [same]
    rfl
  · have all : l.pieces.filter (!·.directive) = l.pieces :=
      List.filter_eq_self.mpr fun p hp => by rw [h p hp, Bool.not_false]
    rw [all]

end Level

theorem deepest_chars (t : Text) : Level.deepest (t.map .char) = 0 := by
  induction t with
  | nil => rfl
  | cons c t ih => exact ih

theorem finish_chars (t : Text) :
    (ReaderState.after (t.map .char).reverse).finish? = some (.literal t) := by
  have closed : (ReaderState.after (t.map .char).reverse).level.close =
      (ReaderState.after (t.map .char).reverse).level.sequence := rfl
  have depth : (ReaderState.after (t.map .char).reverse).level.sequence.depth ≤ maxDepth := by
    apply Nat.le_trans (Level.sequence_depth_le _)
    rw [ReaderState.after, ← List.map_reverse, deepest_chars]
    decide
  have chars : ∀ p ∈ (t.map Piece.char).reverse, p.directive = false := by
    intro p hp
    obtain ⟨c, -, rfl⟩ := List.mem_map.mp (List.mem_reverse.mp hp)
    rfl
  have expr : (ReaderState.after (t.map .char).reverse).level.sequence.expr = .literal t := by
    rw [Level.sequence_expr chars, ReaderState.after, List.map_reverse, List.reverse_reverse,
      List.map_map]
    rfl
  simp only [ReaderState.finish?, closed, depth, expr, ↓reduceIte]
  rfl

/-- An escaped text spells the expression that matches the text. -/
theorem read_escaped (t : Text) : Expr.read? (escape t) = some (.literal t) := by
  have read : Expr.read? (escape t) = (ReaderState.after (t.map .char).reverse).read? [] := by
    rw [← List.append_nil (t.map Piece.char).reverse]
    exact ReaderState.read_escape [] t
  rw [read, ReaderState.read?]
  exact finish_chars t

/-- An escaped text is a pattern if its automata are small enough, and else it is too large. -/
theorem ofText_escape (t : Text) : ofText? (escape t) =
    if (Expr.literal t).isSmall then .ok { expr := .literal t } else .error (.tooLarge (escape t)) := by
  simp only [ofText?, read_escaped]

/-- The pattern matches the text at the start, and nothing else. -/
theorem split_literal (t u : Text) :
    ({ expr := .literal t } : Pattern).split u = (stripStart t u).map (t, ·) := by
  cases h : stripStart t u with
  | none =>
    rw [split_of_fails (fails_literal h)]
    rfl
  | some rest =>
    have matched := split_of_matches (p := { expr := .literal t }) (t := u) (n := t.length)
      fun seen _ => by rw [search_literal h]; rfl
    obtain rfl := append_of_stripStart h
    rw [matched, List.take_left, List.drop_left]
    rfl

end Backtrack.Pattern

namespace Backtrack

theorem stripStart_of_not_prefix {t u : Text} (h : ¬t <+: u) : stripStart t u = none := by
  cases stripped : stripStart t u with
  | none => rfl
  | some rest => exact absurd ⟨rest, append_of_stripStart stripped⟩ h

theorem Parser.run_literal (t u : Text) :
    (Parser.literal t).run u = .ok ((stripStart t u).map (t, ·)).toList := rfl

/-- **A pattern that is an escaped text reads what a literal reads.** A text with a backslash in
front of each sign of the syntax spells a pattern, unless its automata are too large, which is the
only error. The pattern does what the literal does for every debugger and in every scope. So the two
have the same run on every input: with one candidate, which leaves what is behind the text, if the
input starts with it, and with none otherwise. -/
theorem escaped_text_is_literal (t : Text) :
    (∀ e, Pattern.ofText? (Pattern.escape t) = .error e → e = .tooLarge (Pattern.escape t)) ∧
    ∀ p, Pattern.ofText? (Pattern.escape t) = .ok p →
      (∀ {σ : Type} {Γ : Scopes} (d : Debugger σ) (depth : Nat) (s : Store σ Γ),
        (Parser.pattern p).behaviour d depth s = (Parser.literal t).behaviour d depth s) ∧
      ∀ u, (Parser.pattern p).run u = (Parser.literal t).run u ∧
        (∀ rest, u = t ++ rest → (Parser.pattern p).run u = .ok [(t, rest)]) ∧
        (¬t <+: u → (Parser.pattern p).run u = .ok []) := by
  rw [Pattern.ofText_escape]
  split
  · constructor
    · intro e refused
      cases refused
    · intro p accepted
      cases accepted
      have same {σ : Type} {Γ : Scopes} (d : Debugger σ) (depth : Nat) (s : Store σ Γ) :
          (Parser.pattern { expr := .literal t }).behaviour d depth s =
            (Parser.literal t).behaviour d depth s :=
        congrArg Behaviour.split (funext (Pattern.split_literal t))
      have reads (u : Text) :
          (Parser.pattern { expr := .literal t }).run u = (Parser.literal t).run u := by
        rw [Parser.run, Parser.run, Parser.runWith, Parser.runWith, same]
      refine ⟨same, fun u => ⟨reads u, ?_, ?_⟩⟩
      · rintro rest rfl
        rw [reads, Parser.run_literal, stripStart_append]
        rfl
      · intro other
        rw [reads, Parser.run_literal, stripStart_of_not_prefix other]
        rfl
  · constructor
    · intro e refused
      cases refused
      rfl
    · intro p accepted
      cases accepted

theorem escaped_text_is_literal_dot :
    Pattern.escape ['日', '.'] = ['日', '\\', '.'] ∧
    ∃ p, Pattern.ofText? ['日', '\\', '.'] = .ok p ∧
      (Parser.pattern p).run ['日', '.', 'a'] = .ok [(['日', '.'], ['a'])] ∧
      (Parser.pattern p).run ['日', 'a'] = .ok [] := by
  have escaped : Pattern.escape ['日', '.'] = ['日', '\\', '.'] := by decide
  have small : (Pattern.Expr.literal ['日', '.']).isSmall = true := by decide +kernel
  have accepted : Pattern.ofText? (Pattern.escape ['日', '.']) =
      .ok { expr := .literal ['日', '.'] } := by
    rw [Pattern.ofText_escape, small]
    rfl
  obtain ⟨-, reads⟩ := (escaped_text_is_literal ['日', '.']).2 _ accepted
  exact ⟨escaped, _, escaped ▸ accepted, (reads _).2.1 ['a'] rfl, (reads _).2.2 (by decide)⟩

end Backtrack
