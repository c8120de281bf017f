import Backtrack.Text.Grapheme
import Mathlib.Data.List.DropRight

/-!
# The rules for grapheme clusters

Whether the next character is joined to a text is for the first rule to say that applies. A rule may
look at all of the text before: at a run of regional indicators and how many there are, at a
pictograph with marks and a joiner, at a consonant with its linkers. The state that is kept while
a text is read knows as much: `joins_iff`. And where a text is cut, the rules need not look back
over the cut from then on: `joined_append_of_cut`.
-/

namespace Backtrack.Grapheme

/-- A rule joins the next character to a text, or cuts in front of it. -/
structure Rule where
  applies : List Kind → Kind → Prop
  joins : Bool

/-- What the first rule that applies decides. Without one, the text is cut. -/
def Decided : List Rule → List Kind → Kind → Prop
  | [], _, _ => False
  | rule :: rules, before, k =>
    (rule.applies before k → rule.joins) ∧ (¬rule.applies before k → Decided rules before k)

/-- The text ends with a base and marks on it. -/
def Trails (base : Kind) (mark : Kind → Bool) (before : List Kind) : Prop :=
  ∃ start marks, before = start ++ base :: marks ∧ ∀ m ∈ marks, mark m

/-- The text ends with a pictograph, marks and a joiner. -/
def EndsWithEmoji (before : List Kind) : Prop :=
  ∃ front, before = front ++ [.joiner] ∧ Trails .pictograph Kind.extends front

/-- A mark that may stand between consonants that are linked. -/
def Kind.conjoins : Kind → Bool
  | linker | extender | joiner => true
  | _ => false

/-- The text ends with a consonant and marks, one of which is a linker. -/
def EndsWithConjunct (before : List Kind) : Prop :=
  ∃ start marks, before = start ++ .consonant :: marks ∧ (∀ m ∈ marks, m.conjoins) ∧ .linker ∈ marks

/-- The text ends with an odd number of regional indicators, with no other one in front of them. -/
def EndsWithHalfFlag (before : List Kind) : Prop :=
  ∃ start n, before = start ++ List.replicate (2 * n + 1) .regional ∧
    ∀ j ∈ start.getLast?, j ≠ .regional

/-- The rules for extended grapheme clusters, in the order in which they are tried. -/
def rules : List Rule := [
  -- GB3 to GB5. A carriage return and a line feed are one line break, and controls stand alone.
  ⟨fun before k => before.getLast? = some .carriageReturn ∧ k = .lineFeed, true⟩,
  ⟨fun before _ => ∃ j ∈ before.getLast?, j.breaks, false⟩,
  ⟨fun _ k => k.breaks, false⟩,
  -- GB6 to GB8. The letters of a Hangul syllable.
  ⟨fun before k => before.getLast? = some .hangulL ∧
    (k = .hangulL ∨ k = .hangulV ∨ k = .hangulLV ∨ k = .hangulLVT), true⟩,
  ⟨fun before k => (before.getLast? = some .hangulLV ∨ before.getLast? = some .hangulV) ∧
    (k = .hangulV ∨ k = .hangulT), true⟩,
  ⟨fun before k => (before.getLast? = some .hangulLVT ∨ before.getLast? = some .hangulT) ∧
    k = .hangulT, true⟩,
  -- GB9, GB9a and GB9b. Marks and joiners, marks that take space, and what stands in front.
  ⟨fun _ k => k.extends ∨ k = .joiner, true⟩,
  ⟨fun _ k => k = .spacingMark, true⟩,
  ⟨fun before _ => before.getLast? = some .prepended, true⟩,
  -- GB9c, GB11, GB12 and GB13. Linked consonants, joined pictographs, the two halves of a flag.
  ⟨fun before k => EndsWithConjunct before ∧ k = .consonant, true⟩,
  ⟨fun before k => EndsWithEmoji before ∧ k = .pictograph, true⟩,
  ⟨fun before k => EndsWithHalfFlag before ∧ k = .regional, true⟩]

/-- The rules join the character to the text before it. -/
def Joined (before : List Kind) (k : Kind) : Prop := Decided rules before k

/-! ## What a text ends with, after one more character -/

variable {before : List Kind} {k : Kind}

/-- The last character is the base, or else one of the marks on it. -/
theorem cases_of_concat_eq {start marks : List Kind} {base : Kind}
    (h : before ++ [k] = start ++ base :: marks) :
    (marks = [] ∧ before = start ∧ k = base) ∨
      ∃ front, marks = front ++ [k] ∧ before = start ++ base :: front := by
  rcases List.eq_nil_or_concat' marks with rfl | ⟨front, m, rfl⟩
  · obtain ⟨same, he⟩ := List.append_inj' h rfl
    exact .inl ⟨rfl, same, List.singleton_inj.mp he⟩
  · rw [← List.cons_append, ← List.append_assoc] at h
    obtain ⟨same, he⟩ := List.append_inj' h rfl
    exact .inr ⟨front, congrArg (front ++ ·) he.symm, same⟩

theorem trails_concat {base : Kind} {mark : Kind → Bool} :
    Trails base mark (before ++ [k]) ↔ k = base ∨ mark k ∧ Trails base mark before := by
  constructor
  · rintro ⟨start, marks, h, hm⟩
    rcases cases_of_concat_eq h with ⟨-, -, same⟩ | ⟨front, rfl, rfl⟩
    · exact .inl same
    · obtain ⟨hm, hk⟩ := List.forall_mem_append.mp hm
      exact .inr ⟨hk k List.mem_cons_self, start, front, rfl, hm⟩
  · rintro (rfl | ⟨hk, start, marks, rfl, hm⟩)
    · exact ⟨before, [], rfl, nofun⟩
    · refine ⟨start, marks ++ [k], List.append_assoc start _ _, ?_⟩
      exact List.forall_mem_append.mpr ⟨hm, List.forall_mem_singleton.mpr hk⟩

theorem endsWithEmoji_concat :
    EndsWithEmoji (before ++ [k]) ↔ k = .joiner ∧ Trails .pictograph Kind.extends before := by
  constructor
  · rintro ⟨front, h, trails⟩
    obtain ⟨rfl, he⟩ := List.append_inj' h rfl
    exact ⟨List.singleton_inj.mp he, trails⟩
  · rintro ⟨rfl, trails⟩
    exact ⟨before, rfl, trails⟩

theorem EndsWithConjunct.trails (h : EndsWithConjunct before) :
    Trails .consonant Kind.conjoins before := by
  obtain ⟨start, marks, he, hm, -⟩ := h
  exact ⟨start, marks, he, hm⟩

theorem endsWithConjunct_concat : EndsWithConjunct (before ++ [k]) ↔
    k.conjoins ∧
      (EndsWithConjunct before ∨ k = .linker ∧ Trails .consonant Kind.conjoins before) := by
  constructor
  · rintro ⟨start, marks, h, hm, linked⟩
    rcases cases_of_concat_eq h with ⟨rfl, -, -⟩ | ⟨front, rfl, rfl⟩
    · cases linked
    · obtain ⟨hm, hk⟩ := List.forall_mem_append.mp hm
      refine ⟨hk k List.mem_cons_self, ?_⟩
      rcases List.mem_append.mp linked with linked | here
      · exact .inl ⟨start, front, rfl, hm, linked⟩
      · exact .inr ⟨(List.mem_singleton.mp here).symm, start, front, rfl, hm⟩
  · rintro ⟨hk, ⟨start, marks, rfl, hm, linked⟩ | ⟨linked, start, marks, rfl, hm⟩⟩
    all_goals
      refine ⟨start, marks ++ [k], List.append_assoc start _ _, ?_, ?_⟩
      · exact List.forall_mem_append.mpr ⟨hm, List.forall_mem_singleton.mpr hk⟩
    · exact List.mem_append_left _ linked
    · exact List.mem_append_right marks (linked ▸ List.mem_cons_self)

/-- The regional indicators at the end of a text. -/
def regionals (before : List Kind) : List Kind := before.rtakeWhile (fun k => k = .regional)

theorem regionals_append_replicate {start : List Kind} (h : ∀ j ∈ start.getLast?, j ≠ .regional)
    (n : Nat) : regionals (start ++ List.replicate n .regional) = List.replicate n .regional := by
  induction n with
  | zero =>
    rw [List.replicate_zero, List.append_nil, regionals, List.rtakeWhile_eq_nil_iff]
    exact fun hne => by simpa using h _ (List.getLast_mem_getLast? hne)
  | succ n ih =>
    rw [List.replicate_succ', ← List.append_assoc, regionals,
      List.rtakeWhile_concat_pos _ _ _ (by simp)]
    exact congrArg (· ++ [.regional]) ih

theorem exists_append_regionals (before : List Kind) :
    ∃ start, before = start ++ List.replicate (regionals before).length .regional ∧
      ∀ j ∈ start.getLast?, j ≠ .regional := by
  have all : regionals before = List.replicate (regionals before).length .regional :=
    List.eq_replicate_of_mem fun k h => by simpa using List.mem_rtakeWhile_imp h
  refine ⟨before.rdropWhile (fun k => k = .regional), ?_, fun j hj => ?_⟩
  · rw [← all]
    exact List.rdropWhile_append_rtakeWhile.symm
  · obtain ⟨hne, rfl⟩ := List.mem_getLast?_eq_getLast hj
    simpa using List.rdropWhile_last_not (fun k => decide (k = .regional)) before hne

theorem endsWithHalfFlag_iff : EndsWithHalfFlag before ↔ (regionals before).length % 2 = 1 := by
  constructor
  · rintro ⟨start, n, rfl, h⟩
    rw [regionals_append_replicate h, List.length_replicate]
    omega
  · intro odd
    obtain ⟨start, he, h⟩ := exists_append_regionals before
    refine ⟨start, (regionals before).length / 2, ?_, h⟩
    rwa [show 2 * ((regionals before).length / 2) + 1 = (regionals before).length by omega]

theorem endsWithHalfFlag_concat :
    EndsWithHalfFlag (before ++ [k]) ↔ k = .regional ∧ ¬EndsWithHalfFlag before := by
  rw [endsWithHalfFlag_iff, endsWithHalfFlag_iff]
  by_cases hk : k = .regional
  · have one_more : regionals (before ++ [k]) = regionals before ++ [k] :=
      List.rtakeWhile_concat_pos _ _ _ (decide_eq_true hk)
    rw [one_more, List.length_append, List.length_singleton]
    simp only [hk, true_and]
    omega
  · have none : regionals (before ++ [k]) = [] :=
      List.rtakeWhile_concat_neg _ _ _ (by simpa using hk)
    simp only [none, hk, false_and, List.length_nil, Nat.zero_mod, Nat.zero_ne_one]

/-! ## What is kept of a text -/

/-- The context knows of the text before it what the rules ask. -/
structure Context.Tells (c : Context) (before : List Kind) : Prop where
  last : c.last = before.getLast?.getD .other
  halfFlag : c.oddRegionals ↔ EndsWithHalfFlag before
  pictograph : c.emoji = .base ↔ Trails .pictograph Kind.extends before
  emoji : c.emoji = .linked ↔ EndsWithEmoji before
  consonant : c.conjunct ≠ .none ↔ Trails .consonant Kind.conjoins before
  conjunct : c.conjunct = .linked ↔ EndsWithConjunct before

/-- The context of a text, from its start. -/
def contextOf (before : List Kind) : Context :=
  before.foldl Context.after ⟨.other, false, .none, .none⟩

theorem contextOf_concat (before : List Kind) (k : Kind) :
    contextOf (before ++ [k]) = (contextOf before).after k := List.foldl_concat ..

namespace Context.Tells

variable {c : Context}

theorem emojiAfter_base (h : c.Tells before) :
    c.emojiAfter k = .base ↔ Trails .pictograph Kind.extends (before ++ [k]) := by
  rw [trails_concat, ← h.pictograph, emojiAfter]
  cases k <;> cases c.emoji <;> simp [Kind.extends]

theorem emojiAfter_linked (h : c.Tells before) :
    c.emojiAfter k = .linked ↔ EndsWithEmoji (before ++ [k]) := by
  rw [endsWithEmoji_concat, ← h.pictograph, emojiAfter]
  cases k <;> cases c.emoji <;> simp [Kind.extends]

theorem conjunctAfter_read (h : c.Tells before) :
    c.conjunctAfter k ≠ .none ↔ Trails .consonant Kind.conjoins (before ++ [k]) := by
  rw [trails_concat, ← h.consonant, conjunctAfter]
  cases k <;> cases c.conjunct <;> simp [Kind.conjoins]

theorem conjunctAfter_linked (h : c.Tells before) :
    c.conjunctAfter k = .linked ↔ EndsWithConjunct (before ++ [k]) := by
  rw [endsWithConjunct_concat, ← h.consonant, ← h.conjunct, conjunctAfter]
  cases k <;> cases c.conjunct <;> simp [Kind.conjoins]

/-- One more character is told as well. -/
theorem after (h : c.Tells before) (k : Kind) : (c.after k).Tells (before ++ [k]) where
  last := by rw [List.getLast?_concat]; rfl
  halfFlag := by
    rw [endsWithHalfFlag_concat, ← h.halfFlag]
    simp [Context.after]
  pictograph := h.emojiAfter_base
  emoji := h.emojiAfter_linked
  consonant := h.conjunctAfter_read
  conjunct := h.conjunctAfter_linked

end Context.Tells

theorem not_trails_nil {base : Kind} {mark : Kind → Bool} : ¬Trails base mark [] := by
  rintro ⟨start, marks, h, -⟩
  exact List.append_ne_nil_of_right_ne_nil start (List.cons_ne_nil base marks) h.symm

theorem contextOf_nil_tells : (contextOf []).Tells [] where
  last := rfl
  halfFlag := by simp [contextOf, endsWithHalfFlag_iff, regionals]
  pictograph := iff_of_false nofun not_trails_nil
  emoji := iff_of_false nofun fun ⟨front, h, _⟩ => List.concat_ne_nil .joiner front h.symm
  consonant := iff_of_false (fun h => h rfl) not_trails_nil
  conjunct := iff_of_false nofun fun h => not_trails_nil h.trails

/-- What is kept while a text is read is what the rules ask of it. -/
theorem contextOf_tells (before : List Kind) : (contextOf before).Tells before := by
  induction before using List.reverseRecOn with
  | nil => exact contextOf_nil_tells
  | append_singleton before k ih =>
    rw [contextOf_concat]
    exact ih.after k

/-! ## What the rules decide -/

theorem decided_nil : Decided [] before k ↔ False := Iff.rfl

/-- A rule that cuts keeps the rules behind it from the characters to which it applies. -/
theorem decided_cons_of_cuts {rule : Rule} {rules : List Rule} (h : rule.joins = false) :
    Decided (rule :: rules) before k ↔ ¬rule.applies before k ∧ Decided rules before k := by
  by_cases applies : rule.applies before k <;> simp [Decided, h, applies]

/-- A rule that joins does so whatever the rules behind it say. -/
theorem decided_cons_of_joins {rule : Rule} {rules : List Rule} (h : rule.joins) :
    Decided (rule :: rules) before k ↔ rule.applies before k ∨ Decided rules before k := by
  by_cases applies : rule.applies before k <;> simp [Decided, h, applies]

theorem hangulJoins_iff {j k : Kind} : j.hangulJoins k ↔
    (j = .hangulL ∧ (k = .hangulL ∨ k = .hangulV ∨ k = .hangulLV ∨ k = .hangulLVT)) ∨
    ((j = .hangulLV ∨ j = .hangulV) ∧ (k = .hangulV ∨ k = .hangulT)) ∨
    ((j = .hangulLVT ∨ j = .hangulT) ∧ k = .hangulT) := by
  cases j <;> cases k <;> decide

/-- The tests of the state, without their order. -/
theorem Context.joins_eq_true_iff {c : Context} : c.joins k ↔
    (c.last = .carriageReturn ∧ k = .lineFeed) ∨
    ¬c.last.breaks ∧ ¬k.breaks ∧ (c.last.hangulJoins k ∨ (k.extends ∨ k = .joiner) ∨
      k = .spacingMark ∨ c.last = .prepended ∨ (c.conjunct = .linked ∧ k = .consonant) ∨
      (c.emoji = .linked ∧ k = .pictograph) ∨ (c.oddRegionals ∧ k = .regional)) := by
  unfold Context.joins
  split_ifs <;> grind

namespace Context.Tells

variable {c : Context}

theorem getLast?_eq_iff (h : c.Tells before) {j : Kind} (hj : j ≠ .other) :
    before.getLast? = some j ↔ c.last = j := by
  rw [h.last]
  cases before.getLast? with
  | none => simpa using hj.symm
  | some i => simp

theorem last_breaks_iff (h : c.Tells before) :
    (∃ j ∈ before.getLast?, j.breaks) ↔ c.last.breaks := by
  rw [h.last]
  cases before.getLast? with
  | none => simp [Kind.breaks]
  | some i => simp

end Context.Tells

/-- The state decides as the rules do. -/
theorem joins_iff {c : Context} (h : c.Tells before) : c.joins k ↔ Joined before k := by
  simp only [Joined, rules, decided_nil, decided_cons_of_joins, decided_cons_of_cuts, or_false,
    h.getLast?_eq_iff, h.last_breaks_iff, ← h.halfFlag, ← h.emoji, ← h.conjunct,
    ne_eq, reduceCtorEq, not_false_eq_true]
  rw [Context.joins_eq_true_iff, hangulJoins_iff]
  simp only [or_assoc]

/-! ## Behind a cut -/

namespace Context.Tells

variable {c : Context}

/-- Where a rule looks back further than to the last character, this is not a control. -/
theorem last_breaks_eq_false (h : c.Tells before)
    (reach : c.oddRegionals ∨ c.emoji = .base ∨ c.conjunct ≠ .none) : c.last.breaks = false := by
  rw [h.halfFlag, h.pictograph, h.consonant] at reach
  rw [h.last]
  rcases List.eq_nil_or_concat' before with rfl | ⟨front, j, rfl⟩
  · rfl
  · rw [endsWithHalfFlag_concat, trails_concat, trails_concat] at reach
    rw [List.getLast?_concat, Option.getD_some]
    rcases reach with ⟨rfl, -⟩ | (rfl | ⟨mark, -⟩) | (rfl | ⟨mark, -⟩)
    · rfl
    · rfl
    · cases j <;> first | rfl | cases mark
    · rfl
    · cases j <;> first | rfl | cases mark

/-- Behind what a rule looks further back for, there is no cut in front of a mark or a joiner. -/
theorem unmarked_of_cut (h : c.Tells before) (cut : ¬Joined before k)
    (reach : c.oddRegionals ∨ c.emoji = .base ∨ c.conjunct ≠ .none) :
    k.extends = false ∧ k ≠ .joiner := by
  rw [← joins_iff h, Context.joins_eq_true_iff] at cut
  have goesOn := h.last_breaks_eq_false reach
  cases k <;> simp_all [Kind.extends, Kind.breaks]

theorem complete_of_cut (h : c.Tells before) (cut : ¬Joined before .regional) :
    c.oddRegionals = false := by
  rw [← joins_iff h, Context.joins_eq_true_iff] at cut
  by_contra half
  have odd : c.oddRegionals = true := by simpa using half
  have goesOn : ¬c.last.breaks := Bool.eq_false_iff.mp (h.last_breaks_eq_false (.inl odd))
  exact cut (.inr ⟨goesOn, nofun, by simp [odd]⟩)

/-- The context behind a cut is that of the first character of a text. -/
theorem after_eq_first_of_cut (h : c.Tells before) (cut : ¬Joined before k) :
    c.after k = .first k := by
  have emoji : c.emojiAfter k = if k = .pictograph then .base else .none := by
    by_cases base : c.emoji = .base
    · obtain ⟨mark, joiner⟩ := h.unmarked_of_cut cut (.inr (.inl base))
      simp [Context.emojiAfter, base, mark, joiner]
    · simp [Context.emojiAfter, base]
  have conjunct : c.conjunctAfter k = if k = .consonant then .base else .none := by
    by_cases none : c.conjunct = .none
    · simp [Context.conjunctAfter, none]
    · have unmarked := h.unmarked_of_cut cut (.inr (.inr none))
      cases k <;> simp_all [Context.conjunctAfter, Kind.extends]
  have half : (k = .regional && !c.oddRegionals) = decide (k = .regional) := by
    by_cases regional : k = .regional
    · subst k
      simp [h.complete_of_cut cut]
    · simp [regional]
  rw [Context.first, Context.after, emoji, conjunct, half]
  simp [Context.after, Context.emojiAfter, Context.conjunctAfter]

end Context.Tells

theorem contextOf_append_of_cut (cut : ¬Joined before k) (more : List Kind) :
    contextOf (before ++ k :: more) = contextOf (k :: more) := by
  rw [contextOf, List.foldl_append, List.foldl_cons]
  exact congrArg (more.foldl Context.after ·) ((contextOf_tells before).after_eq_first_of_cut cut)

/-- **No rule looks back over a cut.** -/
theorem joined_append_of_cut (cut : ¬Joined before k) (more : List Kind) (j : Kind) :
    Joined (before ++ k :: more) j ↔ Joined (k :: more) j := by
  rw [← joins_iff (contextOf_tells _), ← joins_iff (contextOf_tells _),
    contextOf_append_of_cut cut]

end Backtrack.Grapheme
