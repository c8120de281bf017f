import Backtrack.Calculator.Grammar
import Backtrack.Proofs.Scan
import Backtrack.Proofs.Slice
import Backtrack.Proofs.WordCharacter

/-!
# The lexemes of the calculator

What the patterns for numerals, names and the word `let` match: runs of digits and of name
characters as long as they can be, and the word `let` where no word goes on behind it.
-/

namespace Backtrack

namespace Calculator.Lexeme

open CharSet Pattern Unicode

theorem digit_contains (c : Char) : digit.contains c = c.isDigit := by
  simp only [digit, CharSet.range, CharSet.contains, CharSet.hasCode, List.any_cons, List.any_nil,
    Bool.or_false, range_contains, Char.isDigit]

theorem nameStart_contains (c : Char) : nameStart.contains c = (c.isAlpha || c == '_') := by
  have low : (⟨'_'.toNat, '_'.toNat⟩ : CodeRange).contains c.toNat = (c == '_') := by
    rw [← single_contains]
    simp only [CharSet.single, CharSet.range, CharSet.contains, CharSet.hasCode, List.any_cons,
      List.any_nil, Bool.or_false]
  simp only [nameStart, CharSet.contains, CharSet.hasCode, List.any_cons, List.any_nil,
    Bool.or_false, low, range_contains, isAlpha_eq, Bool.decide_and]
  rw [Bool.or_comm (c == '_'), Bool.or_assoc]

theorem nameRest_contains (c : Char) : nameRest.contains c = isAsciiWordCharacter c := by
  have parts : nameRest.contains c = (digit.contains c || nameStart.contains c) := by
    simp only [nameRest, CharSet.contains, CharSet.hasCode, List.any_append]
  rw [parts, digit_contains, nameStart_contains, isAsciiWordCharacter, Char.isAlphanum,
    ← Bool.or_assoc, Bool.or_comm c.isDigit]

/-! ## Names -/

theorem name_split_cons {c : Char} (hc : nameStart.contains c) (t : Text) :
    name.split (c :: t) = some (c :: t.takeWhile isAsciiWordCharacter,
      t.dropWhile isAsciiWordCharacter) := by
  have expr : name.expr = .concat (.set nameStart) (.repetition 0 none true (.set nameRest)) := rfl
  have start : ((Place.start (c :: t)).rest.head?.any nameStart.contains) := hc
  have matched : ((name.expr.plan 0).search ((c :: t).length + 1) .found (.start (c :: t))).Matches 0
      (.start (c :: t))
      ((Place.start (c :: t)).forward (1 + ((Place.start (c :: t)).forward 1).run nameRest)) := by
    intro seen free
    have enough : ((Place.start (c :: t)).forward 1).rest.length ≤ (c :: t).length + 1 := by
      simp only [Place.forward_rest, Place.start, List.length_drop, List.length_cons]
      omega
    rw [expr, search_concat, plan_set, search_set start, ← Place.forward_forward]
    exact matches_star enough (fun _ _ => rfl) seen (free.later (Nat.le_refl _) (by simp))
  have rest := take_run t nameRest
  have whole : nameRest.contains = isAsciiWordCharacter := funext nameRest_contains
  rw [whole] at rest
  rw [split_of_matches matched, Nat.add_comm]
  exact congrArg (fun x => some (c :: x.1, x.2)) rest

theorem name_split_of_stops {t : Text} (h : Stops nameStart.contains t) : name.split t = none := by
  have expr : name.expr = .concat (.set nameStart) (.repetition 0 none true (.set nameRest)) := rfl
  apply split_of_fails
  rw [expr, search_concat, plan_set]
  apply fails_set
  cases t with
  | nil => rfl
  | cons c t => exact h c rfl

/-! ## Numerals -/

section

variable {ds fs rest : Text} {id visits : Nat} {p q : Place} {next : Continuation}

/-- The digits at a place are taken, if what comes after them matches. -/
theorem matches_digits (hp : p.rest = ds ++ rest) (hne : ds ≠ []) (hd : ∀ c ∈ ds, c.isDigit)
    (stop : Stops Char.isDigit rest) (enough : p.rest.length ≤ visits)
    (h : (next (p.forward ds.length)).Matches (id + 1) (p.forward ds.length) q) :
    ((Plan.again id true (.set digit)).search visits next p).Matches id p q := by
  have same : digit.contains = Char.isDigit := funext digit_contains
  have run : p.run digit = ds.length := run_of_append hp (same ▸ hd) (same ▸ stop)
  have start : p.rest.head?.any digit.contains := by
    obtain ⟨c, ds, rfl⟩ := List.exists_cons_of_ne_nil hne
    rw [hp, same]
    exact hd c List.mem_cons_self
  apply matches_again enough start
  rw [run]
  exact h

theorem fails_digits (h : Stops Char.isDigit p.rest) :
    ((Plan.again id true (.set digit)).search visits next p).Fails := by
  have same : digit.contains = Char.isDigit := funext digit_contains
  exact fails_again (Stops.head_any (same ▸ h)) true

/-- A point with digits behind it, or nothing. -/
def fraction (id : Nat) : Plan :=
  .choose id (.seq (.seq (.set (.single '.')) (.again (id + 1) true (.set digit))) .empty) .empty

theorem search_fraction : (fraction id).search visits next p = .once id p (.orElse
    ((Plan.set (.single '.')).search visits
      ((Plan.again (id + 1) true (.set digit)).search visits next) p) (next p)) := rfl

theorem matches_fraction (hp : p.rest = '.' :: (fs ++ rest)) (hne : fs ≠ [])
    (hf : ∀ c ∈ fs, c.isDigit) (stop : Stops Char.isDigit rest) (enough : p.rest.length ≤ visits)
    (h : (next (p.forward (1 + fs.length))).Matches (id + 2) (p.forward (1 + fs.length)) q) :
    ((fraction id).search visits next p).Matches id p q := by
  intro seen free
  have dot : p.rest.head?.any (CharSet.single '.').contains := by
    rw [hp]
    rfl
  have left : (p.forward 1).rest = fs ++ rest := by
    rw [Place.forward_rest, hp, List.drop_one, List.tail_cons]
  have fewer : (p.forward 1).rest.length ≤ visits := by
    rw [Place.forward_rest, List.length_drop]
    omega
  rw [← Place.forward_forward] at h
  rw [search_fraction, Search.once_of_free free, search_set dot]
  apply Search.orElse_of_some
  refine matches_digits left hne hf stop fewer h _ (free.insert (Nat.le_succ _) ?_ (.inl ?_))
  · simp
  · exact Nat.lt_succ_self _

theorem matches_no_fraction (hp : ∀ u, p.rest = '.' :: u → Stops Char.isDigit u)
    (h : (next p).Matches (id + 1) p q) : ((fraction id).search visits next p).Matches id p q := by
  intro seen free
  have fails : ((Plan.set (.single '.')).search visits
      ((Plan.again (id + 1) true (.set digit)).search visits next) p).Fails := by
    by_cases dot : p.rest.head?.any (CharSet.single '.').contains
    · rw [search_set dot]
      apply fails_digits
      obtain ⟨previous, _ | ⟨c, u⟩, offset⟩ := p
      · cases dot
      · have : (CharSet.single '.').contains c := dot
        rw [single_contains, beq_iff_eq] at this
        exact hp u (this ▸ rfl)
    · exact fails_set (Bool.eq_false_iff.mpr dot)
  rw [search_fraction, Search.once_of_free free, Search.orElse_of_fails fails]
  exact h _ (free.insert (Nat.le_succ _) (Nat.le_refl _) (.inl (Nat.lt_succ_self _)))

end

theorem numeral_plan : numeral.expr.plan 0 = .seq (.again 0 true (.set digit)) (fraction 1) := rfl

variable {ds fs rest : Text}

/-- A numeral without a point. What follows is no further digit, and no point with a digit. -/
theorem numeral_split_whole (hne : ds ≠ []) (hd : ∀ c ∈ ds, c.isDigit)
    (stop : Stops Char.isDigit rest) (point : ∀ u, rest = '.' :: u → Stops Char.isDigit u) :
    numeral.split (ds ++ rest) = some (ds, rest) := by
  have matched : ((numeral.expr.plan 0).search ((ds ++ rest).length + 1) .found
      (.start (ds ++ rest))).Matches 0 (.start (ds ++ rest))
      ((Place.start (ds ++ rest)).forward ds.length) := by
    rw [numeral_plan, search_seq]
    refine matches_digits rfl hne hd stop (Nat.le_succ _)
      (matches_no_fraction ?_ fun _ _ => rfl)
    simpa [Place.start] using point
  rw [split_of_matches matched, List.take_left, List.drop_left]

theorem numeral_split_fraction (hne : ds ≠ []) (hd : ∀ c ∈ ds, c.isDigit) (hne' : fs ≠ [])
    (hf : ∀ c ∈ fs, c.isDigit) (stop : Stops Char.isDigit rest) :
    numeral.split (ds ++ '.' :: fs ++ rest) = some (ds ++ '.' :: fs, rest) := by
  have point : Stops Char.isDigit ('.' :: (fs ++ rest)) := by
    rintro _ ⟨⟩
    rfl
  have matched : ((numeral.expr.plan 0).search ((ds ++ '.' :: fs ++ rest).length + 1) .found
      (.start (ds ++ '.' :: fs ++ rest))).Matches 0 (.start (ds ++ '.' :: fs ++ rest))
      ((Place.start (ds ++ '.' :: fs ++ rest)).forward (ds ++ '.' :: fs).length) := by
    have whole : (ds ++ '.' :: fs).length = ds.length + (1 + fs.length) := by
      simp only [List.length_append, List.length_cons]
      omega
    rw [numeral_plan, search_seq, whole, ← Place.forward_forward]
    refine matches_digits (List.append_assoc _ _ _) hne hd point (Nat.le_succ _)
      (matches_fraction ?_ hne' hf stop ?_ fun _ _ => rfl)
    · simp [Place.start]
    · simp only [Place.forward_rest, List.length_drop, Place.start]
      omega
  rw [split_of_matches matched, List.take_left, List.drop_left]

theorem numeral_split_of_stops {t : Text} (h : Stops Char.isDigit t) : numeral.split t = none := by
  apply split_of_fails
  rw [numeral_plan, search_seq]
  exact fails_digits h

/-! ## The word `let` -/

theorem search_letWord {visits : Nat} {next : Continuation} :
    (letWord.expr.plan 0).search visits next =
      ((Expr.literal "let".toList).plan 0).search visits
        ((Plan.look .wordBoundary).search visits next) := rfl

theorem isEdge_after (inClass : Char → Bool) (c : Char) (t : Text) (n : Nat) :
    Place.isEdge ⟨some c, t, n⟩ inClass = (inClass c != t.head?.any inClass) := rfl

/-- Behind the word there is a boundary, if no word character follows. -/
theorem boundary_after_let (t : Text) :
    Look.wordBoundary.holds ((Place.start ("let".toList ++ t)).forward 3) =
      !t.head?.any isWordCharacter := by
  have place : (Place.start ("let".toList ++ t)).forward 3 = ⟨some 't', t, 3⟩ := rfl
  have letter : isWordCharacter 't' = true := isWordCharacter_of_ascii (by decide)
  rw [place, Look.holds, isEdge_after, letter, Bool.true_bne]

theorem search_let_append {visits : Nat} {next : Continuation} (rest : Text) :
    (letWord.expr.plan 0).search visits next (.start ("let".toList ++ rest)) =
      if rest.head?.any isWordCharacter then .fail
      else next ((Place.start ("let".toList ++ rest)).forward 3) := by
  have literal : stripStart "let".toList (Place.start ("let".toList ++ rest)).rest = some rest :=
    stripStart_append _ rest
  rw [search_letWord, search_literal literal]
  change (if Look.wordBoundary.holds ((Place.start ("let".toList ++ rest)).forward 3) then
    next ((Place.start ("let".toList ++ rest)).forward 3) else .fail) = _
  rw [boundary_after_let]
  cases rest.head?.any isWordCharacter <;> rfl

theorem letWord_split_of_stops {rest : Text} (h : Stops isWordCharacter rest) :
    letWord.split ("let".toList ++ rest) = some ("let".toList, rest) := by
  have matched : ((letWord.expr.plan 0).search (("let".toList ++ rest).length + 1) .found
      (.start ("let".toList ++ rest))).Matches 0 (.start ("let".toList ++ rest))
      ((Place.start ("let".toList ++ rest)).forward 3) := by
    rw [search_let_append, h.head_any]
    exact fun _ _ => rfl
  rw [split_of_matches matched]
  rfl

/-- The word is matched where it stands and no word goes on behind it, and nowhere else. -/
theorem of_letWord_split {t x rest : Text} (h : letWord.split t = some (x, rest)) :
    x = "let".toList ∧ t = "let".toList ++ rest ∧ Stops isWordCharacter rest := by
  cases literal : stripStart "let".toList t with
  | none =>
    have fails : letWord.split t = none := by
      apply split_of_fails
      rw [search_letWord]
      exact fails_literal literal
    rw [fails] at h
    cases h
  | some u =>
    obtain rfl := append_of_stripStart literal
    cases goesOn : u.head?.any isWordCharacter with
    | true =>
      have fails : letWord.split ("let".toList ++ u) = none := by
        apply split_of_fails
        rw [search_let_append, goesOn]
        exact fun _ => rfl
      rw [fails] at h
      cases h
    | false =>
      have stop : Stops isWordCharacter u := by
        intro c hc
        rw [Option.mem_def.mp hc, Option.any_some] at goesOn
        exact goesOn
      rw [letWord_split_of_stops stop] at h
      cases h
      exact ⟨rfl, rfl, stop⟩

end Calculator.Lexeme

end Backtrack
