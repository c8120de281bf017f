import Backtrack.Behaviour

/-!
# Scanning

A greedy repetition of a set of characters takes all the characters that are in the set,
if what follows matches behind them: `matches_again`, `matches_star`. The search remembers where
it has been, so this is said for a search that comes to a place for the first time. Scanning white
space is such a repetition: `blanks_split`. A literal has no choices: `search_literal`.
-/

namespace Backtrack

/-- The text has no other characters than white space. -/
abbrev Blank (w : Text) : Prop := ∀ c ∈ w, Unicode.isBlank c = true

/-- The text does not go on with a character that passes the test. -/
def Stops (p : Char → Bool) (t : Text) : Prop := ∀ c ∈ t.head?, p c = false

theorem stops_nil (p : Char → Bool) : Stops p [] := fun _ h => nomatch h

theorem stops_cons {p : Char → Bool} {c : Char} (hc : p c = false) (t : Text) :
    Stops p (c :: t) := by
  rintro _ ⟨⟩
  exact hc

theorem takeWhile_append_of_stops {p : Char → Bool} {a rest : Text} (h : ∀ c ∈ a, p c = true)
    (stop : Stops p rest) : (a ++ rest).takeWhile p = a := by
  rw [List.takeWhile_append_of_pos h]
  cases rest with
  | nil => simp
  | cons c rest => rw [List.takeWhile_cons_of_neg (by simp [stop c rfl]), List.append_nil]

theorem dropWhile_append_of_stops {p : Char → Bool} {a rest : Text} (h : ∀ c ∈ a, p c = true)
    (stop : Stops p rest) : (a ++ rest).dropWhile p = rest := by
  rw [List.dropWhile_append_of_pos h]
  cases rest with
  | nil => rfl
  | cons c rest => rw [List.dropWhile_cons_of_neg (by simp [stop c rfl])]

theorem stops_dropWhile (p : Char → Bool) (t : Text) : Stops p (t.dropWhile p) := by
  induction t with
  | nil => exact stops_nil p
  | cons c t ih =>
    rw [List.dropWhile_cons]
    split
    · exact ih
    · rename_i hc
      rintro _ ⟨⟩
      exact Bool.eq_false_iff.mpr hc

theorem Stops.dropWhile_eq {p : Char → Bool} {t : Text} (h : Stops p t) : t.dropWhile p = t :=
  List.nil_append t ▸ dropWhile_append_of_stops (List.forall_mem_nil _) h

theorem Stops.head_any {p : Char → Bool} {t : Text} (h : Stops p t) : t.head?.any p = false := by
  cases t with
  | nil => rfl
  | cons c t => exact h c rfl

namespace CharSet

/-- A range that is given by its first and its last character. -/
theorem range_contains (first last c : Char) :
    (⟨first.toNat, last.toNat⟩ : CodeRange).contains c.toNat =
      (decide (c.val ≥ first.val) && decide (c.val ≤ last.val)) := by
  rw [Bool.eq_iff_iff]
  simp only [CodeRange.contains, Bool.and_eq_true, decide_eq_true_eq, ge_iff_le,
    UInt32.le_iff_toNat_le]
  rfl

theorem single_contains (c d : Char) : (CharSet.single c).contains d = (d == c) := by
  rw [Bool.eq_iff_iff, beq_iff_eq]
  simp only [CharSet.contains, CharSet.single, CharSet.range, CharSet.hasCode, List.any_cons,
    List.any_nil, Bool.or_false, CodeRange.contains, Bool.and_eq_true, decide_eq_true_eq]
  constructor
  · intro h
    exact Char.toNat_inj.mp (Nat.le_antisymm h.2 h.1)
  · rintro rfl
    exact ⟨Nat.le_refl _, Nat.le_refl _⟩

end CharSet

namespace Pattern

/-- The place after the next `n` characters. -/
def Place.forward : Nat → Place → Place
  | 0, p => p
  | n + 1, p => forward n ⟨p.rest.head?, p.rest.tail, p.offset + 1⟩

namespace Place

@[simp] theorem forward_zero (p : Place) : p.forward 0 = p := rfl

@[simp] theorem forward_rest (n : Nat) (p : Place) : (p.forward n).rest = p.rest.drop n := by
  induction n generalizing p with
  | zero => rfl
  | succ n ih => rw [forward, ih, List.drop_tail]

@[simp] theorem forward_offset (n : Nat) (p : Place) :
    (p.forward n).offset = p.offset + n := by
  induction n generalizing p with
  | zero => rfl
  | succ n ih =>
    rw [forward, ih]
    change p.offset + 1 + n = _
    omega

theorem forward_forward (n m : Nat) (p : Place) : (p.forward n).forward m = p.forward (n + m) := by
  induction n generalizing p with
  | zero => rw [Nat.zero_add, forward_zero]
  | succ n ih => rw [Nat.succ_add, forward, forward, ih]

end Place

/-- No point of choice from `id` on was visited at the place or behind it. -/
def Visited.FreeFrom (seen : Visited) (id : Nat) (p : Place) : Prop :=
  ∀ i o, id ≤ i → p.offset ≤ o → seen.contains (i, o) = false

namespace Visited.FreeFrom

variable {seen : Visited} {id : Nat} {p q : Place}

theorem empty (id : Nat) (p : Place) : (∅ : Visited).FreeFrom id p :=
  fun _ _ _ _ => Std.HashSet.contains_empty

theorem later (h : seen.FreeFrom id p) {n : Nat} (hn : id ≤ n) (hq : p.offset ≤ q.offset) :
    seen.FreeFrom n q :=
  fun i o hi ho => h i o (Nat.le_trans hn hi) (Nat.le_trans hq ho)

/-- A visit is forgotten by the points of choice behind it, and at the places behind it. -/
theorem insert (h : seen.FreeFrom id p) {n : Nat} (hn : id ≤ n) (hq : p.offset ≤ q.offset)
    (behind : id < n ∨ p.offset < q.offset) : Visited.FreeFrom (seen.insert (id, p.offset)) n q := by
  intro i o hi ho
  have other : (id, p.offset) ≠ (i, o) := by
    intro same
    cases same
    omega
  rw [Std.HashSet.contains_insert, h.later hn hq i o hi ho, beq_false_of_ne other]
  rfl

end Visited.FreeFrom

/-- The search matches up to the place `q` when it comes to `p` for the first time, where the point
of choice `id` and those after it are still to come. -/
def Search.Matches (a : Search) (id : Nat) (p q : Place) : Prop :=
  ∀ seen : Visited, seen.FreeFrom id p → (a seen).1 = some q

/-- The search fails wherever it has been, and visits no point of choice. -/
def Search.Fails (a : Search) : Prop := ∀ seen, a seen = (none, seen)

variable {a b : Search} {seen : Visited} {id n visits : Nat} {p q : Place} {members : CharSet}
  {next : Continuation}

namespace Search

theorem orElse_of_some (h : (a seen).1 = some q) : ((a.orElse b) seen).1 = some q := by
  rcases ha : a seen with ⟨_ | place, seen'⟩ <;> rw [ha] at h
  · cases h
  · simp only [orElse, ha]
    exact h

theorem orElse_of_fails (h : a.Fails) : (a.orElse b) seen = b seen := by
  simp only [orElse, h seen]

/-- A point of choice that is reached for the first time does not stop the search. -/
theorem once_of_free (h : seen.FreeFrom id p) :
    (a.once id p) seen = a (seen.insert (id, p.offset)) := by
  simp only [once, h id p.offset (Nat.le_refl _) (Nat.le_refl _), Bool.false_eq_true, ↓reduceIte]

end Search

/-! ## Sets -/

theorem plan_set (id : Nat) (members : CharSet) : (Expr.set members).plan id = .set members := rfl

theorem search_concat (a b : Expr) :
    ((Expr.concat a b).plan id).search visits next =
      (a.plan id).search visits ((b.plan (id + a.choices)).search visits next) := rfl

theorem search_seq (a b : Plan) :
    (Plan.seq a b).search visits next = a.search visits (b.search visits next) := rfl

theorem search_set (h : p.rest.head?.any members.contains) :
    (Plan.set members).search visits next p = next (p.forward 1) := by
  obtain ⟨previous, _ | ⟨c, rest⟩, offset⟩ := p
  · cases h
  · have member : members.contains c := h
    simp only [Plan.search, member, ↓reduceIte]
    rfl

theorem fails_set (h : p.rest.head?.any members.contains = false) :
    ((Plan.set members).search visits next p).Fails := by
  intro seen
  obtain ⟨previous, _ | ⟨c, rest⟩, offset⟩ := p
  · rfl
  · have member : members.contains c = false := h
    simp only [Plan.search, member, Bool.false_eq_true, ↓reduceIte]
    rfl

/-- How many characters at the place are in the set, one after the other. -/
def Place.run (p : Place) (members : CharSet) : Nat := (p.rest.takeWhile members.contains).length

theorem Place.run_of_not_mem (h : p.rest.head?.any members.contains = false) :
    p.run members = 0 := by
  obtain ⟨previous, _ | ⟨c, rest⟩, offset⟩ := p
  · rfl
  · have member : members.contains c = false := h
    simp only [run, List.takeWhile_cons, member, Bool.false_eq_true, ↓reduceIte, List.length_nil]

theorem Place.run_of_mem (h : p.rest.head?.any members.contains) :
    p.run members = (p.forward 1).run members + 1 := by
  obtain ⟨previous, _ | ⟨c, rest⟩, offset⟩ := p
  · cases h
  · have member : members.contains c := h
    simp only [run, List.takeWhile_cons, member, ↓reduceIte, List.length_cons]
    rfl

/-- A run ends where the text goes on with something else. -/
theorem run_of_append {members : CharSet} {a rest : Text} (hp : p.rest = a ++ rest)
    (h : ∀ c ∈ a, members.contains c = true) (stop : Stops members.contains rest) :
    p.run members = a.length := by
  rw [Place.run, hp, takeWhile_append_of_stops h stop]

/-! ## Repetitions -/

/-- After each round it is tried to go on, until the next character is not in the set. The induction
is on the visits that are left, which are more than the characters. -/
theorem matches_afterRound (enough : p.rest.length < n)
    (h : (next (p.forward (p.run members))).Matches (id + 1) (p.forward (p.run members)) q) :
    (afterRound id true ((Plan.set members).search visits) next n p).Matches id p q := by
  induction n generalizing p with
  | zero => omega
  | succ n ih =>
    intro seen free
    simp only [afterRound, ↓reduceIte, Search.once_of_free free]
    by_cases more : p.rest.head?.any members.contains
    · -- The next visit of the point of choice is at a later place.
      have fewer : (p.forward 1).rest.length < n := by
        have : p.rest ≠ [] := by
          intro hp
          rw [hp] at more
          cases more
        have := List.length_pos_iff.mpr this
        rw [Place.forward_rest, List.length_drop]
        omega
      rw [Place.run_of_mem more, Nat.add_comm, ← Place.forward_forward] at h
      apply Search.orElse_of_some
      rw [search_set more]
      refine ih fewer h _ (free.insert (Nat.le_refl _) ?_ (.inr ?_))
      · simp
      · simp
    · have stop : p.rest.head?.any members.contains = false := Bool.eq_false_iff.mpr more
      rw [Place.run_of_not_mem stop, Place.forward_zero] at h
      rw [Search.orElse_of_fails (fails_set stop)]
      exact h _ (free.insert (Nat.le_succ _) (Nat.le_refl _) (.inl (Nat.lt_succ_self _)))

theorem search_again (greedy : Bool) (round : Plan) :
    (Plan.again id greedy round).search visits next =
      round.search visits (afterRound id greedy (round.search visits) next visits) := rfl

/-- One round or more, where there is a character of the set to begin with. -/
theorem matches_again (enough : p.rest.length ≤ visits) (start : p.rest.head?.any members.contains)
    (h : (next (p.forward (p.run members))).Matches (id + 1) (p.forward (p.run members)) q) :
    ((Plan.again id true (.set members)).search visits next p).Matches id p q := by
  intro seen free
  have shorter : (p.forward 1).rest.length < visits := by
    have : p.rest ≠ [] := by
      intro hp
      rw [hp] at start
      cases start
    have := List.length_pos_iff.mpr this
    rw [Place.forward_rest, List.length_drop]
    omega
  rw [Place.run_of_mem start, Nat.add_comm, ← Place.forward_forward] at h
  rw [search_again, search_set start]
  exact matches_afterRound shorter h _ (free.later (Nat.le_refl _) (by simp))

theorem fails_again (start : p.rest.head?.any members.contains = false) (greedy : Bool) :
    ((Plan.again id greedy (.set members)).search visits next p).Fails := by
  rw [search_again]
  exact fails_set start

/-- Any number of rounds. -/
theorem matches_star (enough : p.rest.length ≤ visits)
    (h : (next (p.forward (p.run members))).Matches (id + 2) (p.forward (p.run members)) q) :
    (((Expr.repetition 0 none true (.set members)).plan id).search visits next p).Matches id p q := by
  intro seen free
  change ((Search.once id p (((Plan.again (id + 1) true (.set members)).search visits next p).orElse
    (next p))) seen).1 = some q
  rw [Search.once_of_free free]
  have free' : Visited.FreeFrom (seen.insert (id, p.offset)) (id + 1) p :=
    free.insert (Nat.le_succ _) (Nat.le_refl _) (.inl (Nat.lt_succ_self _))
  by_cases start : p.rest.head?.any members.contains
  · exact Search.orElse_of_some (matches_again enough start h _ free')
  · have stop : p.rest.head?.any members.contains = false := Bool.eq_false_iff.mpr start
    rw [Search.orElse_of_fails (fails_again stop true)]
    rw [Place.run_of_not_mem stop, Place.forward_zero] at h
    exact h _ (free'.later (Nat.le_succ _) (Nat.le_refl _))

/-! ## Literals -/

/-- A literal is matched one character after the other. -/
theorem search_literal_cons (c : Char) (w : Text) :
    ((Expr.literal (c :: w)).plan id).search visits next p =
      (Plan.set (.single c)).search visits (((Expr.literal w).plan id).search visits next) p := by
  cases w <;> rfl

theorem search_literal {w rest : Text} (h : stripStart w p.rest = some rest) :
    ((Expr.literal w).plan id).search visits next p = next (p.forward w.length) := by
  induction w generalizing p with
  | nil => rfl
  | cons c w ih =>
    obtain ⟨previous, _ | ⟨d, t⟩, offset⟩ := p
    · cases h
    · simp only [stripStart] at h
      split at h
      · rename_i same
        subst same
        rw [search_literal_cons, search_set (by simp [CharSet.single_contains]), ih h,
          Place.forward_forward, Nat.add_comm, List.length_cons]
      · cases h

theorem fails_literal {w : Text} (h : stripStart w p.rest = none) :
    (((Expr.literal w).plan id).search visits next p).Fails := by
  induction w generalizing p with
  | nil => cases h
  | cons c w ih =>
    rw [search_literal_cons]
    obtain ⟨previous, _ | ⟨d, t⟩, offset⟩ := p
    · exact fails_set rfl
    · simp only [stripStart] at h
      split at h
      · rename_i same
        subst same
        rw [search_set (by simp [CharSet.single_contains])]
        exact ih h
      · rename_i other
        apply fails_set
        simp [CharSet.single_contains, Ne.symm other]

/-! ## Splitting -/

/-- What a pattern matches, if its search matches up to a place of the text. -/
theorem split_of_matches {p : Pattern} {t : Text} {n : Nat}
    (h : ((p.expr.plan 0).search (t.length + 1) .found (.start t)).Matches 0 (.start t)
      ((Place.start t).forward n)) : p.split t = some (t.take n, t.drop n) := by
  rw [split, Plan.split, Plan.matchEnd, p.plan_eq, h ∅ (.empty 0 _), Option.map_some,
    Place.forward_offset, Place.forward_rest]
  simp [Place.start]

theorem split_of_fails {p : Pattern} {t : Text}
    (h : ((p.expr.plan 0).search (t.length + 1) .found (.start t)).Fails) : p.split t = none := by
  rw [split, Plan.split, Plan.matchEnd, p.plan_eq, h ∅, Option.map_none]

/-- What is in front of the end of a run, and what is behind it. -/
theorem take_run (t : Text) (members : CharSet) :
    (t.take (Place.run (.start t) members), t.drop (Place.run (.start t) members)) =
      (t.takeWhile members.contains, t.dropWhile members.contains) := by
  have cut (a b : Text) : ((a ++ b).take a.length, (a ++ b).drop a.length) = (a, b) := by
    rw [List.take_left, List.drop_left]
  have := cut (t.takeWhile members.contains) (t.dropWhile members.contains)
  rw [List.takeWhile_append_dropWhile] at this
  exact this

/-- White space is skipped up to the first character that is none. -/
theorem blanks_split (t : Text) :
    blanks.split t = some (t.takeWhile Unicode.isBlank, t.dropWhile Unicode.isBlank) := by
  rw [split_of_matches (matches_star (Nat.le_succ _) fun _ _ => rfl), take_run]
  rfl

end Pattern

theorem Behaviour.blanks_eq {σ : Type} (t : Text) : (Behaviour.blanks t : Run σ _) =
    Pure.pure [(t.takeWhile Unicode.isBlank, t.dropWhile Unicode.isBlank)] := by
  simp only [blanks, split, Pattern.blanks_split, Option.toList_some]

/-- To go on from each candidate with one other is to map the candidates. -/
theorem fromEach_single {σ α β : Type} (f : α → Text → β × Text) (cs : Candidates α) :
    fromEach (fun a rest => (pure [f a rest] : Run σ _)) cs = pure (cs.map fun c => f c.1 c.2) := by
  induction cs with
  | nil => rfl
  | cons c cs ih => simp only [fromEach, ih, pure_bind, List.map_cons, List.singleton_append]

/-- After each candidate the white space is dropped. -/
theorem Behaviour.token_eq {σ α : Type} (b : Behaviour σ α) (t : Text) :
    b.token t = b t >>= fun cs =>
      Pure.pure (cs.map fun c => (c.1, c.2.dropWhile Unicode.isBlank)) := by
  simp only [token, blanks_eq, pure_bind, List.take_succ_cons, List.take_zero, List.map_cons,
    List.map_nil, fromEach_single]

end Backtrack
