import Backtrack.Proofs.LeftFold

/-!
# Bounds of loops

A repetition and a chain go on as long as their rounds make the text shorter. So they end, whatever
their parsers leave: a round that leaves as much as before, or more, is the last one, and there are
no more rounds than bytes, and one: `loops_are_bounded`.
-/

namespace Backtrack

variable {σ α β : Type}

/-! ## Rounds -/

/-- The rounds of a loop that starts on a text, with what each of them reads and leaves, and the
states of the debugger in which the loop starts and ends. -/
inductive Rounds (round : Text → Run σ (Option (α × Text))) :
    Text → σ → Candidates α → σ → Prop
  /-- The loop ends where there is no further round. -/
  | none {t : Text} {state final : σ} (h : (round t).outcome state = (.ok none, final)) :
    Rounds round t state [] final
  /-- A round that does not make the text shorter is the last one. -/
  | last {t : Text} {state final : σ} {step : α × Text}
    (h : (round t).outcome state = (.ok (some step), final))
    (stuck : ¬byteLength step.2 < byteLength t) : Rounds round t state [step] final
  | more {t : Text} {state behind final : σ} {step : α × Text} {steps : Candidates α}
    (h : (round t).outcome state = (.ok (some step), behind))
    (shorter : byteLength step.2 < byteLength t) (rest : Rounds round step.2 behind steps final) :
    Rounds round t state (step :: steps) final

/-- Each round returns, on every text and in every state. -/
def RoundReturns (round : Text → Run σ (Option (α × Text))) : Prop :=
  ∀ t state, ∃ found state', (round t).outcome state = (.ok found, state')

namespace Rounds

variable {round : Text → Run σ (Option (α × Text))} {t : Text} {state final final' : σ}
  {steps steps' : Candidates α}

/-- A loop has one sequence of rounds. -/
theorem unique (h : Rounds round t state steps final) (h' : Rounds round t state steps' final') :
    steps' = steps ∧ final' = final := by
  induction h generalizing steps' with
  | none h =>
    cases h' with
    | none h' =>
      cases h.symm.trans h'
      exact ⟨rfl, rfl⟩
    | last h' | more h' =>
      cases h.symm.trans h'
  | last h stuck =>
    cases h' with
    | none h' =>
      cases h.symm.trans h'
    | last h' =>
      cases h.symm.trans h'
      exact ⟨rfl, rfl⟩
    | more h' shorter =>
      cases h.symm.trans h'
      exact absurd shorter stuck
  | more h shorter _ ih =>
    cases h' with
    | none h' =>
      cases h.symm.trans h'
    | last h' stuck =>
      cases h.symm.trans h'
      exact absurd shorter stuck
    | more h' _ rest =>
      cases h.symm.trans h'
      obtain ⟨rfl, rfl⟩ := ih rest
      exact ⟨rfl, rfl⟩

/-- The rounds come to an end. The induction is on the length of the text. -/
theorem exists_of_returns (returns : RoundReturns round) (t : Text) (state : σ) :
    ∃ steps final, Rounds round t state steps final := by
  induction hn : byteLength t using Nat.strongRecOn generalizing t state with
  | ind n ih =>
    obtain ⟨found, behind, h⟩ := returns t state
    cases found with
    | none => exact ⟨[], behind, .none h⟩
    | some step =>
      by_cases shorter : byteLength step.2 < byteLength t
      · obtain ⟨steps, final, rest⟩ := ih _ (hn ▸ shorter) step.2 behind rfl
        exact ⟨step :: steps, final, .more h shorter rest⟩
      · exact ⟨[step], behind, .last h shorter⟩

theorem length_le (h : Rounds round t state steps final) : steps.length ≤ byteLength t + 1 := by
  induction h with
  | none => exact Nat.zero_le _
  | last => exact Nat.succ_le_succ (Nat.zero_le _)
  | more _ shorter _ ih =>
    rw [List.length_cons]
    omega

/-- Only the last round can leave as much text as it gets. -/
theorem shortens (h : Rounds round t state steps final) : ∀ before step after,
    steps = before ++ step :: after → after ≠ [] →
      byteLength step.2 < byteLength (standing t before) := by
  induction h with
  | none => simp
  | last _ stuck =>
    rintro (_ | ⟨_, before⟩) step after same others
    · obtain ⟨-, rfl⟩ := List.cons.inj same
      exact absurd rfl others
    · simp at same
  | more _ shorter _ ih =>
    rintro (_ | ⟨_, before⟩) step after same others
    · obtain ⟨rfl, -⟩ := List.cons.inj same
      exact shorter
    · obtain ⟨rfl, rfl⟩ := List.cons.inj same
      exact ih before step after rfl others

end Rounds

/-- The rounds are those of the loop: no more than the bytes of its text, and one, and all but the
last one make the text shorter. -/
structure BoundedRounds (round : Text → Run σ (Option (α × Text))) (t : Text) (state : σ)
    (steps : Candidates α) (final : σ) : Prop where
  only : ∀ steps' final',
    Rounds round t state steps' final' ↔ steps' = steps ∧ final' = final
  length_le : steps.length ≤ byteLength t + 1
  shortens : ∀ before step after, steps = before ++ step :: after → after ≠ [] →
    byteLength step.2 < byteLength (standing t before)

theorem Rounds.bounded {round : Text → Run σ (Option (α × Text))} {t : Text} {state final : σ}
    {steps : Candidates α} (h : Rounds round t state steps final) :
    BoundedRounds round t state steps final where
  only steps' final' := by
    constructor
    · exact h.unique
    · rintro ⟨rfl, rfl⟩
      exact h
  length_le := h.length_le
  shortens := h.shortens

/-- The parser returns on every text, whatever it leaves. -/
def Behaviour.Returns (b : Behaviour σ α) : Prop :=
  ∀ t state, ∃ found state', (b t).outcome state = (.ok found, state')

/-! ## The rounds of a repetition -/

/-- A round of a repetition takes the first candidate. -/
def Behaviour.firstRound (b : Behaviour σ α) (t : Text) : Run σ (Option (α × Text)) := do
  return (← b t).head?

section

variable {b : Behaviour σ α} {t : Text} {state final : σ} {steps : Candidates α}

theorem Behaviour.Returns.firstRound (hb : b.Returns) : RoundReturns b.firstRound := by
  intro t state
  obtain ⟨found, state', h⟩ := hb t state
  exact ⟨found.head?, state', Run.outcome_bind_of_ok h⟩

theorem outcome_of_firstRound {first : Option (α × Text)}
    (h : (b.firstRound t).outcome state = (.ok first, final)) :
    ∃ found, (b t).outcome state = (.ok found, final) ∧ found.head? = first := by
  obtain ⟨found, _, hfound, he⟩ := Run.outcome_bind_eq_ok h
  cases he
  exact ⟨found, hfound, rfl⟩

/-- A repetition collects what its rounds read. -/
theorem Rounds.outcome_repeatFrom (h : Rounds b.firstRound t state steps final) (items : List α) :
    (repeatFrom b items t).outcome state =
      (.ok (items.reverse ++ steps.map Prod.fst, standing t steps), final) := by
  induction h generalizing items with
  | none h =>
    obtain ⟨found, hfound, first⟩ := outcome_of_firstRound h
    obtain rfl := List.head?_eq_none_iff.mp first
    rw [repeatFrom_of_failure hfound]
    simp
  | last h stuck =>
    obtain ⟨found, hfound, first⟩ := outcome_of_firstRound h
    obtain ⟨more, rfl⟩ := List.head?_eq_some_iff.mp first
    rw [repeatFrom_of_no_progress hfound stuck]
    simp
  | more h shorter _ ih =>
    obtain ⟨found, hfound, first⟩ := outcome_of_firstRound h
    obtain ⟨more, rfl⟩ := List.head?_eq_some_iff.mp first
    rw [repeatFrom_of_progress hfound shorter, ih]
    simp

end

/-! ## The rounds of a chain -/

/-- A round of a chain takes the first operator that a term follows, and the first such term. -/
def Behaviour.firstPairRound (term : Behaviour σ α) (operator : Behaviour σ β) (t : Text) :
    Run σ (Option ((β × α) × Text)) := do
  return (← firstFollowed term (← operator t)).map fun (f, a, rest) => ((f, a), rest)

section

variable {term : Behaviour σ α}

/-- To look for a term behind each candidate does not end the run. -/
theorem Behaviour.Returns.firstFollowed (ht : term.Returns) (operators : Candidates β)
    (state : σ) : ∃ found state', (firstFollowed term operators).outcome state =
      (.ok found, state') := by
  induction operators generalizing state with
  | nil => exact ⟨none, state, rfl⟩
  | cons c operators ih =>
    obtain ⟨terms, state', h⟩ := ht c.2 state
    rw [Backtrack.firstFollowed, Run.outcome_bind_of_ok h]
    cases terms with
    | nil => exact ih state'
    | cons term more => exact ⟨_, state', rfl⟩

theorem Behaviour.Returns.firstPairRound (ht : term.Returns) {operator : Behaviour σ β}
    (ho : operator.Returns) : RoundReturns (term.firstPairRound operator) := by
  intro t state
  obtain ⟨operators, behind, h⟩ := ho t state
  obtain ⟨found, state', h'⟩ := ht.firstFollowed operators behind
  exact ⟨_, state', (Run.outcome_bind_of_ok h).trans (Run.outcome_bind_of_ok h')⟩

variable {operator : Behaviour σ (α → α → Attempt α)} {t : Text} {state final : σ}
  {steps : Candidates ((α → α → Attempt α) × α)}

/-- What a chain does is decided by its first round. -/
theorem outcome_foldFrom {first : Option ((_ × α) × Text)} (acc : α)
    (h : (term.firstPairRound operator t).outcome state = (.ok first, final)) :
    (foldFrom term operator acc t).outcome state =
      match first with
      | none => (.ok (acc, t), final)
      | some ((f, right), rest) =>
        match f acc right with
        | .error e => (.error (.fault e), final)
        | .ok acc =>
          if byteLength rest < byteLength t then (foldFrom term operator acc rest).outcome final
          else (.ok (acc, rest), final) := by
  obtain ⟨operators, behind, hoperators, h⟩ := Run.outcome_bind_eq_ok h
  obtain ⟨found, _, hfound, he⟩ := Run.outcome_bind_eq_ok h
  cases he
  rw [foldFrom, Run.outcome_bind_of_ok hoperators, Run.outcome_bind_of_ok hfound]
  rcases found with _ | ⟨f, right, rest⟩
  · rfl
  · simp only [Option.map_some]
    cases f acc right with
    | error e => rfl
    | ok acc =>
      simp only [Run.attempt, pure_bind]
      split <;> rfl

/-- A chain folds what its rounds read, and is cut short where a function of the fold is. -/
theorem Rounds.outcome_foldFrom (h : Rounds (term.firstPairRound operator) t state steps final)
    (acc : α) :
    (∀ a, foldPairs acc (steps.map Prod.fst) = .ok a →
      (foldFrom term operator acc t).outcome state = (.ok (a, standing t steps), final)) ∧
    ∀ e, foldPairs acc (steps.map Prod.fst) = .error e →
      ((foldFrom term operator acc t).outcome state).1 = .error (.fault e) := by
  induction h generalizing acc with
  | none h =>
    rw [Backtrack.outcome_foldFrom acc h]
    constructor
    · rintro _ ⟨⟩
      rfl
    · rintro _ ⟨⟩
  | @last _ _ _ step h stuck =>
    obtain ⟨⟨f, right⟩, rest⟩ := step
    rw [Backtrack.outcome_foldFrom acc h]
    simp only [List.map_cons, List.map_nil, foldPairs, List.foldlM_cons, List.foldlM_nil]
    cases f acc right with
    | error e =>
      constructor
      · rintro _ ⟨⟩
      · rintro _ ⟨⟩
        rfl
    | ok acc =>
      constructor
      · rintro _ ⟨⟩
        simp only [stuck, ↓reduceIte]
        rfl
      · rintro _ ⟨⟩
  | @more _ _ _ _ step _ h shorter _ ih =>
    obtain ⟨⟨f, right⟩, rest⟩ := step
    rw [Backtrack.outcome_foldFrom acc h]
    simp only [List.map_cons, foldPairs, List.foldlM_cons]
    cases f acc right with
    | error e =>
      constructor
      · rintro _ ⟨⟩
      · rintro _ ⟨⟩
        rfl
    | ok acc =>
      simp only [shorter, ↓reduceIte]
      exact ih acc

end

/-- **The loops are bounded, whatever their parsers leave.** If its parsers return on every text, a
repetition ends after its rounds, which are no more than the bytes of the text on which it starts,
and one. Each round but the last makes the text shorter. The items are those of the rounds in
order, with that of a last round that reads nothing or leaves more than it gets. A chain is bounded
in the same way, and folds the pairs of its rounds in order; if a function of the fold raises a
fault, then so does the chain. -/
theorem loops_are_bounded (t : Text) (state : σ) :
    (∀ b : Behaviour σ α, b.Returns → ∃ steps final,
      BoundedRounds b.firstRound t state steps final ∧
      ∀ items, (repeatFrom b items t).outcome state =
        (.ok (items.reverse ++ steps.map Prod.fst, standing t steps), final)) ∧
    ∀ (term : Behaviour σ α) (operator : Behaviour σ (α → α → Attempt α)), term.Returns →
      operator.Returns → ∃ steps final,
        BoundedRounds (term.firstPairRound operator) t state steps final ∧
        ∀ acc,
          (∀ a, foldPairs acc (steps.map Prod.fst) = .ok a →
            (foldFrom term operator acc t).outcome state = (.ok (a, standing t steps), final)) ∧
          ∀ e, foldPairs acc (steps.map Prod.fst) = .error e →
            ((foldFrom term operator acc t).outcome state).1 = .error (.fault e) := by
  constructor
  · intro b hb
    obtain ⟨steps, final, rounds⟩ := Rounds.exists_of_returns hb.firstRound t state
    exact ⟨steps, final, rounds.bounded, rounds.outcome_repeatFrom⟩
  · intro term operator ht ho
    obtain ⟨steps, final, rounds⟩ := Rounds.exists_of_returns (ht.firstPairRound ho) t state
    exact ⟨steps, final, rounds.bounded, rounds.outcome_foldFrom⟩

/-- Reads one letter, and then a letter for which it leaves more text than there was. -/
def growing : Behaviour Unit Nat := .custom fun t =>
  .ok (if t = ['a', 'b'] then [(1, ['b'])] else [(2, ['a', 'b', 'c'])])

/-- Reads nothing, and puts a digit behind a number. -/
def appendDigit : Behaviour Unit (Nat → Nat → Attempt Nat) := .pure fun a b => .ok (10 * a + b)

/-- The round that leaves a longer text is the last one, and counts. -/
theorem loops_are_bounded_growing :
    growing.Returns ∧ appendDigit.Returns ∧
    (repeatFrom growing [] ['a', 'b']).outcome () = (.ok ([1, 2], ['a', 'b', 'c']), ()) ∧
    (foldFrom growing appendDigit 0 ['a', 'b']).outcome () = (.ok (12, ['a', 'b', 'c']), ()) := by
  have items : growing.Returns := fun _ state => ⟨_, state, rfl⟩
  have operators : appendDigit.Returns := fun _ state => ⟨_, state, rfl⟩
  obtain ⟨repeated, folded⟩ := loops_are_bounded ['a', 'b'] ()
  obtain ⟨steps, final, rounds, outcome⟩ := repeated growing items
  obtain ⟨rfl, rfl⟩ := (rounds.only [(1, ['b']), (2, ['a', 'b', 'c'])] ()).mp
    (.more rfl (by decide) (.last rfl (by decide)))
  obtain ⟨steps, final, rounds, outcome'⟩ := folded growing appendDigit items operators
  obtain ⟨rfl, rfl⟩ := (rounds.only [((fun a b => .ok (10 * a + b), 1), ['b']),
    ((fun a b => .ok (10 * a + b), 2), ['a', 'b', 'c'])] ()).mp
    (.more rfl (by decide) (.last rfl (by decide)))
  exact ⟨items, operators, outcome [], (outcome' 0).1 12 rfl⟩

end Backtrack
