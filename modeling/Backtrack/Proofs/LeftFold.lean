import Backtrack.Proofs.Greedy

/-!
# Left folds

A chain looks for its pairs of an operator and a term one after the other, and folds each one as
soon as it is found. A repetition of the pair makes all of them out first. Both come to the same
pairs, so that a chain is the fold of the repetition: `chain_is_left_fold`.
-/

namespace Backtrack

/-! ## Runs without a debugger -/

namespace Run

variable {α β : Type}

theorem result_attempt (a : Attempt α) :
    (attempt a : Run Unit α).result = a.mapError Halt.fault := by
  cases a <;> rfl

theorem result_mapM {f : α → Run Unit β} {g : α → Except Halt β} {as : List α}
    (h : ∀ a ∈ as, (f a).result = g a) : (as.mapM f).result = as.mapM g := by
  induction as with
  | nil => rfl
  | cons a as ih =>
    obtain ⟨first, others⟩ := List.forall_mem_cons.mp h
    simp only [List.mapM_cons, result_bind, first, ih others]
    rfl

end Run

/-! ## Pairs -/

section

variable {α β : Type}

/-- The step reads the first of the operators that a term follows, and the first such term. -/
def FirstFollowed (terms : Text → Except Halt (Candidates α)) (operators : Candidates β)
    (step : (β × α) × Text) : Prop :=
  ∃ before rest after more, operators = before ++ (step.1.1, rest) :: after ∧
    (∀ c ∈ before, terms c.2 = .ok []) ∧ terms rest = .ok ((step.1.2, step.2) :: more)

/-- The step reads the first operator on the text that a term follows, and the first such term. -/
def FirstPair (operators : Text → Except Halt (Candidates β))
    (terms : Text → Except Halt (Candidates α)) (t : Text) (step : (β × α) × Text) : Prop :=
  ∃ found, operators t = .ok found ∧ FirstFollowed terms found step

/-- No operator on the text is followed by a term. -/
def NoPair (operators : Text → Except Halt (Candidates β))
    (terms : Text → Except Halt (Candidates α)) (t : Text) : Prop :=
  ∃ found, operators t = .ok found ∧ ∀ c ∈ found, terms c.2 = .ok []

theorem FirstFollowed.cons {terms : Text → Except Halt (Candidates α)} {operators : Candidates β}
    {step : (β × α) × Text} (h : FirstFollowed terms operators step) {c : β × Text}
    (none : terms c.2 = .ok []) : FirstFollowed terms (c :: operators) step := by
  obtain ⟨before, rest, after, more, rfl, passed, first⟩ := h
  exact ⟨c :: before, rest, after, more, rfl, List.forall_mem_cons.mpr ⟨none, passed⟩, first⟩

variable {term : Behaviour Unit α} {operator : Behaviour Unit β} {t : Text}

/-- The pairs that are made of the operators and the terms behind them start with the first operator
that a term follows. -/
theorem fromEach_then_cases {operators : Candidates β} {pairs : Candidates (β × α)}
    (h : (fromEach (fun f rest => do
      return (← term rest).map fun (a, rest) => ((f, a), rest)) operators).result = .ok pairs) :
    pairs = [] ∧ (∀ c ∈ operators, term.answer c.2 = .ok []) ∨
      ∃ step others, pairs = step :: others ∧ FirstFollowed term.answer operators step := by
  induction operators generalizing pairs with
  | nil =>
    cases h
    exact .inl ⟨rfl, nofun⟩
  | cons c operators ih =>
    obtain ⟨f, rest⟩ := c
    obtain ⟨here, hhere, h⟩ := Run.result_bind_eq_ok h
    obtain ⟨terms, hterms, hhere⟩ := Run.result_bind_eq_ok hhere
    obtain ⟨others, hothers, h⟩ := Run.result_bind_eq_ok h
    cases hhere
    cases h
    rcases terms with _ | ⟨⟨a, rest'⟩, more⟩
    · rcases ih hothers with ⟨rfl, none⟩ | ⟨step, others, rfl, first⟩
      · exact .inl ⟨rfl, List.forall_mem_cons.mpr ⟨hterms, none⟩⟩
      · exact .inr ⟨step, others, rfl, first.cons hterms⟩
    · exact .inr ⟨((f, a), rest'), _, rfl, [], rest, operators, more, rfl, nofun, hterms⟩

theorem firstPair_of_firstOf {step : (β × α) × Text}
    (h : FirstOf (operator.then term).answer t step) :
    FirstPair operator.answer term.answer t step := by
  obtain ⟨_, h⟩ := h
  obtain ⟨found, hfound, h⟩ := Run.result_bind_eq_ok h
  rcases fromEach_then_cases h with ⟨⟨⟩, -⟩ | ⟨_, _, ⟨⟩, first⟩
  exact ⟨found, hfound, first⟩

theorem noPair_of_noneOf (h : NoneOf (operator.then term).answer t) :
    NoPair operator.answer term.answer t := by
  obtain ⟨found, hfound, h⟩ := Run.result_bind_eq_ok h
  rcases fromEach_then_cases h with ⟨-, none⟩ | ⟨_, _, ⟨⟩, -⟩
  exact ⟨found, hfound, none⟩

/-- Operators that no term follows are passed over. -/
theorem result_firstFollowed_append {before : Candidates β}
    (h : ∀ c ∈ before, term.answer c.2 = .ok []) (operators : Candidates β) :
    (firstFollowed term (before ++ operators)).result = (firstFollowed term operators).result := by
  induction before with
  | nil => rfl
  | cons c before ih =>
    obtain ⟨none, h⟩ := List.forall_mem_cons.mp h
    rw [List.cons_append, firstFollowed, Run.result_bind_of_ok none, ih h]

theorem result_firstFollowed_of_none {operators : Candidates β}
    (h : ∀ c ∈ operators, term.answer c.2 = .ok []) :
    (firstFollowed term operators).result = .ok none := by
  rw [← List.append_nil operators, result_firstFollowed_append h]
  rfl

theorem FirstFollowed.result_firstFollowed {operators : Candidates β} {f : β} {a : α} {rest : Text}
    (h : FirstFollowed term.answer operators ((f, a), rest)) :
    (firstFollowed term operators).result = .ok (some (f, a, rest)) := by
  obtain ⟨before, behind, after, more, rfl, none, first⟩ := h
  rw [result_firstFollowed_append none, firstFollowed, Run.result_bind_of_ok first]
  rfl

end

/-! ## Folding -/

section

variable {α : Type} {term : Behaviour Unit α} {operator : Behaviour Unit (α → α → Attempt α)}
  {t : Text}

/-- Folds the pairs from the left. -/
def foldPairs (acc : α) (pairs : List ((α → α → Attempt α) × α)) : Attempt α :=
  pairs.foldlM (fun acc pair => pair.1 acc pair.2) acc

theorem result_foldFrom_of_noPair (h : NoPair operator.answer term.answer t) (acc : α) :
    (foldFrom term operator acc t).result = .ok (acc, t) := by
  obtain ⟨found, hfound, none⟩ := h
  rw [foldFrom, Run.result_bind_of_ok hfound,
    Run.result_bind_of_ok (result_firstFollowed_of_none none)]
  rfl

/-- A round applies the first operator that a term follows, and goes on if the text is shorter. -/
theorem result_foldFrom_of_firstPair {f : α → α → Attempt α} {right : α} {rest : Text}
    (h : FirstPair operator.answer term.answer t ((f, right), rest)) (acc : α) :
    (foldFrom term operator acc t).result = (f acc right).mapError Halt.fault >>= fun acc =>
      if byteLength rest < byteLength t then (foldFrom term operator acc rest).result
      else .ok (acc, rest) := by
  obtain ⟨found, hfound, first⟩ := h
  rw [foldFrom, Run.result_bind_of_ok hfound, Run.result_bind_of_ok first.result_firstFollowed]
  simp only [Run.result_bind, Run.result_attempt]
  congr 1
  funext acc
  split <;> rfl

/-- A chain folds the pairs of its steps behind a term. -/
theorem Greedy.result_foldFrom {steps : Candidates ((α → α → Attempt α) × α)}
    (h : Greedy (FirstPair operator.answer term.answer) (NoPair operator.answer term.answer) t
      steps) (acc : α) : (foldFrom term operator acc t).result = do
      let a ← (foldPairs acc (steps.map Prod.fst)).mapError Halt.fault
      return (a, standing t steps) := by
  induction steps generalizing t acc with
  | nil => exact result_foldFrom_of_noPair (Greedy.nil_iff.mp h) acc
  | cons step steps ih =>
    obtain ⟨⟨f, right⟩, rest⟩ := step
    obtain ⟨first, behind⟩ := Greedy.cons_iff.mp h
    rw [result_foldFrom_of_firstPair first]
    simp only [List.map_cons, foldPairs, List.foldlM_cons, standing_cons]
    cases f acc right with
    | error e => rfl
    | ok acc =>
      rcases behind with ⟨shorter, h⟩ | ⟨stuck, rfl⟩
      · simp only [shorter, ↓reduceIte]
        exact ih h acc
      · simp only [stuck, ↓reduceIte]
        rfl

end

namespace Parser

variable {α : Type}

/-- **A chain is a left fold.** Where the terms on the text and the repetition of the pair behind
each of them are not cut short, the chain has a candidate for each term, in order: the fold of the
pairs that the repetition has there, with the text that it leaves. Each pair is the first operator
that a term follows, with the first such term, and an operator in the end that no term follows is
left. If a function of the fold raises a fault, then so does the chain. A run on a text is the case
of the depth for the text: `run_eq_runWithin`. -/
theorem chain_is_left_fold {term : Parser [] α} {operator : Parser [] (α → α → Attempt α)}
    {depth : Nat} {t : Text} {firsts : Candidates α} (ht : term.runWithin depth t = .ok firsts)
    (hm : ∀ c ∈ firsts, ∃ found, (operator.then term).many.runWithin depth c.2 = .ok found) :
    ∃ steps : α × Text → Candidates ((α → α → Attempt α) × α),
      (∀ c ∈ firsts,
        (operator.then term).many.runWithin depth c.2 =
          .ok [((steps c).map Prod.fst, standing c.2 (steps c))] ∧
        Greedy (FirstPair (operator.runWithin depth) (term.runWithin depth))
          (NoPair (operator.runWithin depth) (term.runWithin depth)) c.2 (steps c)) ∧
      (term.chain operator).runWithin depth t = firsts.mapM fun c => do
        let a ← (foldPairs c.1 ((steps c).map Prod.fst)).mapError Halt.fault
        return (a, standing c.2 (steps c)) := by
  have behind (c : α × Text) (hc : c ∈ firsts) :
      ∃ steps, Greedy (FirstOf ((operator.then term).runWithin depth))
        (NoneOf ((operator.then term).runWithin depth)) c.2 steps := by
    obtain ⟨found, hfound⟩ := hm c hc
    rcases exists_greedy ((operator.then term).behaviour .silent depth .empty) (S := Set.univ)
      (fun _ _ _ _ => trivial) (Set.mem_univ c.2) [] with h | ⟨u, -, e, -, failed⟩
    · exact h
    · obtain ⟨_, ran, -⟩ := Run.result_bind_eq_ok hfound
      rw [failed] at ran
      cases ran
  choose! steps hsteps using behind
  have pairs (c : α × Text) (hc : c ∈ firsts) :=
    (hsteps c hc).mono (fun _ _ => firstPair_of_firstOf) fun _ => noPair_of_noneOf
  refine ⟨steps, fun c hc => ⟨many_runWithin (hsteps c hc), pairs c hc⟩, ?_⟩
  exact (Run.result_bind_of_ok ht _).trans
    (Run.result_mapM fun c hc => (pairs c hc).result_foldFrom c.1)

/-- One or two. -/
def smallNumber : Parser [] Int := ((literal ['1']).replace 1).union ((literal ['2']).replace 2)

/-- A plus, or a plus with a minus behind it for a difference. -/
def plusOrMinus : Parser [] (Int → Int → Attempt Int) :=
  ((literal ['+']).replace fun a b => .ok (a + b)).union
    ((literal ['+', '-']).replace fun a b => .ok (a - b))

/-- The longer operator is taken, since no term follows the other one, and the last plus is left. -/
theorem chain_is_left_fold_minus :
    smallNumber.runWithin 6 ['1', '+', '-', '2', '+'] = .ok [(1, ['+', '-', '2', '+'])] ∧
    (∀ c ∈ [((1 : Int), ['+', '-', '2', '+'])], ∃ found,
      (plusOrMinus.then smallNumber).many.runWithin 6 c.2 = .ok found) ∧
    (smallNumber.chain plusOrMinus).run ['1', '+', '-', '2', '+'] = .ok [(-1, ['+'])] := by
  have term : smallNumber.runWithin 6 ['1', '+', '-', '2', '+'] =
      .ok [(1, ['+', '-', '2', '+'])] := rfl
  have steps : Greedy (FirstOf ((plusOrMinus.then smallNumber).runWithin 6))
      (NoneOf ((plusOrMinus.then smallNumber).runWithin 6)) ['+', '-', '2', '+']
      [((fun a b => .ok (a - b), 2), ['+'])] :=
    Greedy.cons_iff.mpr ⟨⟨[], rfl⟩, .inl ⟨by decide, Greedy.nil_iff.mpr rfl⟩⟩
  have rounds := many_runWithin steps
  have returns : ∀ c ∈ [((1 : Int), ['+', '-', '2', '+'])], ∃ found,
      (plusOrMinus.then smallNumber).many.runWithin 6 c.2 = .ok found :=
    List.forall_mem_singleton.mpr ⟨_, rounds⟩
  obtain ⟨found, each, chained⟩ := chain_is_left_fold term returns
  refine ⟨term, returns, ?_⟩
  obtain ⟨same, -⟩ := each _ List.mem_cons_self
  rw [rounds, Except.ok.injEq, List.cons.injEq, Prod.mk.injEq] at same
  rw [run_eq_runWithin]
  refine chained.trans ?_
  rw [List.mapM_cons, ← same.1.1, ← same.1.2]
  rfl

end Parser

end Backtrack
