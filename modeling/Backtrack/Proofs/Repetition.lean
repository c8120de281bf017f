import Backtrack.Proofs.Remainder

/-!
# Repetition with a fallback

To repeat a parser is to apply it once or more, with the empty list for a fallback, as long as
its first candidate reads something. A first candidate that reads nothing ends the repetition
with one item; applied once or more, the parser gives the same item a second time:
`many_eq_some_or_reads_nothing`.
-/

namespace Backtrack

variable {σ α β : Type}

/-! ## The rounds of a repetition -/

section

variable {b : Behaviour σ α} {items : List α} {t : Text} {state state₁ : σ}

theorem repeatFrom_of_failure (h : (b t).outcome state = (.ok [], state₁)) :
    (repeatFrom b items t).outcome state = (.ok (items.reverse, t), state₁) := by
  rw [repeatFrom, Run.outcome_bind_of_ok h]
  rfl

variable {item : α} {rest : Text} {more : Candidates α}

theorem repeatFrom_of_progress (h : (b t).outcome state = (.ok ((item, rest) :: more), state₁))
    (progress : byteLength rest < byteLength t) :
    (repeatFrom b items t).outcome state = (repeatFrom b (item :: items) rest).outcome state₁ := by
  rw [repeatFrom, Run.outcome_bind_of_ok h]
  simp only [progress, ↓reduceDIte]

/-- The item of a round that reads nothing is kept, and no round follows it. -/
theorem repeatFrom_of_no_progress (h : (b t).outcome state = (.ok ((item, rest) :: more), state₁))
    (stuck : ¬byteLength rest < byteLength t) :
    (repeatFrom b items t).outcome state = (.ok ((item :: items).reverse, rest), state₁) := by
  rw [repeatFrom, Run.outcome_bind_of_ok h]
  simp only [stuck, ↓reduceDIte]
  rfl

end

/-- What a repetition gives is its only candidate. -/
theorem outcome_many_eq_ok {b : Behaviour σ α} {t : Text} {state state₁ : σ}
    {cs : Candidates (List α)} (h : (b.many t).outcome state = (.ok cs, state₁)) :
    ∃ c, (repeatFrom b [] t).outcome state = (.ok c, state₁) ∧ cs = [c] := by
  obtain ⟨c, _, hc, he⟩ := Run.outcome_bind_eq_ok h
  cases he
  exact ⟨c, hc, rfl⟩

/-- The first of several runs that all return is run from where they start. -/
theorem outcome_mapM_cons_eq_ok {f : α → Run σ β} {a : α} {as : List α} {state state₁ : σ}
    {bs : List β} (h : ((a :: as).mapM f).outcome state = (.ok bs, state₁)) :
    ∃ x xs state₂, (f a).outcome state = (.ok x, state₂) ∧ bs = x :: xs := by
  rw [List.mapM_cons] at h
  obtain ⟨x, state₂, hx, h⟩ := Run.outcome_bind_eq_ok h
  obtain ⟨xs, _, -, he⟩ := Run.outcome_bind_eq_ok h
  cases he
  exact ⟨x, xs, state₂, hx, rfl⟩

/-- One application or more, with the empty list for a fallback: without candidates there is the
fallback, and else the rounds behind the first candidate. -/
theorem outcome_some_committed_eq_ok {b : Behaviour σ α} {t : Text} {state state₁ : σ}
    {cs : Candidates (List α)}
    (h : ((b.some.committed (.pure [])) t).outcome state = (.ok cs, state₁)) :
    ∃ found state₂, (b t).outcome state = (.ok found, state₂) ∧
      (found = [] → cs = [([], t)]) ∧
      ∀ item rest more, found = (item, rest) :: more →
        ∃ c state₃, (repeatFrom b [item] rest).outcome state₂ = (.ok c, state₃) ∧ cs = [c] := by
  obtain ⟨lists, state₂, hlists, h⟩ := Run.outcome_bind_eq_ok h
  obtain ⟨found, state₃, hfound, hlists⟩ := Run.outcome_bind_eq_ok hlists
  refine ⟨found, state₃, hfound, ?_, ?_⟩
  · rintro rfl
    cases hlists
    cases h
    rfl
  · rintro item rest more rfl
    obtain ⟨c, others, state₄, hc, rfl⟩ := outcome_mapM_cons_eq_ok hlists
    cases h
    exact ⟨c, state₄, hc, rfl⟩

namespace Parser

/-- **A repetition is one application or more, or the empty list,** as long as the first
candidate reads something. Where it reads nothing, the repetition keeps its result once, and one
application or more keeps it twice: the round that reads nothing comes after the first application
there. A first candidate of another kind only comes from a custom parser that gives out more text
than it gets. -/
theorem many_eq_some_or_reads_nothing {p : Parser [] α} {t : Text} {cs ds : Candidates (List α)}
    (hm : p.many.run t = .ok cs) (hs : (p.some.committed (pure [])).run t = .ok ds) :
    ∃ found, p.run t = .ok found ∧
      ((∀ c ∈ found.head?, byteLength c.2 < byteLength t) → cs = ds) ∧
      (∀ a, found.head? = Option.some (a, t) → cs = [([a], t)] ∧ ds = [([a, a], t)]) ∧
      (p.Customs Shortens → ∀ c ∈ found.head?, byteLength c.2 < byteLength t ∨ c.2 = t) := by
  have rounds : ((p.behaviour .silent (depthFor t) .empty).many t).outcome () = (.ok cs, ()) :=
    Prod.ext hm rfl
  have fallback : (((p.behaviour .silent (depthFor t) .empty).some.committed (.pure [])) t).outcome
      () = (.ok ds, ()) := Prod.ext hs rfl
  obtain ⟨c, hc, rfl⟩ := outcome_many_eq_ok rounds
  obtain ⟨found, _, hfound, none, first⟩ := outcome_some_committed_eq_ok fallback
  refine ⟨found, congrArg Prod.fst hfound, ?_, ?_, ?_⟩
  · intro reads
    rcases found with _ | ⟨⟨item, rest⟩, more⟩
    · rw [repeatFrom_of_failure hfound] at hc
      cases hc
      exact (none rfl).symm
    · obtain ⟨e, _, he, rfl⟩ := first item rest more rfl
      rw [repeatFrom_of_progress hfound (reads _ rfl), he] at hc
      cases hc
      rfl
  · intro a ha
    obtain ⟨more, rfl⟩ := List.head?_eq_some_iff.mp ha
    have stuck : ¬byteLength t < byteLength t := Nat.lt_irrefl _
    rw [repeatFrom_of_no_progress hfound stuck] at hc
    cases hc
    obtain ⟨e, _, he, rfl⟩ := first a t more rfl
    rw [repeatFrom_of_no_progress hfound stuck] at he
    cases he
    exact ⟨rfl, rfl⟩
  · intro customs c hc
    obtain ⟨more, rfl⟩ := List.head?_eq_some_iff.mp hc
    have leaves := p.behaviour_leaves_suffix .silent (depthFor t) customs hfound
    by_cases h : c.2 = t
    · exact .inr h
    · exact .inl (byteLength_lt_of_suffix leaves.head h)

/-- What one application or more gives behind the only candidate of the first one. -/
theorem run_some_committed_of_single {p : Parser [] α} {t rest : Text} {a : α}
    {c : List α × Text} (h : p.run t = .ok [(a, rest)])
    (hc : (repeatFrom (p.behaviour .silent (depthFor t) .empty) [a] rest).outcome () =
      (.ok c, ())) : (p.some.committed (pure [])).run t = .ok [c] := by
  have first : ((p.behaviour .silent (depthFor t) .empty) t).outcome () = (.ok [(a, rest)], ()) :=
    Prod.ext h rfl
  have applied : ((p.behaviour .silent (depthFor t) .empty).some t).outcome () = (.ok [c], ()) := by
    rw [Behaviour.some, Behaviour.followedByMany, Run.outcome_bind_of_ok first, List.mapM_cons,
      Run.outcome_bind_of_ok hc]
    rfl
  exact congrArg Prod.fst (Run.outcome_bind_of_ok applied)

/-- A letter if there is one: after the letter there is one more round, which reads nothing. -/
def letterA : Parser [] Text := (literal ['a']).orElse (pure [])

theorem many_eq_some_or_reads_nothing_letter :
    letterA.many.run ['a'] = .ok [([['a'], []], [])] ∧
    (letterA.some.committed (pure [])).run ['a'] = .ok [([['a'], []], [])] ∧
    ∃ found, letterA.run ['a'] = .ok found ∧ found.head? = Option.some (['a'], []) := by
  have behind (items : List Text) : (repeatFrom (letterA.behaviour .silent 2 .empty) items
      []).outcome () = (.ok (([] :: items).reverse, []), ()) :=
    repeatFrom_of_no_progress rfl (Nat.lt_irrefl 0)
  have rounds : letterA.many.run ['a'] = .ok [([['a'], []], [])] :=
    congrArg Prod.fst (Run.outcome_bind_of_ok
      ((repeatFrom_of_progress rfl (by decide)).trans (behind [['a']])))
  have applied : (letterA.some.committed (pure [])).run ['a'] = .ok [([['a'], []], [])] :=
    run_some_committed_of_single rfl (behind [['a']])
  obtain ⟨found, hfound, -⟩ := many_eq_some_or_reads_nothing rounds applied
  refine ⟨rounds, applied, found, hfound, ?_⟩
  cases hfound
  rfl

/-- What reads nothing is kept twice behind a first application, so that the two parsers are not
the same. -/
theorem many_ne_some_committed :
    ¬∀ (p : Parser [] Nat) (t : Text) (cs ds : Candidates (List Nat)), p.many.run t = .ok cs →
      (p.some.committed (pure [])).run t = .ok ds → cs = ds := by
  have kept (items : List Nat) : (repeatFrom ((pure 1 : Parser [] Nat).behaviour .silent 1 .empty)
      items []).outcome () = (.ok ((1 :: items).reverse, []), ()) :=
    repeatFrom_of_no_progress rfl (Nat.lt_irrefl 0)
  have once : (pure 1 : Parser [] Nat).many.run [] = .ok [([1], [])] :=
    congrArg Prod.fst (Run.outcome_bind_of_ok (kept []))
  have twice : ((pure 1 : Parser [] Nat).some.committed (pure [])).run [] = .ok [([1, 1], [])] :=
    run_some_committed_of_single rfl (kept [1])
  intro same
  cases same _ _ _ _ once twice

end Parser

end Backtrack
