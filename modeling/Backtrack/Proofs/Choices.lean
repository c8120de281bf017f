import Backtrack.Proofs.Reordering
import Mathlib.Data.List.Perm.Basic

/-!
# Choices

There are three ways to choose between parsers: to try all of them, to try the others where the
first one fails, and to commit to the first candidate. `choices_form_an_algebra` has the laws by
which grammars of choices are rearranged. To go on after a choice is to choose between parsers that
go on; but a choice of how to go on mixes the candidates of the two ways.
-/

namespace Backtrack

variable {σ α β : Type}

namespace Behaviour

/-- The behaviour without candidates. -/
def fail : Behaviour σ α := .split fun _ => none

theorem fail_eq (t : Text) : (fail : Behaviour σ α) t = Pure.pure [] := rfl

theorem union_assoc (a b c : Behaviour σ α) : (a.union b).union c = a.union (b.union c) := by
  funext t
  simp only [union, bind_assoc, pure_bind, List.append_assoc]

theorem orElse_assoc (a b c : Behaviour σ α) : (a.orElse b).orElse c = a.orElse (b.orElse c) := by
  funext t
  simp only [orElse, bind_assoc]
  apply bind_congr
  intro found
  cases found with
  | nil => rfl
  | cons _ _ => simp only [pure_bind]

theorem fail_union (b : Behaviour σ α) : fail.union b = b := by
  funext t
  simp only [union, fail_eq, pure_bind, List.nil_append, bind_pure]

theorem union_fail (b : Behaviour σ α) : b.union fail = b := by
  funext t
  simp only [union, fail_eq, pure_bind, List.append_nil, bind_pure]

theorem fail_orElse (b : Behaviour σ α) : fail.orElse b = b := by
  funext t
  simp only [orElse, fail_eq, pure_bind]

theorem orElse_fail (b : Behaviour σ α) : b.orElse fail = b := by
  funext t
  refine (bind_congr fun found => ?_).trans (bind_pure (b t))
  cases found with
  | nil => rfl
  | cons _ _ => rfl

/-- To commit to the first candidate is to fall back, and to keep the first candidate. -/
theorem committed_eq_take (b c : Behaviour σ α) (t : Text) :
    b.committed c t = List.take 1 <$> b.orElse c t := by
  simp only [committed, orElse, map_bind]
  apply bind_congr
  intro found
  cases found with
  | nil => exact bind_pure_comp (List.take 1) (c t)
  | cons _ _ => simp only [map_pure]

theorem committed_assoc (a b c : Behaviour σ α) :
    (a.committed b).committed c = a.committed (b.committed c) := by
  funext t
  simp only [committed, bind_assoc]
  apply bind_congr
  intro found
  cases found with
  | cons _ _ => simp only [pure_bind, List.take_succ_cons, List.take_zero]
  | nil =>
    simp only [bind_assoc, pure_bind]
    apply bind_congr
    intro others
    cases others with
    | nil => simp only [pure_bind, List.take_nil, bind_assoc, List.take_take, Nat.min_self]
    | cons _ _ => simp only [pure_bind, List.take_succ_cons, List.take_zero]

/-- The second behaviour is not run where the first one has a candidate. -/
theorem outcome_choice_of_cons {b : Behaviour σ α} {t : Text} {state state' : σ} {c : α × Text}
    {more : Candidates α} (h : (b t).outcome state = (.ok (c :: more), state'))
    (other : Behaviour σ α) :
    (b.orElse other t).outcome state = (.ok (c :: more), state') ∧
      (b.committed other t).outcome state = (.ok [c], state') :=
  ⟨Run.outcome_bind_of_ok h, Run.outcome_bind_of_ok h⟩

/-- Where both behaviours have results, it makes no difference to the first candidate whether the
second one is run. -/
theorem result_committed_of_union {b c : Behaviour Unit α} {t : Text} {cs : Candidates α}
    (h : (b.union c t).result = .ok cs) : (b.committed c t).result = .ok (cs.take 1) := by
  obtain ⟨ds, hds, h⟩ := Run.result_bind_eq_ok h
  obtain ⟨es, hes, h⟩ := Run.result_bind_eq_ok h
  cases h
  refine (Run.result_bind_of_ok hds _).trans ?_
  cases ds with
  | nil => exact Run.result_bind_of_ok hes _
  | cons _ _ => rfl

end Behaviour

/-! ## To go on after a choice -/

theorem result_union (b c : Behaviour Unit α) (t : Text) : (b.union c t).result = do
    let ds ← (b t).result
    let es ← (c t).result
    return ds ++ es := by
  simp only [Behaviour.union, Run.result_bind]
  rfl

theorem result_bind (b : Behaviour Unit α) (next : α → Behaviour Unit β) (t : Text) :
    (b.bind next t).result = (b t).result >>= fun cs => (fromEach next cs).result :=
  Run.result_bind (b t) (fromEach next)

theorem result_fromEach_cons (next : α → Behaviour Unit β) (a : α) (rest : Text)
    (cs : Candidates α) : (fromEach next ((a, rest) :: cs)).result = (do
      let here ← (next a rest).result
      let others ← (fromEach next cs).result
      return here ++ others) := by
  simp only [fromEach, Run.result_bind]
  rfl

/-- The two have the same candidates, though perhaps in another order, or both are cut short. -/
inductive Rearranged : Except Halt (Candidates α) → Except Halt (Candidates α) → Prop
  | ok {cs ds : Candidates α} (h : cs.Perm ds) : Rearranged (.ok cs) (.ok ds)
  | error (e e' : Halt) : Rearranged (.error e) (.error e')

/-- Each candidate goes on in the one way and then in the other. Those that go on in the one way can
all be put first, and then none is lost. -/
theorem rearranged_fromEach_union (f g : α → Behaviour Unit β) (cs : Candidates α) :
    Rearranged (fromEach (fun a => (f a).union (g a)) cs).result (do
      let ds ← (fromEach f cs).result
      let es ← (fromEach g cs).result
      return ds ++ es) := by
  induction cs with
  | nil => exact .ok (.refl [])
  | cons c cs ih =>
    obtain ⟨a, rest⟩ := c
    simp only [result_fromEach_cons, result_union]
    generalize (fromEach (fun a => (f a).union (g a)) cs).result = both at ih ⊢
    generalize (fromEach f cs).result = ds at ih ⊢
    generalize (fromEach g cs).result = es at ih ⊢
    rcases (f a rest).result with e | ds₁
    · exact .error e e
    rcases (g a rest).result with e | es₁
    · rcases ds with e' | ds
      · exact .error e e'
      · exact .error e e
    rcases ds with e' | ds
    · cases ih
      exact .error _ e'
    rcases es with e' | es
    · cases ih
      exact .error _ e'
    · cases ih with
      | ok same =>
        apply Rearranged.ok
        rw [List.append_assoc, List.append_assoc]
        exact ((same.append_left es₁).trans (List.perm_append_comm_assoc es₁ ds es)).append_left ds₁

/-- To choose how to go on is to choose between parsers that go on, but for the order of the
candidates. -/
theorem rearranged_bind_union (b : Behaviour Unit α) (f g : α → Behaviour Unit β) (t : Text) :
    Rearranged ((b.bind fun a => (f a).union (g a)) t).result
      ((b.bind f).union (b.bind g) t).result := by
  rw [result_union, result_bind, result_bind, result_bind]
  rcases (b t).result with e | cs
  · exact .error e e
  · exact rearranged_fromEach_union f g cs

namespace Correspondence

/-- To go on after a choice is to choose between parsers that go on. They go on after the first
choice before the second one is tried, and so in another order. -/
theorem reordered_union_bind {b c : Behaviour Log α} {f : α → Behaviour Log β} (hb : Steady b)
    (hc : Steady c) (hf : ∀ a, Steady (f a)) :
    reordered.behaviours Set.univ Set.univ ((b.union c).bind f) ((b.bind f).union (c.bind f)) := by
  intro t ht
  simp only [Behaviour.union, Behaviour.bind, bind_assoc, pure_bind, fromEach_append]
  apply reordered.bind (hb t ht)
  intro cs _
  apply reordered_swap (hc t ht) (steady_fromEach hf cs)
  intro ds first
  exact reordered.bind (steady_fromEach hf ds) fun _ _ => reordered.pure fun _ _ => trivial

end Correspondence

/-- **The laws of choices.** Each of the three choices is associative, and failure on either side
makes no difference to the first two. To commit is to fall back and to keep the first candidate: the
same run for every debugger, in which the second parser is not run if the first one has a candidate.
Where both parsers return, this is the first of all their candidates. To go on after a choice
between all candidates is to choose between parsers that go on, with the same candidates in the same
order. To choose how to go on is only the same up to the order of the candidates. -/
theorem choices_form_an_algebra {Γ : Scopes} (d : Debugger σ) (depth : Nat) (s : Store σ Γ)
    (D : Definitions Γ) (p q r : Parser Γ α) (f g : α → Parser Γ β) :
    (((p.union q).union r).behaviour d depth s = (p.union (q.union r)).behaviour d depth s ∧
      ((p.orElse q).orElse r).behaviour d depth s = (p.orElse (q.orElse r)).behaviour d depth s ∧
      ((p.committed q).committed r).behaviour d depth s =
        (p.committed (q.committed r)).behaviour d depth s) ∧
    ((Parser.empty.union p).behaviour d depth s = p.behaviour d depth s ∧
      (p.union .empty).behaviour d depth s = p.behaviour d depth s ∧
      (Parser.empty.orElse p).behaviour d depth s = p.behaviour d depth s ∧
      (p.orElse .empty).behaviour d depth s = p.behaviour d depth s) ∧
    (∀ t, (p.committed q).behaviour d depth s t =
      List.take 1 <$> (p.orElse q).behaviour d depth s t) ∧
    (∀ t state state' c more,
      (p.behaviour d depth s t).outcome state = (.ok (c :: more), state') →
        ((p.orElse q).behaviour d depth s t).outcome state = (.ok (c :: more), state') ∧
        ((p.committed q).behaviour d depth s t).outcome state = (.ok [c], state')) ∧
    (∀ t cs, (D.enclose (p.union q)).runWithin depth t = .ok cs →
      (D.enclose (p.committed q)).runWithin depth t = .ok (cs.take 1)) ∧
    (D.enclose ((p.union q).bind f)).Reordered (D.enclose ((p.bind f).union (q.bind f))) ∧
    (∀ t, Rearranged ((D.enclose (p.bind fun x => (f x).union (g x))).runWithin depth t)
      ((D.enclose ((p.bind f).union (p.bind g))).runWithin depth t)) ∧
    ∃ (p : Parser [] Nat) (f g : Nat → Parser [] Nat) (t : Text) (cs ds : Candidates Nat),
      (p.bind fun x => (f x).union (g x)).run t = .ok cs ∧
        ((p.bind f).union (p.bind g)).run t = .ok ds ∧ cs ≠ ds := by
  refine ⟨⟨?_, ?_, ?_⟩, ⟨?_, ?_, ?_, ?_⟩, ?_, ?_, ?_, ?_, ?_, ?_⟩
  · exact Behaviour.union_assoc _ _ _
  · exact Behaviour.orElse_assoc _ _ _
  · exact Behaviour.committed_assoc _ _ _
  · exact Behaviour.fail_union _
  · exact Behaviour.union_fail _
  · exact Behaviour.fail_orElse _
  · exact Behaviour.orElse_fail _
  · exact Behaviour.committed_eq_take _ _
  · exact fun t state state' c more h => Behaviour.outcome_choice_of_cons h _
  · intro t cs h
    rw [Parser.runWithin, Definitions.behaviour_enclose] at h ⊢
    exact Behaviour.result_committed_of_union h
  · apply Parser.Reordered.enclose
    intro depth
    exact Correspondence.reordered_union_bind (p.steady D depth) (q.steady D depth)
      fun a => (f a).steady D depth
  · intro t
    rw [Parser.runWithin, Parser.runWithin, Definitions.behaviour_enclose,
      Definitions.behaviour_enclose]
    exact rearranged_bind_union _ _ _ t
  · exact ⟨.union (.pure 1) (.pure 2), .pure, fun x => .pure (x * 10), [],
      [(1, []), (10, []), (2, []), (20, [])], [(1, []), (2, []), (10, []), (20, [])], rfl, rfl,
      by decide⟩

/-- The first letter is kept, whether there is another candidate or the second parser, which is not
run, would raise a fault. -/
theorem choices_form_an_algebra_letters :
    ((Parser.literal ['a']).union (.literal ['a', 'b'])).run ['a', 'b'] =
      .ok [(['a'], ['b']), (['a', 'b'], [])] ∧
    ((Parser.literal ['a']).committed (.literal ['a', 'b'])).run ['a', 'b'] =
      .ok [(['a'], ['b'])] ∧
    ((Parser.literal ['a']).behaviour .silent 3 .empty ['a', 'b']).outcome () =
      (.ok [(['a'], ['b'])], ()) ∧
    ((Parser.literal ['a']).committed (.raise .dropped)).run ['a', 'b'] = .ok [(['a'], ['b'])] := by
  have both : ((Parser.literal ['a']).union (.literal ['a', 'b'])).run ['a', 'b'] =
      .ok [(['a'], ['b']), (['a', 'b'], [])] := rfl
  have letter : ((Parser.literal ['a']).behaviour .silent 3 .empty ['a', 'b']).outcome () =
      (.ok [(['a'], ['b'])], ()) := rfl
  obtain ⟨-, -, -, -, first, -⟩ := choices_form_an_algebra .silent 3 .empty .none
    (.literal ['a']) (.literal ['a', 'b']) .empty .pure .pure
  obtain ⟨-, -, -, kept, -⟩ := choices_form_an_algebra .silent 3 .empty .none
    (.literal ['a']) (.raise .dropped) .empty .pure .pure
  exact ⟨both, first ['a', 'b'] _ both, letter,
    congrArg Prod.fst (kept ['a', 'b'] () () _ _ letter).2⟩

end Backtrack
