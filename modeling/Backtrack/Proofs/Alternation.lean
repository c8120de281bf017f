import Backtrack.Parser.Apply
import Backtrack.Proofs.Enclosure
import Mathlib.Data.List.Basic

/-!
# Alternation

A search does not depend on how the points of choice are numbered, and what it remembers of some of
them makes no difference to others. So the search for the second of two alternatives is not
disturbed by the one for the first, which has failed, and a pattern of two alternatives does what
its parts do, the second where the first does not match: `alternation_is_committed_choice`.
-/

namespace Backtrack

namespace Pattern

/-! ## Renaming points of choice -/

namespace Plan

/-- The plan with other numbers for its points of choice. -/
def rename (f : Nat → Nat) : Plan → Plan
  | empty => empty
  | set members => set members
  | look condition => look condition
  | seq a b => seq (a.rename f) (b.rename f)
  | choose id a b => choose (f id) (a.rename f) (b.rename f)
  | again id greedy round => again (f id) greedy (round.rename f)

/-- All points of choice of the plan have numbers below the bound. -/
def Below (n : Nat) : Plan → Prop
  | empty | set _ | look _ => True
  | seq a b => a.Below n ∧ b.Below n
  | choose id a b => id < n ∧ a.Below n ∧ b.Below n
  | again id _ round => id < n ∧ round.Below n

variable {f : Nat → Nat} {copy : Nat → Plan} {id : Nat → Nat} {n : Nat}

theorem optionally_rename (i : Nat) (greedy : Bool) (p : Plan) :
    (optionally i greedy p).rename f = optionally (f i) greedy (p.rename f) := by
  cases greedy <;> rfl

theorem copies_rename (i : Nat) (next : Plan) : (copies copy i next).rename f =
    copies (fun i => (copy i).rename f) i (next.rename f) := by
  induction i generalizing next with
  | zero => rfl
  | succ i ih => exact ih _

theorem nested_rename (greedy : Bool) (i : Nat) (inner : Plan) :
    (nested greedy id copy i inner).rename f =
      nested greedy (fun i => f (id i)) (fun i => (copy i).rename f) i (inner.rename f) := by
  induction i generalizing inner with
  | zero => rfl
  | succ i ih =>
    rw [nested, ih, optionally_rename]
    rfl

theorem Below.optionally {i : Nat} {p : Plan} (hi : i < n) (hp : p.Below n) (greedy : Bool) :
    (optionally i greedy p).Below n := by
  cases greedy
  · exact ⟨hi, trivial, hp⟩
  · exact ⟨hi, hp, trivial⟩

theorem Below.copies {i : Nat} {next : Plan} (hcopy : ∀ j < i, (copy j).Below n)
    (hnext : next.Below n) : (copies copy i next).Below n := by
  induction i generalizing next with
  | zero => exact hnext
  | succ i ih =>
    exact ih (fun j hj => hcopy j (Nat.lt_succ_of_lt hj)) ⟨hcopy i (Nat.lt_succ_self i), hnext⟩

theorem Below.nested {i : Nat} {inner : Plan} (hid : ∀ j < i, id j < n)
    (hcopy : ∀ j < i, (copy j).Below n) (hinner : inner.Below n) (greedy : Bool) :
    (nested greedy id copy i inner).Below n := by
  induction i generalizing inner with
  | zero => exact hinner
  | succ i ih =>
    have round : (seq (copy i) inner).Below n := ⟨hcopy i (Nat.lt_succ_self i), hinner⟩
    exact ih (fun j hj => hid j (Nat.lt_succ_of_lt hj))
      (fun j hj => hcopy j (Nat.lt_succ_of_lt hj))
      (.optionally (hid i (Nat.lt_succ_self i)) round greedy)

end Plan

namespace Expr

/-- To number the points of choice from another number on is to add to their numbers. -/
theorem plan_add (k base : Nat) (e : Expr) : e.plan (k + base) = (e.plan base).rename (k + ·) := by
  fun_induction plan base e with
  | case1 | case2 | case3 => rfl
  | case4 => assumption
  | case5 base a b iha ihb =>
    rw [plan, iha, Nat.add_assoc, ihb]
    rfl
  | case6 base a b iha ihb =>
    rw [plan, Nat.add_assoc, iha, Nat.add_assoc, Nat.add_assoc, ← Nat.add_assoc base, ihb]
    rfl
  | case7 base greedy e ih =>
    rw [plan, Nat.add_assoc, Nat.add_assoc, ih, Plan.optionally_rename]
    rfl
  | case8 base n greedy e ih ih' =>
    simp only [plan, Plan.copies_rename, Plan.rename, Nat.add_assoc, ih]
  | case9 base n m greedy e ih ih' =>
    simp only [Nat.add_assoc] at ih'
    simp only [plan, Plan.copies_rename, Plan.nested_rename, Plan.rename, Nat.add_assoc, ih, ih']

theorem plan_below {n : Nat} (base : Nat) (e : Expr) (h : base + e.choices ≤ n) :
    (e.plan base).Below n := by
  have rounds {i m : Nat} (hi : i < m) (c : Nat) : i * c + c ≤ m * c := by
    rw [← Nat.succ_mul]
    exact Nat.mul_le_mul_right c hi
  fun_induction plan base e with
  | case1 | case2 | case3 => trivial
  | case4 base _ e ih => exact ih h
  | case5 base a b iha ihb =>
    simp only [choices] at h
    exact ⟨iha (by omega), ihb (by omega)⟩
  | case6 base a b iha ihb =>
    simp only [choices] at h
    exact ⟨by omega, iha (by omega), ihb (by omega)⟩
  | case7 base greedy e ih =>
    simp only [choices] at h
    have again : (Plan.again (base + 1) greedy (e.plan (base + 2))).Below n :=
      ⟨by omega, ih (by omega)⟩
    exact .optionally (by omega) again greedy
  | case8 base m greedy e ih ih' =>
    simp only [choices] at h
    have again : (Plan.again (base + (m + 1) * e.choices) greedy
        (e.plan (base + m * e.choices))).Below n :=
      ⟨by omega, ih' (by rw [Nat.succ_mul] at h; omega)⟩
    refine .copies (fun i hi => ih i ?_) again
    have := rounds hi e.choices
    rw [Nat.succ_mul] at h
    omega
  | case9 base m k greedy e ih ih' =>
    simp only [choices] at h
    have inner : Plan.empty.Below n := trivial
    refine .copies (fun i hi => ih i ?_)
      (.nested (fun i hi => ?_) (fun i hi => ih' i ?_) inner greedy)
    · have := rounds hi e.choices
      omega
    · have := rounds hi (1 + e.choices)
      omega
    · have := rounds hi (1 + e.choices)
      omega

end Expr

variable {f : Nat → Nat} {n visits : Nat} {p : Place} {a b a' b' : Search}
  {next next' : Continuation}

/-- What was visited, under the other names of the points of choice. -/
def Visited.Renamed (f : Nat → Nat) (seen seen' : Visited) : Prop :=
  ∀ id o, seen'.contains (f id, o) = seen.contains (id, o)

theorem Visited.Renamed.insert {seen seen' : Visited} (hf : Function.Injective f)
    (h : seen.Renamed f seen') (id o : Nat) :
    Visited.Renamed f (seen.insert (id, o)) (seen'.insert (f id, o)) := by
  intro i o'
  have same : ((f id, o) == (f i, o')) = ((id, o) == (i, o')) := by
    rw [Bool.eq_iff_iff, beq_iff_eq, beq_iff_eq, Prod.mk.injEq, Prod.mk.injEq, hf.eq_iff]
  rw [Std.HashSet.contains_insert, Std.HashSet.contains_insert, same, h i o']

/-- The searches find the same, and visit the same under other names. -/
def Search.Renamed (f : Nat → Nat) (a a' : Search) : Prop :=
  ∀ seen seen', seen.Renamed f seen' →
    (a' seen').1 = (a seen).1 ∧ (a seen).2.Renamed f (a' seen').2

namespace Search.Renamed

theorem fail : Search.Renamed f .fail .fail := fun _ _ h => ⟨rfl, h⟩

theorem found (p : Place) : Search.Renamed f (.found p) (.found p) := fun _ _ h => ⟨rfl, h⟩

theorem orElse (ha : a.Renamed f a') (hb : b.Renamed f b') :
    (a.orElse b).Renamed f (a'.orElse b') := by
  intro seen seen' h
  obtain ⟨same, later⟩ := ha seen seen' h
  rcases hs : a seen with ⟨_ | place, after⟩ <;> rcases hs' : a' seen' with ⟨place', after'⟩ <;>
    rw [hs, hs'] at same later <;> cases same
  · simp only [Search.orElse, hs, hs']
    exact hb after after' later
  · simp only [Search.orElse, hs, hs']
    exact ⟨trivial, later⟩

theorem once (hf : Function.Injective f) (ha : a.Renamed f a') (id : Nat) (p : Place) :
    (Search.once id p a).Renamed f (Search.once (f id) p a') := by
  intro seen seen' h
  simp only [Search.once, h id p.offset]
  split
  · exact ⟨rfl, h⟩
  · exact ha _ _ (h.insert hf id p.offset)

end Search.Renamed

theorem afterRound_renamed (hf : Function.Injective f) {round round' : Continuation → Continuation}
    (hround : ∀ k k' : Continuation, (∀ p, (k p).Renamed f (k' p)) →
      ∀ p, (round k p).Renamed f (round' k' p))
    (hnext : ∀ p, (next p).Renamed f (next' p)) (id : Nat) (greedy : Bool) (n : Nat) (p : Place) :
    (afterRound id greedy round next n p).Renamed f
      (afterRound (f id) greedy round' next' n p) := by
  induction n generalizing p with
  | zero => exact .fail
  | succ n ih =>
    have more := hround _ _ ih p
    simp only [afterRound]
    cases greedy
    · exact ((hnext p).orElse more).once hf id p
    · exact (more.orElse (hnext p)).once hf id p

/-- It does not matter for a search how the points of choice are numbered. -/
theorem search_rename (hf : Function.Injective f) (visits : Nat) (plan : Plan)
    (hnext : ∀ p, (next p).Renamed f (next' p)) (p : Place) :
    (plan.search visits next p).Renamed f ((plan.rename f).search visits next' p) := by
  induction plan generalizing next next' p with
  | empty => exact hnext p
  | set members =>
    simp only [Plan.rename, Plan.search]
    split
    · exact .fail
    · split
      · exact hnext _
      · exact .fail
  | look condition =>
    simp only [Plan.rename, Plan.search]
    split
    · exact hnext p
    · exact .fail
  | seq first second ih₁ ih₂ => exact ih₁ (ih₂ hnext) p
  | choose id first second ih₁ ih₂ => exact ((ih₁ hnext p).orElse (ih₂ hnext p)).once hf id p
  | again id greedy round ih =>
    exact ih (afterRound_renamed hf (fun _ _ hk => ih hk) hnext id greedy visits) p

/-! ## Points of choice that are not visited -/

/-- The search visits no point of choice from `n` on. -/
def Search.StaysBelow (n : Nat) (a : Search) : Prop :=
  ∀ seen id o, n ≤ id → (a seen).2.contains (id, o) = seen.contains (id, o)

namespace Search.StaysBelow

theorem fail : Search.StaysBelow n .fail := fun _ _ _ _ => rfl

theorem found (p : Place) : Search.StaysBelow n (.found p) := fun _ _ _ _ => rfl

theorem orElse (ha : a.StaysBelow n) (hb : b.StaysBelow n) : (a.orElse b).StaysBelow n := by
  intro seen id o hid
  have first := ha seen id o hid
  rcases hs : a seen with ⟨_ | place, after⟩ <;> rw [hs] at first <;>
    simp only [Search.orElse, hs]
  · rw [hb after id o hid, first]
  · exact first

theorem once {i : Nat} (hi : i < n) (ha : a.StaysBelow n) (p : Place) :
    (Search.once i p a).StaysBelow n := by
  intro seen id o hid
  simp only [Search.once]
  split
  · rfl
  · have other : (i, p.offset) ≠ (id, o) := by
      intro same
      cases same
      omega
    rw [ha _ id o hid, Std.HashSet.contains_insert, beq_false_of_ne other, Bool.false_or]

end Search.StaysBelow

theorem afterRound_staysBelow {round : Continuation → Continuation}
    (hround : ∀ k : Continuation, (∀ p, (k p).StaysBelow n) → ∀ p, (round k p).StaysBelow n)
    (hnext : ∀ p, (next p).StaysBelow n) {id : Nat} (hid : id < n) (greedy : Bool) (visits : Nat)
    (p : Place) : (afterRound id greedy round next visits p).StaysBelow n := by
  induction visits generalizing p with
  | zero => exact .fail
  | succ visits ih =>
    have more := hround _ ih p
    simp only [afterRound]
    cases greedy
    · exact ((hnext p).orElse more).once hid p
    · exact (more.orElse (hnext p)).once hid p

theorem search_staysBelow (visits : Nat) {plan : Plan} (h : plan.Below n)
    (hnext : ∀ p, (next p).StaysBelow n) (p : Place) :
    (plan.search visits next p).StaysBelow n := by
  induction plan generalizing next p with
  | empty => exact hnext p
  | set members =>
    simp only [Plan.search]
    split
    · exact .fail
    · split
      · exact hnext _
      · exact .fail
  | look condition =>
    simp only [Plan.search]
    split
    · exact hnext p
    · exact .fail
  | seq first second ih₁ ih₂ => exact ih₁ h.1 (ih₂ h.2 hnext) p
  | choose id first second ih₁ ih₂ =>
    exact ((ih₁ h.2.1 hnext p).orElse (ih₂ h.2.2 hnext p)).once h.1 p
  | again id greedy round ih =>
    exact ih h.2 (afterRound_staysBelow (fun _ hk => ih h.2 hk) hnext h.1 greedy visits) p

/-! ## Alternatives -/

/-- Where none of its points of choice was visited, an expression is matched as it is on its own. -/
theorem search_of_unvisited (e : Expr) (base : Nat) (t : Text) {seen : Visited}
    (h : ∀ id o, base ≤ id → seen.contains (id, o) = false) :
    ((e.plan base).search (t.length + 1) .found (.start t) seen).1 = (e.plan 0).matchEnd t := by
  have fresh : Visited.Renamed (base + ·) ∅ seen := fun id o => by
    rw [h _ o (Nat.le_add_right base id), Std.HashSet.contains_empty]
  have renamed := Expr.plan_add base 0 e
  rw [Nat.add_zero] at renamed
  rw [renamed]
  exact (search_rename (fun _ _ => Nat.add_left_cancel) _ _ (fun p => .found p) _ _ _ fresh).1

theorem matchEnd_alternate (a b : Expr) (t : Text) : ((Expr.alternate a b).plan 0).matchEnd t =
    ((a.plan 0).matchEnd t).or ((b.plan 0).matchEnd t) := by
  -- The choice between the two is visited once, before any other point of choice.
  let chosen : Visited := Std.HashSet.insert ∅ (0, 0)
  have unvisited (id o : Nat) (hid : 0 + 1 ≤ id) : chosen.contains (id, o) = false := by
    have other : (0, 0) ≠ (id, o) := by
      intro same
      cases same
      omega
    unfold chosen
    rw [Std.HashSet.contains_insert, beq_false_of_ne other, Std.HashSet.contains_empty]
    rfl
  have below : (a.plan (0 + 1)).Below (0 + 1 + a.choices) := Expr.plan_below _ a (Nat.le_refl _)
  have first := search_of_unvisited a (0 + 1) t unvisited
  have stays := search_staysBelow (t.length + 1) below (fun p => .found p) (.start t) chosen
  have choose : ((Expr.alternate a b).plan 0).matchEnd t =
      (((a.plan (0 + 1)).search (t.length + 1) .found (.start t)).orElse
        ((b.plan (0 + 1 + a.choices)).search (t.length + 1) .found (.start t)) chosen).1 := by
    change ((Search.once 0 (.start t) _) ∅).1 = _
    rw [Search.once, Std.HashSet.contains_empty]
    rfl
  rw [choose]
  rcases hs : (a.plan (0 + 1)).search (t.length + 1) .found (.start t) chosen with
    ⟨_ | place, after⟩ <;> rw [hs] at first stays <;> rw [← first] <;>
    simp only [Search.orElse, hs, Option.none_or, Option.some_or]
  refine search_of_unvisited b _ t fun id o hid => ?_
  rw [stays id o hid]
  exact unvisited id o (Nat.le_of_add_right_le hid)

theorem split_alternate {p₁ p₂ p : Pattern}
    (h : p.expr = .alternate (.group false p₁.expr) (.group false p₂.expr)) (t : Text) :
    p.split t = (p₁.split t).or (p₂.split t) := by
  have ends : p.plan.matchEnd t = (p₁.plan.matchEnd t).or (p₂.plan.matchEnd t) := by
    rw [p.plan_eq, p₁.plan_eq, p₂.plan_eq, h]
    exact matchEnd_alternate (.group false p₁.expr) (.group false p₂.expr) t
  rw [split, Plan.split, ends, Option.map_or]
  rfl

/-- A text that spells a pattern is read as the expression of the pattern. -/
theorem read_of_ofText {t : Text} {p : Pattern} (h : ofText? t = .ok p) :
    Expr.read? t = some p.expr := by
  unfold ofText? at h
  split at h
  · cases h
  · rename_i read
    split at h
    · cases h
      exact read
    · cases h

theorem ofText_of_read {t : Text} {e : Expr} (read : Expr.read? t = some e)
    (small : e.isSmall = true) : ofText? t = .ok { expr := e } := by
  simp only [ofText?, read, small, ↓reduceIte]

theorem split_alternation {t₁ t₂ : Text} {p₁ p₂ p : Pattern} (free₁ : FlagFree t₁)
    (free₂ : FlagFree t₂) (h₁ : ofText? t₁ = .ok p₁) (h₂ : ofText? t₂ = .ok p₂)
    (h : ofText? (alternation t₁ t₂) = .ok p) (t : Text) :
    p.split t = (p₁.split t).or (p₂.split t) :=
  split_alternate (read_alternation free₁ free₂ (read_of_ofText h₁) (read_of_ofText h₂)
    (read_of_ofText h)) t

end Pattern

theorem Behaviour.split_or {σ α : Type} (f g : Text → Option (α × Text)) :
    (Behaviour.split fun t => (f t).or (g t) : Behaviour σ α) =
      (Behaviour.split f).committed (Behaviour.split g) := by
  funext t
  simp only [split, committed, pure_bind]
  cases f t with
  | none => cases g t <;> rfl
  | some c => rfl

theorem Parser.run_pattern (p : Pattern) (u : Text) :
    (Parser.pattern p).run u = .ok (p.split u).toList := rfl

/-- **Alternation is committed choice.** Let two texts without flags spell patterns, and let the
text that has them as its alternatives, each in a group, spell one too. Then this pattern does what
the first pattern does, committed, with the second as its alternative, for every debugger and in
every scope. So it has the same run on every input: with the candidate of the first pattern where
that has one, no matter what the second matches, and with what the second has otherwise. -/
theorem alternation_is_committed_choice {t₁ t₂ : Text} {p₁ p₂ p : Pattern}
    (free₁ : Pattern.FlagFree t₁) (free₂ : Pattern.FlagFree t₂)
    (h₁ : Pattern.ofText? t₁ = .ok p₁) (h₂ : Pattern.ofText? t₂ = .ok p₂)
    (h : Pattern.ofText? (Pattern.alternation t₁ t₂) = .ok p) :
    (∀ {σ : Type} {Γ : Scopes} (d : Debugger σ) (depth : Nat) (s : Store σ Γ),
      (Parser.pattern p).behaviour d depth s =
        ((Parser.pattern p₁).committed (.pattern p₂)).behaviour d depth s) ∧
    ∀ u, (Parser.pattern p).run u = ((Parser.pattern p₁).committed (.pattern p₂)).run u ∧
      (∀ c, (Parser.pattern p₁).run u = .ok [c] → (Parser.pattern p).run u = .ok [c]) ∧
      ((Parser.pattern p₁).run u = .ok [] →
        (Parser.pattern p).run u = (Parser.pattern p₂).run u) := by
  have split := Pattern.split_alternation free₁ free₂ h₁ h₂ h
  have same {σ : Type} {Γ : Scopes} (d : Debugger σ) (depth : Nat) (s : Store σ Γ) :
      (Parser.pattern p).behaviour d depth s =
        ((Parser.pattern p₁).committed (.pattern p₂)).behaviour d depth s :=
    (congrArg Behaviour.split (funext split)).trans (Behaviour.split_or p₁.split p₂.split)
  refine ⟨same, fun u => ⟨?_, fun c first => ?_, fun none => ?_⟩⟩
  · rw [Parser.run, Parser.run, Parser.runWith, Parser.runWith, same]
  · rw [Parser.run_pattern] at first ⊢
    cases found : p₁.split u with
    | none =>
      rw [found] at first
      cases first
    | some c' =>
      rw [found] at first
      rw [split, found]
      exact first
  · rw [Parser.run_pattern] at none
    cases found : p₁.split u with
    | none => rw [Parser.run_pattern, Parser.run_pattern, split, found, Option.none_or]
    | some c =>
      rw [found] at none
      cases none

/-- The first pattern is preferred where the second matches more, and the second is taken where the
first does not match. -/
theorem alternation_is_committed_choice_shorter :
    Pattern.FlagFree ['a'] ∧ Pattern.FlagFree ['[', 'a', '-', 'b', ']', 'b'] ∧
    ∃ p₁ p₂ p, Pattern.ofText? ['a'] = .ok p₁ ∧
      Pattern.ofText? ['[', 'a', '-', 'b', ']', 'b'] = .ok p₂ ∧
      Pattern.ofText? (Pattern.alternation ['a'] ['[', 'a', '-', 'b', ']', 'b']) = .ok p ∧
      (Parser.pattern p₂).run ['a', 'b'] = .ok [(['a', 'b'], [])] ∧
      (Parser.pattern p).run ['a', 'b'] = .ok [(['a'], ['b'])] ∧
      (Parser.pattern p).run ['b', 'b'] = .ok [(['b', 'b'], [])] := by
  let e₁ : Pattern.Expr := .set (.single 'a')
  let e₂ : Pattern.Expr := .concat (.set (.range 0x61 0x62)) (.set (.single 'b'))
  have free₁ : Pattern.FlagFree ['a'] := by
    unfold Pattern.FlagFree
    cbv
  have free₂ : Pattern.FlagFree ['[', 'a', '-', 'b', ']', 'b'] := by
    unfold Pattern.FlagFree
    cbv
  have h₁ := Pattern.ofText_of_read (t := ['a']) (e := e₁) (by cbv) (by decide +kernel)
  have h₂ := Pattern.ofText_of_read (t := ['[', 'a', '-', 'b', ']', 'b']) (e := e₂)
    (by cbv) (by decide +kernel)
  have h := Pattern.ofText_of_read (e := .alternate (.group false e₁) (.group false e₂))
    (t := Pattern.alternation ['a'] ['[', 'a', '-', 'b', ']', 'b']) (by cbv) (by decide +kernel)
  obtain ⟨-, reads⟩ := alternation_is_committed_choice free₁ free₂ h₁ h₂ h
  exact ⟨free₁, free₂, _, _, _, h₁, h₂, h, rfl, (reads _).2.1 _ rfl, (reads _).2.2 rfl⟩

end Backtrack
