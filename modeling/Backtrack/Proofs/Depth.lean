import Backtrack.Parser.Apply
import Backtrack.Proofs.Parametricity

/-!
# How deep a run goes

A run that was not cut short for its depth is the same at every greater depth:
`Parser.behaviour_of_le`. So the depth decides only whether there is an outcome, and never
which one.
-/

namespace Backtrack

/-- The first run goes too deep, or else the second one is equal to it and the results satisfy the
predicate. -/
def Correspondence.deeper (σ : Type) : Correspondence σ σ where
  runs P r r' := ∀ state, (r.outcome state).1 = .error .tooDeep ∨
    r'.outcome state = r.outcome state ∧ ∀ a, (r.outcome state).1 = .ok a → P a
  pure hP state := by
    refine .inr ⟨rfl, ?_⟩
    rintro _ ⟨⟩
    exact hP
  bind {α β P Q r r' next next'} hr hnext state := by
    rcases h : r.outcome state with ⟨e | a, state'⟩
    · rw [Run.outcome_bind_of_error h]
      rcases hr state with deep | ⟨same, -⟩
      · rw [h] at deep
        cases deep
        exact .inl rfl
      · rw [Run.outcome_bind_of_error (same.trans h)]
        exact .inr ⟨rfl, nofun⟩
    · rw [Run.outcome_bind_of_ok h]
      rcases hr state with deep | ⟨same, hP⟩
      · rw [h] at deep
        cases deep
      · rw [Run.outcome_bind_of_ok (same.trans h)]
        exact hnext a (hP a (by rw [h])) state'
  fault f state := .inr ⟨rfl, nofun⟩

namespace Correspondence

variable {σ α : Type} {S : Set Text}

theorem deeper_refl (r : Run σ α) : (deeper σ).runs (fun _ => True) r r :=
  fun _ => .inr ⟨rfl, fun _ _ => trivial⟩

theorem deeper_unfold {f f' : Behaviour σ α → Behaviour σ α}
    (hf : ∀ b b', (deeper σ).behaviours S S b b' → (deeper σ).behaviours S S (f b) (f' b'))
    {n m : Nat} (hnm : n ≤ m) : (deeper σ).behaviours S S (unfold f n) (unfold f' m) := by
  induction n generalizing m with
  | zero => exact fun _ _ _ => .inl rfl
  | succ n ih =>
    obtain ⟨m, rfl⟩ : ∃ k, m = k + 1 := ⟨m - 1, by omega⟩
    exact hf _ _ (ih (by omega))

theorem deeper_fits (S : Set Text) (d : Debugger σ) {n m : Nat} (hnm : n ≤ m) :
    (deeper σ).Fits S d d n m where
  debug := fun _ _ _ _ h => h.debug (fun _ => deeper_refl _) (fun _ => deeper_refl _)
  unfold := fun _ _ _ hf => deeper_unfold hf hnm

end Correspondence

/-- Each handle does as it does. -/
theorem Store.corresponds_deeper {σ : Type} {Γ : Scopes} (s : Store σ Γ) :
    s.Corresponds (.deeper σ) Set.univ s :=
  fun _ _ _ _ _ => .inr ⟨rfl, fun _ _ _ _ => trivial⟩

namespace Run

variable {α β : Type}

/-- How a run without a debugger ends. -/
def result (r : Run Unit α) : Except Halt α := (r.outcome ()).1

theorem result_bind (r : Run Unit α) (next : α → Run Unit β) :
    (r >>= next).result = r.result >>= fun a => (next a).result := by
  rw [result, outcome_bind, result]
  rcases r.outcome () with ⟨e | a, _⟩ <;> rfl

theorem result_bind_of_ok {r : Run Unit α} {a : α} (h : r.result = .ok a)
    (next : α → Run Unit β) : (r >>= next).result = (next a).result := by
  rw [result_bind, h]
  rfl

theorem result_bind_of_error {r : Run Unit α} {e : Halt} (h : r.result = .error e)
    (next : α → Run Unit β) : (r >>= next).result = .error e := by
  rw [result_bind, h]
  rfl

theorem result_bind_eq_ok {r : Run Unit α} {next : α → Run Unit β} {b : β}
    (h : (r >>= next).result = .ok b) :
    ∃ a, r.result = .ok a ∧ (next a).result = .ok b := by
  obtain ⟨a, _, ha, hb⟩ := outcome_bind_eq_ok (Prod.ext h rfl : _ = (Except.ok b, ()))
  exact ⟨a, congrArg Prod.fst ha, congrArg Prod.fst hb⟩

end Run

/-- Runs the parser on the text as it is, where each definition may be used within itself `depth`
times. -/
def Parser.runWithin {α : Type} (depth : Nat) (p : Parser [] α) (t : Text) :
    Except Halt (Candidates α) :=
  (p.behaviour .silent depth .empty t).result

theorem Parser.run_eq_runWithin {α : Type} (p : Parser [] α) (t : Text) :
    p.run t = p.runWithin (depthFor t) t := rfl

/-- An outcome that is not for want of depth is the outcome at every greater depth. -/
theorem Parser.behaviour_of_le {σ α : Type} (d : Debugger σ) (p : Parser [] α) {n m : Nat}
    (hnm : n ≤ m) {t : Text} {state : σ}
    (h : ((p.behaviour d n .empty t).outcome state).1 ≠ .error .tooDeep) :
    (p.behaviour d m .empty t).outcome state = (p.behaviour d n .empty t).outcome state := by
  rcases behaviour_corresponds (Correspondence.deeper_fits Set.univ d hnm) suffixClosed_univ
    p.customs_univ (Store.empty_corresponds _ _) t trivial state with deep | ⟨same, -⟩
  · exact absurd deep h
  · exact same

theorem Parser.runWithin_of_le {α : Type} {p : Parser [] α} {n m : Nat} (hnm : n ≤ m) {t : Text}
    (h : p.runWithin n t ≠ .error .tooDeep) : p.runWithin m t = p.runWithin n t :=
  congrArg Prod.fst (p.behaviour_of_le .silent hnm h)

/-- What a parser does on a text it also does at the depth for a longer one. -/
theorem Parser.runWithin_of_run {α : Type} {p : Parser [] α} {t : Text} {cs : Candidates α}
    (h : p.run t = .ok cs) {n : Nat} (hn : t.length < n) : p.runWithin n t = .ok cs := by
  have returned : p.runWithin (depthFor t) t = .ok cs := h
  have enough : depthFor t ≤ n := hn
  rw [runWithin_of_le enough (by rw [returned]; nofun), returned]

end Backtrack
