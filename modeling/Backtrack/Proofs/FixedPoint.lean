import Backtrack.Proofs.Depth
import Backtrack.Proofs.Substitution

/-!
# The fixed point of a definition

A definition that refers to itself does what it does with itself for its handle, and its
handle does what it does: `recursion_is_a_fixed_point`. So definitions may be unfolded and
folded anywhere in a grammar, also inside of others and in parsers that are made while the
grammar runs.
-/

namespace Backtrack

namespace Parser

variable {σ : Type} {Γ : Scopes} {α β : Type}

/-- The run of the parser ends like this, at some depth and not for want of depth. -/
def Returns (p : Parser Γ α) (d : Debugger σ) (s : Store σ Γ) (t : Text) (state : σ)
    (outcome : Except Halt (Candidates α) × σ) : Prop :=
  outcome.1 ≠ .error .tooDeep ∧ ∃ depth, (p.behaviour d depth s t).outcome state = outcome

/-- The two parsers have the same candidates or the same faults, and leave the debugger in the same
state, on the texts on which one of them returns. -/
def Alike (d : Debugger σ) (s : Store σ Γ) (p q : Parser Γ α) : Prop :=
  ∀ t state outcome, p.Returns d s t state outcome ↔ q.Returns d s t state outcome

/-- Some of the definitions in the one parser are unfolded in the other one, at most `k` times more
than once, and others are folded. -/
inductive Unfolding (k : Nat) : {Γ : Scopes} → {α : Type} → Parser Γ α → Parser Γ α → Prop
  /-- The handle of a definition gives way to the definition. -/
  | unfold {Γ : Scopes} {α β : Type} (definition : Parser (β :: Γ) β) (body : Parser (β :: Γ) α)
    {j : Nat} (h : j ≤ k) :
    Unfolding k (define .alive definition body) (body.fill (definition.unfolded j))
  | fold {Γ : Scopes} {α β : Type} (definition : Parser (β :: Γ) β) (body : Parser (β :: Γ) α)
    {j : Nat} (h : j ≤ k) :
    Unfolding k (body.fill (definition.unfolded j)) (define .alive definition body)
  | same {Γ : Scopes} {α : Type} (p : Parser Γ α) : Unfolding k p p
  | tryMap {Γ : Scopes} {α β : Type} {p p' : Parser Γ α} (f : α → Attempt β)
    (h : Unfolding k p p') : Unfolding k (tryMap p f) (tryMap p' f)
  | bind {Γ : Scopes} {α β : Type} {p p' : Parser Γ α} {next next' : α → Parser Γ β}
    (h : Unfolding k p p') (hn : ∀ a, Unfolding k (next a) (next' a)) :
    Unfolding k (bind p next) (bind p' next')
  | union {Γ : Scopes} {α : Type} {p p' q q' : Parser Γ α} (h₁ : Unfolding k p p')
    (h₂ : Unfolding k q q') : Unfolding k (union p q) (union p' q')
  | committed {Γ : Scopes} {α : Type} {p p' q q' : Parser Γ α} (h₁ : Unfolding k p p')
    (h₂ : Unfolding k q q') : Unfolding k (committed p q) (committed p' q')
  | orElse {Γ : Scopes} {α : Type} {p p' q q' : Parser Γ α} (h₁ : Unfolding k p p')
    (h₂ : Unfolding k q q') : Unfolding k (orElse p q) (orElse p' q')
  | tryFilter {Γ : Scopes} {α : Type} {p p' : Parser Γ α} (keep : α → Attempt Bool)
    (h : Unfolding k p p') : Unfolding k (tryFilter p keep) (tryFilter p' keep)
  | optional {Γ : Scopes} {α : Type} {p p' : Parser Γ α} (h : Unfolding k p p') :
    Unfolding k (optional p) (optional p')
  | many {Γ : Scopes} {α : Type} {p p' : Parser Γ α} (h : Unfolding k p p') :
    Unfolding k (many p) (many p')
  | some {Γ : Scopes} {α : Type} {p p' : Parser Γ α} (h : Unfolding k p p') :
    Unfolding k (some p) (some p')
  | separatedByAtLeastOne {Γ : Scopes} {α β : Type} {p p' : Parser Γ α} {q q' : Parser Γ β}
    (h₁ : Unfolding k p p') (h₂ : Unfolding k q q') :
    Unfolding k (separatedByAtLeastOne p q) (separatedByAtLeastOne p' q')
  | separatedBy {Γ : Scopes} {α β : Type} {p p' : Parser Γ α} {q q' : Parser Γ β}
    (h₁ : Unfolding k p p') (h₂ : Unfolding k q q') :
    Unfolding k (separatedBy p q) (separatedBy p' q')
  | chain {Γ : Scopes} {α : Type} {p p' : Parser Γ α} {q q' : Parser Γ (α → α → Attempt α)}
    (h₁ : Unfolding k p p') (h₂ : Unfolding k q q') : Unfolding k (chain p q) (chain p' q')
  | then {Γ : Scopes} {α β : Type} {p p' : Parser Γ α} {q q' : Parser Γ β}
    (h₁ : Unfolding k p p') (h₂ : Unfolding k q q') : Unfolding k (.then p q) (.then p' q')
  | ap {Γ : Scopes} {α β : Type} {p p' : Parser Γ (α → Attempt β)} {q q' : Parser Γ α}
    (h₁ : Unfolding k p p') (h₂ : Unfolding k q q') : Unfolding k (ap p q) (ap p' q')
  | token {Γ : Scopes} {α : Type} {p p' : Parser Γ α} (h : Unfolding k p p') :
    Unfolding k (token p) (token p')
  | debug {Γ : Scopes} {α : Type} {p p' : Parser Γ α} (mark : Mark) (h : Unfolding k p p') :
    Unfolding k (debug mark p) (debug mark p')
  | define {Γ : Scopes} {α β : Type} {definition definition' : Parser (β :: Γ) β}
    {body body' : Parser (β :: Γ) α} (state : Lifetime) (h₁ : Unfolding k definition definition')
    (h₂ : Unfolding k body body') :
    Unfolding k (define state definition body) (define state definition' body')

namespace Unfolding

variable {k : Nat} {p q : Parser Γ α}

theorem symm (h : Unfolding k p q) : Unfolding k q p := by
  induction h with
  | unfold definition body h => exact .fold definition body h
  | fold definition body h => exact .unfold definition body h
  | same p => exact .same p
  | tryMap f _ ih => exact .tryMap f ih
  | bind _ _ ih ihn => exact .bind ih ihn
  | union _ _ ih₁ ih₂ => exact .union ih₁ ih₂
  | committed _ _ ih₁ ih₂ => exact .committed ih₁ ih₂
  | orElse _ _ ih₁ ih₂ => exact .orElse ih₁ ih₂
  | tryFilter keep _ ih => exact .tryFilter keep ih
  | optional _ ih => exact .optional ih
  | many _ ih => exact .many ih
  | some _ ih => exact .some ih
  | separatedByAtLeastOne _ _ ih₁ ih₂ => exact .separatedByAtLeastOne ih₁ ih₂
  | separatedBy _ _ ih₁ ih₂ => exact .separatedBy ih₁ ih₂
  | chain _ _ ih₁ ih₂ => exact .chain ih₁ ih₂
  | «then» _ _ ih₁ ih₂ => exact .then ih₁ ih₂
  | ap _ _ ih₁ ih₂ => exact .ap ih₁ ih₂
  | token _ ih => exact .token ih
  | debug mark _ ih => exact .debug mark ih
  | define state _ _ ih₁ ih₂ => exact .define state ih₁ ih₂

open Correspondence

/-- A parser that does as it does with handles that go deeper. -/
theorem deeper_self (p : Parser Γ α) (d : Debugger σ) {n m : Nat} (hnm : n ≤ m) {s s' : Store σ Γ}
    (hs : s.Corresponds (deeper σ) Set.univ s') :
    (deeper σ).behaviours Set.univ Set.univ (p.behaviour d n s) (p.behaviour d m s') :=
  behaviour_corresponds (deeper_fits _ d hnm) suffixClosed_univ p.customs_univ hs

/-- A definition goes as deep as any number of uses of it within itself, if it is given more. -/
theorem deeper_uses (definition : Parser (β :: Γ) β) (d : Debugger σ) {n m : Nat} (hnm : n ≤ m)
    {s s' : Store σ Γ} (hs : s.Corresponds (deeper σ) Set.univ s') {i j : Nat} (hij : i ≤ j) :
    (deeper σ).behaviours Set.univ Set.univ
      (Backtrack.unfold (fun b => definition.behaviour d n (s.push (.alive b))) i)
      (Backtrack.unfold (fun b => definition.behaviour d m (s'.push (.alive b))) j) := by
  apply deeper_unfold _ hij
  intro b b' hb
  exact deeper_self definition d hnm (hs.push hb)

/-- What one parser does at some depth the other one does if it may go further by all the
unfoldings. -/
theorem deeper (h : Unfolding k p q) (d : Debugger σ) {n m : Nat} (hnm : n + 1 + k ≤ m)
    {s s' : Store σ Γ} (hs : s.Corresponds (deeper σ) Set.univ s') :
    (deeper σ).behaviours Set.univ Set.univ (p.behaviour d n s) (q.behaviour d m s') := by
  have less : n ≤ m := by omega
  induction h with
  | unfold definition body hj =>
    rw [behaviour_fill, behaviour_unfolded]
    exact deeper_self body d less (hs.push (deeper_uses definition d less hs (by omega)))
  | fold definition body hj =>
    rw [behaviour_fill, behaviour_unfolded]
    exact deeper_self body d less (hs.push (deeper_uses definition d less hs (by omega)))
  | same p => exact deeper_self p d less hs
  | tryMap f _ ih => exact (ih hs).tryMap f
  | bind _ _ ih ihn => exact (ih hs).bind fun a => ihn a hs
  | union _ _ ih₁ ih₂ => exact (ih₁ hs).union (ih₂ hs)
  | committed _ _ ih₁ ih₂ => exact (ih₁ hs).committed (ih₂ hs)
  | orElse _ _ ih₁ ih₂ => exact (ih₁ hs).orElse (ih₂ hs)
  | tryFilter keep _ ih => exact (ih hs).tryFilter keep
  | optional _ ih => exact (ih hs).optional
  | many _ ih => exact (ih hs).many
  | some _ ih => exact (ih hs).some (ih hs)
  | separatedByAtLeastOne _ _ ih₁ ih₂ => exact (ih₁ hs).separatedByAtLeastOne (ih₁ hs) (ih₂ hs)
  | separatedBy _ _ ih₁ ih₂ => exact (ih₁ hs).separatedBy (ih₁ hs) (ih₂ hs) subset_rfl
  | chain _ _ ih₁ ih₂ => exact (ih₁ hs).chain (ih₁ hs) (ih₂ hs)
  | «then» _ _ ih₁ ih₂ => exact (ih₁ hs).then (ih₂ hs)
  | ap _ _ ih₁ ih₂ => exact (ih₁ hs).ap (ih₂ hs)
  | token _ ih => exact (ih hs).token (suffixClosed_univ.pattern .blanks)
  | debug mark _ ih => exact (deeper_fits _ d less).debug mark _ _ (ih hs)
  | define state _ _ ih₁ ih₂ =>
    apply ih₂
    apply hs.push
    apply state.cell_corresponds
    apply deeper_unfold _ less
    intro b b' hb
    exact ih₁ (hs.push hb)

end Unfolding

namespace Returns

variable {d : Debugger σ} {s : Store σ Γ} {p q : Parser Γ α} {t : Text} {state : σ}
  {outcome : Except Halt (Candidates α) × σ}

/-- A run that returns at some depth returns in the same way wherever more is done. -/
theorem of_deeper (h : p.Returns d s t state outcome)
    (more : ∀ n, ∃ m, (Correspondence.deeper σ).behaviours Set.univ Set.univ (p.behaviour d n s)
      (q.behaviour d m s)) : q.Returns d s t state outcome := by
  obtain ⟨inTime, n, rfl⟩ := h
  obtain ⟨m, hm⟩ := more n
  rcases hm t trivial state with deep | ⟨same, -⟩
  · exact absurd deep inTime
  · exact ⟨inTime, m, same⟩

/-- A run returns in one way only. -/
theorem unique {p : Parser [] α} {outcome' : Except Halt (Candidates α) × σ}
    (h : p.Returns d .empty t state outcome) (h' : p.Returns d .empty t state outcome') :
    outcome = outcome' := by
  obtain ⟨inTime, n, rfl⟩ := h
  obtain ⟨inTime', m, rfl⟩ := h'
  rcases Nat.le_total n m with hnm | hmn
  · exact (p.behaviour_of_le d hnm inTime).symm
  · exact p.behaviour_of_le d hmn inTime'

end Returns

theorem Unfolding.alike {k : Nat} {p q : Parser Γ α} (h : Unfolding k p q) (d : Debugger σ)
    (s : Store σ Γ) : Alike d s p q := by
  intro t state outcome
  have hs := s.corresponds_deeper
  constructor
  · intro returns
    exact returns.of_deeper fun n => ⟨n + 1 + k, h.deeper d (Nat.le_refl _) hs⟩
  · intro returns
    exact returns.of_deeper fun n => ⟨n + 1 + k, h.symm.deeper d (Nat.le_refl _) hs⟩

namespace Alike

variable {d : Debugger σ}

theorem trans {s : Store σ Γ} {p q r : Parser Γ α} (h : Alike d s p q) (h' : Alike d s q r) :
    Alike d s p r :=
  fun t state outcome => (h t state outcome).trans (h' t state outcome)

variable {p q : Parser [] α}

/-- Runs that both return end in the same way. -/
theorem eq_of_returns (h : Alike d .empty p q) {n m : Nat} {t : Text} {state : σ}
    (hp : ((p.behaviour d n .empty t).outcome state).1 ≠ .error .tooDeep)
    (hq : ((q.behaviour d m .empty t).outcome state).1 ≠ .error .tooDeep) :
    (p.behaviour d n .empty t).outcome state = (q.behaviour d m .empty t).outcome state :=
  ((h t state _).mp ⟨hp, n, rfl⟩).unique ⟨hq, m, rfl⟩

theorem applyWith_eq (h : Alike d .empty p q) {t : Text} {state : σ}
    (hp : ((p.applyWith d t).outcome state).1 ≠ .error .tooDeep)
    (hq : ((q.applyWith d t).outcome state).1 ≠ .error .tooDeep) :
    (p.applyWith d t).outcome state = (q.applyWith d t).outcome state := by
  rw [outcome_applyWith] at hp hq ⊢
  rw [outcome_applyWith]
  cases hb : Pattern.blanks.split t with
  | none => rfl
  | some c =>
    rw [hb] at hp hq
    exact h.eq_of_returns hp hq

end Alike

/-- **A definition is a fixed point.** A definition does what it does with itself for its handle, any
number of times over. A handle does what its definition does as long as that is alive, whatever it
is used in: so the definition and then its handle are the definition twice. Hence definitions can be
unfolded anywhere in a grammar, at any depth and also inside of definitions that use the handles of
others around them, and each text on which the runs return has the same outcome, with the same calls
of the debugger. -/
theorem recursion_is_a_fixed_point {σ : Type} (d : Debugger σ) :
    (∀ (Γ : Scopes) (β : Type) (definition : Parser (β :: Γ) β) (s : Store σ Γ),
      (∀ k, Alike d s (recursive definition) (definition.unfolded k)) ∧
      (∀ (γ : Type) (body : Parser (β :: Γ) γ),
        Alike d s (define .alive definition body) (body.fill (recursive definition))) ∧
      Alike d s (define .alive definition (definition.then self))
        ((recursive definition).then (recursive definition))) ∧
    (∀ (Γ : Scopes) (α : Type) (p q : Parser Γ α) (k : Nat) (s : Store σ Γ),
      Unfolding k p q → Alike d s p q) ∧
    ∀ (α : Type) (p q : Parser [] α), Alike d .empty p q → ∀ (t : Text) (state : σ),
      (((p.runWith d t).outcome state).1 ≠ .error .tooDeep →
        ((q.runWith d t).outcome state).1 ≠ .error .tooDeep →
          (p.runWith d t).outcome state = (q.runWith d t).outcome state) ∧
      (((p.applyWith d t).outcome state).1 ≠ .error .tooDeep →
        ((q.applyWith d t).outcome state).1 ≠ .error .tooDeep →
          (p.applyWith d t).outcome state = (q.applyWith d t).outcome state) := by
  refine ⟨?_, ?_, ?_⟩
  · intro Γ β definition s
    have once : Unfolding 0 (recursive definition) (definition.fill (recursive definition)) :=
      .unfold definition definition (Nat.le_refl 0)
    refine ⟨?_, ?_, ?_⟩
    · intro k
      cases k with
      | zero => exact (Unfolding.same (k := 0) _).alike d s
      | succ k => exact (Unfolding.unfold definition definition (Nat.le_refl k)).alike d s
    · intro γ body
      exact (Unfolding.unfold definition body (Nat.le_refl 0)).alike d s
    · -- The handle gives way to the definition, which was unfolded where it stands first.
      have handles : Unfolding 0 (define .alive definition (definition.then self))
          ((definition.fill (recursive definition)).then (recursive definition)) :=
        .unfold definition (definition.then self) (Nat.le_refl 0)
      have folded := Unfolding.then once.symm (.same (recursive definition))
      exact (handles.alike d s).trans (folded.alike d s)
  · intro Γ α p q k s h
    exact h.alike d s
  · intro α p q h t state
    exact ⟨h.eq_of_returns, h.applyWith_eq⟩

/-- How deep parentheses are nested, with a mark at each of them. -/
def nesting : Parser [Nat] Nat :=
  debug ⟨"nesting", ⟨"tests/recursive.rs", 1⟩⟩
    (((self.delimitedBy (literal ['(']) (literal [')'])).map (· + 1)).orElse (pure 0))

theorem recursion_is_a_fixed_point_nesting :
    Alike .recorder .empty (recursive nesting) (nesting.unfolded 2) ∧
      (((recursive nesting).runWith .recorder ['(', '(', ')', ')']).outcome #[]).1 ≠
        .error .tooDeep ∧
      (((nesting.unfolded 2).runWith .recorder ['(', '(', ')', ')']).outcome #[]).1 ≠
        .error .tooDeep ∧
      ((recursive nesting).runWith .recorder ['(', '(', ')', ')']).outcome #[] =
        ((nesting.unfolded 2).runWith .recorder ['(', '(', ')', ')']).outcome #[] := by
  have alike : Alike .recorder .empty (recursive nesting) (nesting.unfolded 2) :=
    ((recursion_is_a_fixed_point .recorder).1 [] Nat nesting .empty).1 2
  have returns (p : Parser [] Nat)
      (h : ((p.runWith .recorder ['(', '(', ')', ')']).outcome #[]).1 = .ok [(2, [])]) :
      ((p.runWith .recorder ['(', '(', ')', ')']).outcome #[]).1 ≠ .error .tooDeep := by
    rw [h]
    exact nofun
  have first := returns (recursive nesting) rfl
  have second := returns (nesting.unfolded 2) rfl
  exact ⟨alike, first, second, ((recursion_is_a_fixed_point .recorder).2.2 Nat _ _ alike
    ['(', '(', ')', ')'] #[]).1 first second⟩

end Parser

end Backtrack
