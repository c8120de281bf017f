import Backtrack.Proofs.Scoping

/-!
# Free names

A use of a name is free if no binding of the name is around it. Evaluation fails exactly if there
is a free use of a name that is not on the stack, and tells the first such name from left to right:
`evaluation_fails_at_first_unbound`. Of the stack it sees only the latest binding of each name with
a free use.
-/

namespace Backtrack.Calculator

variable {ν α β : Type}

/-! ## Uses of names -/

/-- A use of a name, and the names that are bound around it, innermost first. -/
structure Occurrence where
  name : Text
  around : List Text
  deriving DecidableEq, Repr

/-- No binding of the name is around its use. -/
def Occurrence.Free (o : Occurrence) : Prop := o.name ∉ o.around

/-- The name has no binding, neither around its use nor on the stack. -/
def Occurrence.Unbound (bindings : Bindings ν) (o : Occurrence) : Prop :=
  o.Free ∧ o.name ∉ bindings.map Prod.fst

instance (bindings : Bindings ν) (o : Occurrence) : Decidable (o.Unbound bindings) :=
  inferInstanceAs (Decidable (_ ∉ _ ∧ _ ∉ _))

/-- The uses of names in an expression, from left to right: those in the left operand before those
in the right one, and those in a bound expression before those in the body. Only the body has the
binding around it. -/
def Expr.occurrences (around : List Text) : Expr ν → List Occurrence
  | number _ => []
  | name x => [⟨x, around⟩]
  | negate operand => operand.occurrences around
  | binary _ left right => left.occurrences around ++ right.occurrences around
  | binding x bound body => bound.occurrences around ++ body.occurrences (x :: around)

/-! ## The first unbound use -/

/-- The result is a value if there is no such use, and otherwise it tells the name of the use. -/
def Answers : Option Occurrence → Except EvalError α → Prop
  | none, .ok _ => True
  | some o, .error missing => missing = .unbound o.name
  | _, _ => False

theorem Answers.of_error {first : Option Occurrence} {missing : EvalError}
    (h : Answers first (.error missing : Except EvalError α)) :
    ∃ o, first = some o ∧ missing = .unbound o.name := by
  cases first with
  | none => exact h.elim
  | some o => exact ⟨o, rfl, h⟩

theorem Answers.of_some {o : Occurrence} {r : Except EvalError α} (h : Answers (some o) r) :
    r = .error (.unbound o.name) := by
  cases r with
  | ok a => exact h.elim
  | error missing => exact congrArg Except.error h

/-- What comes second is looked at only if all was bound before. -/
theorem Answers.bind {first second : Option Occurrence} {r : Except EvalError α}
    {next : α → Except EvalError β} (h : Answers first r) (hnext : ∀ a, Answers second (next a)) :
    Answers (first.or second) (r >>= next) := by
  cases r with
  | ok a =>
    cases first with
    | none => exact hnext a
    | some o => exact h.elim
  | error missing =>
    cases first with
    | none => exact h.elim
    | some o => exact h

theorem Answers.map {first : Option Occurrence} {r : Except EvalError α} (h : Answers first r)
    (f : α → β) : Answers first (r.map f) := by
  cases r <;> cases first <;> exact h

/-- At a place with these names around it, the environment has no value for a name exactly if its
use is unbound. -/
def Environment.Covers (env : Environment ν) (around : List Text) (bindings : Bindings ν) : Prop :=
  ∀ x, env x = none ↔ (⟨x, around⟩ : Occurrence).Unbound bindings

theorem Bindings.environment_covers (bindings : Bindings ν) :
    bindings.environment.Covers [] bindings := by
  intro x
  simp only [environment, Occurrence.Unbound, Occurrence.Free, List.lookup_eq_none_iff,
    List.not_mem_nil, not_false_eq_true, true_and, List.mem_map, not_exists, not_and, bne_iff_ne]
  exact ⟨fun h p hp same => h p hp same.symm, fun h p hp same => h p hp same.symm⟩

theorem Environment.Covers.extend {env : Environment ν} {around : List Text}
    {bindings : Bindings ν} (h : env.Covers around bindings) (x : Text) (value : ν) :
    (env.extend x value).Covers (x :: around) bindings := by
  intro y
  by_cases same : y = x
  · simp [Occurrence.Unbound, Occurrence.Free, same]
  · have outside := h y
    rw [env.extend_of_ne value same, outside]
    simp [Occurrence.Unbound, Occurrence.Free, same]

/-- The meaning of an expression depends on what is bound just as the order of its uses says. -/
theorem Expr.meaning_answers (A : Arithmetic ν) (e : Expr ν) {env : Environment ν}
    {around : List Text} {bindings : Bindings ν} (h : env.Covers around bindings) :
    Answers ((e.occurrences around).find? (Occurrence.Unbound bindings ·)) (e.meaning A env) := by
  induction e generalizing env around with
  | number value => trivial
  | name x =>
    have covered := h x
    by_cases unbound : (⟨x, around⟩ : Occurrence).Unbound bindings
    · have missing : env x = none := covered.mpr unbound
      simp [occurrences, meaning, missing, unbound, Answers]
    · obtain ⟨value, found⟩ := Option.ne_none_iff_exists'.mp (mt covered.mp unbound)
      simp [occurrences, meaning, found, unbound, Answers]
  | negate operand ih => exact (ih h).map A.negate
  | binary operator left right ihl ihr =>
    rw [occurrences, List.find?_append]
    exact (ihl h).bind fun x => (ihr h).map (A.apply operator x)
  | binding x bound body ihbound ihbody =>
    rw [occurrences, List.find?_append]
    exact (ihbound h).bind fun value => ihbody (h.extend x value)

/-! ## What the meaning depends on -/

theorem Environment.extend_congr {env env' : Environment ν} {x y : Text} (value : ν)
    (h : y ≠ x → env y = env' y) : env.extend x value y = env'.extend x value y := by
  by_cases same : y = x
  · subst same
    rw [env.extend_self, env'.extend_self]
  · rw [env.extend_of_ne value same, env'.extend_of_ne value same, h same]

/-- Two environments give an expression the same meaning if they agree on the names that are bound
around it and on those with a free use in it. -/
theorem Expr.meaning_congr (A : Arithmetic ν) (e : Expr ν) {env env' : Environment ν}
    {around : List Text} (inner : ∀ x ∈ around, env x = env' x)
    (outer : ∀ o ∈ e.occurrences around, o.Free → env o.name = env' o.name) :
    e.meaning A env = e.meaning A env' := by
  induction e generalizing env env' around with
  | number value => rfl
  | name x =>
    have same : env x = env' x := by
      by_cases bound : x ∈ around
      · exact inner x bound
      · exact outer ⟨x, around⟩ (List.mem_singleton_self _) bound
    rw [meaning, meaning, same]
  | negate operand ih => rw [meaning, meaning, ih inner outer]
  | binary operator left right ihl ihr =>
    have first := ihl inner fun o ho => outer o (List.mem_append_left _ ho)
    have second := ihr inner fun o ho => outer o (List.mem_append_right _ ho)
    rw [meaning, meaning, first, second]
  | binding x bound body ihbound ihbody =>
    have first := ihbound inner fun o ho => outer o (List.mem_append_left _ ho)
    -- In the body `x` has the same value in both, so they may differ at `x` outside of it.
    have second (value : ν) :
        body.meaning A (env.extend x value) = body.meaning A (env'.extend x value) := by
      refine @ihbody (env.extend x value) (env'.extend x value) (x :: around) ?_ ?_
      · intro y hy
        apply Environment.extend_congr
        intro differs
        exact inner y (List.mem_of_ne_of_mem differs hy)
      · intro o ho free
        apply Environment.extend_congr
        intro _
        exact outer o (List.mem_append_right _ ho) free
    simp only [meaning, first, second]

/-! ## Evaluation -/

namespace Expr

variable (A : Arithmetic ν) (e : Expr ν) (bindings : Bindings ν)

/-- The first use from left to right that is unbound. -/
def firstUnbound : Option Occurrence := (e.occurrences []).find? (Occurrence.Unbound bindings ·)

theorem firstUnbound_eq_some_iff {o : Occurrence} :
    e.firstUnbound bindings = some o ↔ o.Unbound bindings ∧ ∃ before after,
      e.occurrences [] = before ++ o :: after ∧ ∀ p ∈ before, ¬ p.Unbound bindings := by
  simp [firstUnbound, List.find?_eq_some_iff_append]

theorem exists_firstUnbound_iff :
    (∃ o, e.firstUnbound bindings = some o) ↔ ∃ o ∈ e.occurrences [], o.Unbound bindings := by
  simp [firstUnbound, ← Option.isSome_iff_exists, List.find?_isSome]

theorem eval_answers : Answers (e.firstUnbound bindings) ((e.eval A).run bindings).1 := by
  rw [run_eval]
  exact e.meaning_answers A bindings.environment_covers

end Expr

/-- **Evaluation fails at the first unbound use.** It fails exactly if a name is used that is bound
neither around its use nor on the stack, in a body or in what is bound, and the message tells the
first of these names from left to right. The outcome is the same on every other stack with the same
latest bindings of the names that have a free use. -/
theorem evaluation_fails_at_first_unbound (A : Arithmetic ν) (e : Expr ν) (bindings : Bindings ν) :
    ((∃ missing, ((e.eval A).run bindings).1 = .error missing) ↔
      ∃ o ∈ e.occurrences [], o.Unbound bindings) ∧
    (∀ before o after, e.occurrences [] = before ++ o :: after → o.Unbound bindings →
      (∀ p ∈ before, ¬ p.Unbound bindings) →
        ((e.eval A).run bindings).1.mapError EvalError.message =
          .error ("Cannot find variable `" ++ String.ofList o.name ++ "` in scope")) ∧
    ∀ bindings' : Bindings ν,
      (∀ o ∈ e.occurrences [], o.Free → bindings'.lookup o.name = bindings.lookup o.name) →
        ((e.eval A).run bindings').1 = ((e.eval A).run bindings).1 := by
  have answers := e.eval_answers A bindings
  refine ⟨?_, ?_, ?_⟩
  · rw [← e.exists_firstUnbound_iff bindings]
    constructor
    · rintro ⟨missing, failed⟩
      rw [failed] at answers
      obtain ⟨o, first, -⟩ := answers.of_error
      exact ⟨o, first⟩
    · rintro ⟨o, first⟩
      rw [first] at answers
      exact ⟨_, answers.of_some⟩
  · intro before o after split unbound bound
    have first := (e.firstUnbound_eq_some_iff bindings).mpr ⟨unbound, before, after, split, bound⟩
    rw [first] at answers
    rw [answers.of_some]
    rfl
  · intro bindings' same
    rw [Expr.run_eval, Expr.run_eval]
    exact e.meaning_congr A (by simp) same

/-- In `let x = y; 1 + z` the name `y` is missed, though the binding is not used. In
`let x = y; x + y` neither the binding of `x` on the stack nor the older one of `y` is used. -/
theorem evaluation_fails_at_first_unbound_bound :
    ((Expr.eval .whole (.binding ['x'] (.name ['y']) (.binary .add (.number 1) (.name ['z'])))).run
      [(['x'], 4)]).1.mapError EvalError.message =
        .error "Cannot find variable `y` in scope" ∧
    ((Expr.eval .whole (.binding ['x'] (.name ['y']) (.binary .add (.name ['x']) (.name ['y'])))).run
      [(['z'], 0), (['y'], 1)]).1 = .ok 2 := by
  constructor
  · exact (evaluation_fails_at_first_unbound .whole _ [(['x'], 4)]).2.1 [] ⟨['y'], []⟩
      [⟨['z'], [['x']]⟩] rfl (by decide) (by decide)
  · rw [(evaluation_fails_at_first_unbound .whole _ [(['y'], 1), (['x'], 9), (['y'], 2)]).2.2
      [(['z'], 0), (['y'], 1)] (by simp [Expr.occurrences, Occurrence.Free]; rfl)]
    rfl

end Backtrack.Calculator
