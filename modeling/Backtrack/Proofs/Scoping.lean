import Backtrack.Calculator.Evaluation
import Mathlib.Logic.Function.Basic

/-!
# Lexical scoping

Evaluation works on a stack of bindings, and leaves it as it found it. What it computes is the
meaning of the expression in an environment, which binds a name in one part of the expression and
nowhere else: `evaluation_is_lexically_scoped`. A binding can as well be taken away by putting the
value in the place of the name, and this determines the meaning: `substitutive_iff`.
-/

namespace Backtrack.Calculator

variable {ν α β : Type}

/-! ## Meaning in an environment -/

/-- The values of the names that are bound. -/
abbrev Environment (ν : Type) := Text → Option ν

/-- A name stands for its latest binding on the stack. -/
def Bindings.environment (bindings : Bindings ν) : Environment ν := fun name => bindings.lookup name

/-- The environment with one more name. An earlier value of the same name is hidden. -/
def Environment.extend (env : Environment ν) (name : Text) (value : ν) : Environment ν :=
  Function.update env name (some value)

theorem Bindings.environment_cons (name : Text) (value : ν) (bindings : Bindings ν) :
    Bindings.environment ((name, value) :: bindings) = bindings.environment.extend name value := by
  funext y
  by_cases h : y = name
  · simp [environment, Environment.extend, h]
  · have differs : (y == name) = false := beq_eq_false_iff_ne.mpr h
    simp [environment, Environment.extend, List.lookup_cons, h, differs]

namespace Environment

variable (env : Environment ν) {x y : Text} (v w : ν)

@[simp] theorem extend_self : env.extend x v x = some v := Function.update_self ..

theorem extend_of_ne (h : y ≠ x) : env.extend x v y = env y := Function.update_of_ne h ..

theorem extend_extend : (env.extend x v).extend x w = env.extend x w := Function.update_idem ..

theorem extend_comm (h : x ≠ y) : (env.extend x v).extend y w = (env.extend y w).extend x v :=
  Function.update_comm h ..

end Environment

namespace Expr

/-- The meaning of an expression in an environment. A binding holds in its body only: the name is
not bound by it in the expression that gives its value. -/
def meaning (A : Arithmetic ν) : Expr ν → Environment ν → Except EvalError ν
  | number value, _ => .ok value
  | name x, env => (env x).elim (.error (.unbound x)) .ok
  | negate operand, env => (operand.meaning A env).map A.negate
  | binary operator left right, env => do
    let x ← left.meaning A env
    let y ← right.meaning A env
    return A.apply operator x y
  | binding x bound body, env => do
    let value ← bound.meaning A env
    body.meaning A (env.extend x value)

/-- The number of operators, names and numbers. -/
def size : Expr ν → Nat
  | number _ | name _ => 1
  | negate operand => operand.size + 1
  | binary _ left right => left.size + right.size + 1
  | binding _ bound body => bound.size + body.size + 1

end Expr

/-! ## Evaluation on a stack -/

namespace Evaluation

theorem run_bind (r : Evaluation ν α) (next : α → Evaluation ν β) (bindings : Bindings ν) :
    (r >>= next).run bindings =
      match r.run bindings with
      | (.ok a, bindings) => (next a).run bindings
      | (.error e, bindings) => (.error e, bindings) := by
  change (ExceptT.run (ExceptT.bind r next)) bindings = _
  simp only [ExceptT.run, ExceptT.bind, ExceptT.mk, bind, StateT.bind]
  rcases r bindings with ⟨_ | _, _⟩ <;> rfl

theorem run_resolve (x : Text) (bindings : Bindings ν) :
    (resolve x : Evaluation ν ν).run bindings =
      ((bindings.environment x).elim (.error (EvalError.unbound x)) .ok, bindings) := by
  have stack : (get : Evaluation ν (Bindings ν)).run bindings = (.ok bindings, bindings) := rfl
  rw [resolve, run_bind, stack]
  dsimp only [Bindings.environment]
  cases bindings.lookup x <;> rfl

/-- What is evaluated with one more binding leaves the stack without it. -/
theorem run_within {x : Text} {value : ν} {e : Evaluation ν ν} {bindings : Bindings ν}
    {result : Except EvalError ν}
    (h : e.run ((x, value) :: bindings) = (result, (x, value) :: bindings)) :
    (within x value e).run bindings = (result, bindings) := by
  have pop : (within x value e).run bindings =
      ((e.run ((x, value) :: bindings)).1, (e.run ((x, value) :: bindings)).2.tail) := rfl
  rw [pop, h]
  rfl

end Evaluation

namespace Expr

variable (A : Arithmetic ν)

/-- **Evaluation computes the meaning** in the environment of the stack, and keeps the stack, also
where there is no value. -/
theorem run_eval (e : Expr ν) (bindings : Bindings ν) :
    (e.eval A).run bindings = (e.meaning A bindings.environment, bindings) := by
  induction e generalizing bindings with
  | number value => rfl
  | name x => exact Evaluation.run_resolve x bindings
  | negate operand ih =>
    rw [eval, Evaluation.run_bind, ih, meaning]
    cases operand.meaning A bindings.environment <;> rfl
  | binary operator left right ihl ihr =>
    rw [eval, Evaluation.run_bind, ihl, meaning]
    cases left.meaning A bindings.environment with
    | error missing => rfl
    | ok x =>
      dsimp only
      rw [Evaluation.run_bind, ihr]
      cases right.meaning A bindings.environment <;> rfl
  | binding x bound body ihbound ihbody =>
    rw [eval, Evaluation.run_bind, ihbound, meaning]
    cases bound.meaning A bindings.environment with
    | error missing => rfl
    | ok value =>
      have inner := ihbody ((x, value) :: bindings)
      rw [Bindings.environment_cons] at inner
      exact Evaluation.run_within inner

/-! ## Substitution -/

/-- The expression with the value in the place of the free occurrences of the name. A binding of the
same name hides it in the body, but not in the expression that gives the other value. -/
def replace (x : Text) (value : ν) : Expr ν → Expr ν
  | number v => number v
  | name y => if y = x then number value else name y
  | negate operand => negate (operand.replace x value)
  | binary operator left right =>
    binary operator (left.replace x value) (right.replace x value)
  | binding y bound body =>
    binding y (bound.replace x value) (if y = x then body else body.replace x value)

theorem size_replace (x : Text) (value : ν) (e : Expr ν) : (e.replace x value).size = e.size := by
  induction e with
  | number => rfl
  | name y => unfold replace; split <;> rfl
  | negate _ ih => simp only [replace, size, ih]
  | binary _ _ _ ihl ihr => simp only [replace, size, ihl, ihr]
  | binding y _ _ ihbound ihbody =>
    unfold replace
    split <;> simp only [size, ihbound, ihbody]

/-- To put a value in the place of a name is to bind the name to it. -/
theorem meaning_replace (x : Text) (value : ν) (e : Expr ν) (env : Environment ν) :
    (e.replace x value).meaning A env = e.meaning A (env.extend x value) := by
  induction e generalizing env with
  | number => rfl
  | name y =>
    by_cases h : y = x
    · simp [replace, meaning, h]
    · simp [replace, meaning, h, env.extend_of_ne]
  | negate _ ih => simp only [replace, meaning, ih]
  | binary _ _ _ ihl ihr => simp only [replace, meaning, ihl, ihr]
  | binding y bound body ihbound ihbody =>
    simp only [replace, meaning, ihbound]
    congr
    funext v
    by_cases h : y = x
    · rw [if_pos h, h, env.extend_extend]
    · rw [if_neg h, ihbody, env.extend_comm _ _ h]

end Expr

/-- An evaluator in an environment that takes a binding away by putting the value in the place of
the name. -/
structure Substitutive (A : Arithmetic ν) (f : Expr ν → Environment ν → Except EvalError ν) :
    Prop where
  number : ∀ value env, f (.number value) env = .ok value
  name : ∀ x env, f (.name x) env = (env x).elim (.error (.unbound x)) .ok
  negate : ∀ operand env, f (.negate operand) env = (f operand env).map A.negate
  binary : ∀ operator left right env, f (.binary operator left right) env = do
    let x ← f left env
    let y ← f right env
    return A.apply operator x y
  binding : ∀ x bound body env, f (.binding x bound body) env = do
    let value ← f bound env
    f (body.replace x value) env

theorem meaning_substitutive (A : Arithmetic ν) : Substitutive A (Expr.meaning A) where
  number _ _ := rfl
  name _ _ := rfl
  negate _ _ := rfl
  binary _ _ _ _ := rfl
  binding x bound body env := by simp only [Expr.meaning, Expr.meaning_replace]

/-- The body of a binding is not smaller after the substitution, so this goes by the size of
expressions. -/
theorem Substitutive.eq_meaning {A : Arithmetic ν}
    {f : Expr ν → Environment ν → Except EvalError ν} (h : Substitutive A f) (e : Expr ν)
    (env : Environment ν) : f e env = e.meaning A env := by
  induction n : e.size using Nat.strongRecOn generalizing e with
  | ind n ih =>
    subst n
    cases e with
    | number value => exact h.number value env
    | name x => exact h.name x env
    | negate operand =>
      rw [h.negate, Expr.meaning, ih operand.size (by simp [Expr.size]) operand rfl]
    | binary operator left right =>
      have first := ih left.size (by simp only [Expr.size]; omega) left rfl
      have second := ih right.size (by simp only [Expr.size]; omega) right rfl
      rw [h.binary, Expr.meaning, first, second]
    | binding x bound body =>
      have outer := ih bound.size (by simp only [Expr.size]; omega) bound rfl
      have inner (value : ν) := ih body.size (by simp only [Expr.size]; omega) (body.replace x value)
        (body.size_replace x value)
      simp only [h.binding, Expr.meaning, outer, inner, Expr.meaning_replace]

/-- The two ways to read a binding are one. -/
theorem substitutive_iff (A : Arithmetic ν) (f : Expr ν → Environment ν → Except EvalError ν) :
    Substitutive A f ↔ ∀ e env, f e env = e.meaning A env := by
  constructor
  · intro h e env
    exact h.eq_meaning e env
  · intro h
    obtain rfl : f = Expr.meaning A := funext fun e => funext (h e)
    exact meaning_substitutive A

/-- **Evaluation is lexically scoped.** From every stack of bindings it answers as the evaluator
that passes an environment on, and leaves the stack as it was. Where the bound expression has a
value, the binding has the outcome of its body with this value in the place of the name; to take
bindings away like this is the same as to pass an environment on. -/
theorem evaluation_is_lexically_scoped (A : Arithmetic ν) :
    (∀ (e : Expr ν) (bindings : Bindings ν),
      (e.eval A).run bindings = (e.meaning A bindings.environment, bindings)) ∧
    (∀ (x : Text) (bound body : Expr ν) (bindings : Bindings ν) (value : ν),
      ((bound.eval A).run bindings).1 = .ok value →
        ((Expr.binding x bound body).eval A).run bindings =
          ((body.replace x value).eval A).run bindings) ∧
    ∀ f, Substitutive A f ↔ ∀ e env, f e env = e.meaning A env := by
  refine ⟨Expr.run_eval A, ?_, substitutive_iff A⟩
  intro x bound body bindings value h
  have found : bound.meaning A bindings.environment = .ok value := by rwa [Expr.run_eval] at h
  have inner := (meaning_substitutive A).binding x bound body bindings.environment
  rw [Expr.run_eval, Expr.run_eval, inner, found]
  rfl

/-- The arithmetic of whole numbers. -/
def Arithmetic.whole : Arithmetic Int where
  negate x := -x
  apply
    | .add, x, y => x + y
    | .subtract, x, y => x - y
    | .multiply, x, y => x * y
    | .divide, x, y => x.tdiv y

/-- The expression `let x = x + x; x * y`: on the right, `x` is what it was before. -/
theorem evaluation_is_lexically_scoped_doubled :
    ((Expr.eval .whole (.binary .add (.name ['x']) (.name ['x']))).run
      [(['x'], 5), (['y'], 3), (['x'], 7)]).1 = .ok 10 ∧
    (Expr.eval .whole (.binding ['x'] (.binary .add (.name ['x']) (.name ['x']))
      (.binary .multiply (.name ['x']) (.name ['y'])))).run [(['x'], 5), (['y'], 3), (['x'], 7)] =
        (.ok 30, [(['x'], 5), (['y'], 3), (['x'], 7)]) := by
  have bound : ((Expr.eval .whole (.binary .add (.name ['x']) (.name ['x']))).run
      [(['x'], 5), (['y'], 3), (['x'], 7)]).1 = .ok 10 := rfl
  refine ⟨bound, ?_⟩
  rw [(evaluation_is_lexically_scoped .whole).2.1 _ _ _ _ 10 bound]
  rfl

end Backtrack.Calculator
