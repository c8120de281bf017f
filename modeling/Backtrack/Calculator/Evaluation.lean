import Backtrack.Calculator.Expr

/-!
# Evaluation

An expression is evaluated on a stack of bindings. A name stands for its latest
binding, and a binding is taken away again after the expression that it is for, also if
that has no value.
-/

namespace Backtrack.Calculator

/-- Why an expression has no value. -/
inductive EvalError
  /-- The name is bound nowhere around its use. -/
  | unbound (name : Text)
  deriving DecidableEq, Repr

def EvalError.message : EvalError → String
  | unbound name => "Cannot find variable `" ++ String.ofList name ++ "` in scope"

/-- The values of names, the latest binding first. -/
abbrev Bindings (ν : Type) := List (Text × ν)

/-- An evaluation that works on a stack of bindings. -/
abbrev Evaluation (ν : Type) := ExceptT EvalError (StateM (Bindings ν))

namespace Evaluation

variable {ν : Type}

/-- The value of a name. -/
def resolve (name : Text) : Evaluation ν ν := do
  match (← get).lookup name with
  | some value => return value
  | none => throw (.unbound name)

/-- Evaluates with one more binding, and takes it away afterwards. -/
def within (name : Text) (value : ν) (e : Evaluation ν ν) : Evaluation ν ν :=
  ExceptT.mk fun bindings =>
    let (result, bindings) := e.run ((name, value) :: bindings)
    (result, bindings.tail)

end Evaluation

/-- The value of an expression. The left operand is evaluated before the right one, and what a name
is bound to before what it is used in. -/
def Expr.eval {ν : Type} (A : Arithmetic ν) : Expr ν → Evaluation ν ν
  | number value => return value
  | name x => Evaluation.resolve x
  | negate operand => return A.negate (← operand.eval A)
  | binary operator left right => do
    let x ← left.eval A
    let y ← right.eval A
    return A.apply operator x y
  | binding x bound body => do
    let value ← bound.eval A
    Evaluation.within x value (body.eval A)

/-- The value of an expression without bindings around it. -/
def Expr.value {ν : Type} (A : Arithmetic ν) (e : Expr ν) : Except EvalError ν :=
  ((e.eval A).run []).1

end Backtrack.Calculator
