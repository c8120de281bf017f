import Backtrack.Text.Basic

/-!
# Calculator expressions

Expressions over numbers of any kind: the operations on the numbers are given as a
value, `Arithmetic`, so that evaluation depends on nothing else of them.
-/

namespace Backtrack.Calculator

inductive Operator
  | add
  | subtract
  | multiply
  | divide
  deriving DecidableEq, Repr

inductive Expr (ν : Type)
  | number (value : ν)
  | name (x : Text)
  | negate (operand : Expr ν)
  | binary (operator : Operator) (left right : Expr ν)
  /-- The name `x` stands for the value of `bound` in `body`. -/
  | binding (x : Text) (bound body : Expr ν)
  deriving DecidableEq, Repr

/-- What the operators do. -/
structure Arithmetic (ν : Type) where
  negate : ν → ν
  apply : Operator → ν → ν → ν

/-- The arithmetic of doubles. -/
def Arithmetic.double : Arithmetic Float where
  negate x := -x
  apply
    | .add, x, y => x + y
    | .subtract, x, y => x - y
    | .multiply, x, y => x * y
    | .divide, x, y => x / y

end Backtrack.Calculator
