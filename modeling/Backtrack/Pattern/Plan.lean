import Backtrack.Pattern.Expr

/-!
# Plans

A plan is an expression in which counted repetitions are written out and every
point of choice has a number of its own. The search of a match remembers, by that
number, where it has been.
-/

namespace Backtrack.Pattern

inductive Plan
  | empty
  | set (members : CharSet)
  | look (condition : Look)
  | seq (first second : Plan)
  /-- Tries the first plan, then the second. -/
  | choose (id : Nat) (first second : Plan)
  /-- One round or more. After each round it is chosen whether to go on. -/
  | again (id : Nat) (greedy : Bool) (round : Plan)
  deriving Inhabited

namespace Plan

/-- The plan or nothing, preferring the plan if greedy. -/
def optionally (id : Nat) (greedy : Bool) (p : Plan) : Plan :=
  if greedy then choose id p empty else choose id empty p

/-- Copies `i - 1`, …, `1`, `0` of a plan, put in front of what follows. -/
def copies (copy : Nat → Plan) : Nat → Plan → Plan
  | 0, next => next
  | i + 1, next => copies copy i (seq (copy i) next)

/-- Copies `0`, …, `i - 1` of a plan, each of which is optional and needs the one before. -/
def nested (greedy : Bool) (id : Nat → Nat) (copy : Nat → Plan) : Nat → Plan → Plan
  | 0, inner => inner
  | i + 1, inner => nested greedy id copy i (optionally (id i) greedy (seq (copy i) inner))

end Plan

namespace Expr

/-- How many points of choice the plan of the expression has. -/
def choices : Expr → Nat
  | empty | set _ | look _ => 0
  | group _ e => e.choices
  | concat a b => a.choices + b.choices
  | alternate a b => 1 + a.choices + b.choices
  | repetition 0 none _ e => 2 + e.choices
  | repetition (n + 1) none _ e => (n + 1) * e.choices + 1
  | repetition n (some m) _ e => n * e.choices + (m - n) * (1 + e.choices)

/-- The plan of the expression, its points of choice numbered from `base`. -/
def plan (base : Nat) : Expr → Plan
  | empty => .empty
  | set s => .set s
  | look l => .look l
  | group _ e => e.plan base
  | concat a b => .seq (a.plan base) (b.plan (base + a.choices))
  | alternate a b => .choose base (a.plan (base + 1)) (b.plan (base + 1 + a.choices))
  | repetition 0 none greedy e =>
    .optionally base greedy (.again (base + 1) greedy (e.plan (base + 2)))
  | repetition (n + 1) none greedy e =>
    .copies (fun i => e.plan (base + i * e.choices)) n
      (.again (base + (n + 1) * e.choices) greedy (e.plan (base + n * e.choices)))
  | repetition n (some m) greedy e =>
    .copies (fun i => e.plan (base + i * e.choices)) n
      (.nested greedy (fun i => base + n * e.choices + i * (1 + e.choices))
        (fun i => e.plan (base + n * e.choices + i * (1 + e.choices) + 1)) (m - n) .empty)

end Expr

end Backtrack.Pattern
