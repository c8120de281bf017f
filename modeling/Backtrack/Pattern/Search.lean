import Backtrack.Pattern.Plan
import Std.Data.HashSet

/-!
# The search of a match

The search follows a plan from the start of a text and finds the preferred match:
at each point of choice the first plan that leads to a match wins, however long the
match is. A point of choice that was reached before at the same place is not tried
again, since the first visit has failed or is still under way; so a round of a
repetition that matches nothing ends it, and no search takes more steps than there
are pairs of a point of choice and a place.
-/

namespace Backtrack.Pattern

/-- The points of choice that were visited, each with the offset of the place. -/
abbrev Visited := Std.HashSet (Nat × Nat)

/-- A search that is given what was visited before: the place where the match ends, if
there is one, and what was visited since. -/
abbrev Search := Visited → Option Place × Visited

namespace Search

def fail : Search := fun seen => (none, seen)

def found (p : Place) : Search := fun seen => (some p, seen)

/-- The first search, or the second if the first one fails. -/
def orElse (a b : Search) : Search := fun seen =>
  match a seen with
  | (some place, seen) => (some place, seen)
  | (none, seen) => b seen

/-- The search, unless this point of choice was visited at this place. -/
def once (id : Nat) (p : Place) (search : Search) : Search := fun seen =>
  if seen.contains (id, p.offset) then (none, seen) else search (seen.insert (id, p.offset))

end Search

/-- What is left to be matched from a place on. -/
abbrev Continuation := Place → Search

/-- The choice after each round of `Plan.again`, for at most the given number of visits. -/
def afterRound (id : Nat) (greedy : Bool) (round : Continuation → Continuation)
    (next : Continuation) : Nat → Continuation
  | 0, _ => .fail
  | n + 1, p =>
    let more := round (afterRound id greedy round next n) p
    .once id p (if greedy then .orElse more (next p) else .orElse (next p) more)

/-- Follows the plan from a place and goes on with `next`. A point of choice is visited at
most `visits` times, which is the number of places in the text. -/
def Plan.search (visits : Nat) : Plan → Continuation → Continuation
  | empty, next, p => next p
  | set members, next, p =>
    match p.rest with
    | [] => .fail
    | c :: rest => if members.contains c then next ⟨some c, rest, p.offset + 1⟩ else .fail
  | look condition, next, p => if condition.holds p then next p else .fail
  | seq a b, next, p => a.search visits (b.search visits next) p
  | choose id a b, next, p => .once id p (.orElse (a.search visits next p) (b.search visits next p))
  | again id greedy round, next, p =>
    round.search visits (afterRound id greedy (round.search visits) next visits) p

/-- The place where the preferred match at the start of the text ends. -/
def Plan.matchEnd (plan : Plan) (t : Text) : Option Place :=
  (plan.search (t.length + 1) .found (.start t) ∅).1

/-- The start of the text that is matched, and the text after it. -/
def Plan.split (plan : Plan) (t : Text) : Option (Text × Text) :=
  (plan.matchEnd t).map fun p => (t.take p.offset, p.rest)

end Backtrack.Pattern
