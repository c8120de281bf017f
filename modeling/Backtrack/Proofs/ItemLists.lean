import Backtrack.Parser.Combinators

/-!
# Lists of items

A list of one or more items, with separators or without, is the first item and then a
repetition, and a list that may be empty has the empty one for a fallback:
`lists_are_an_item_and_many`. The runs are the same, so that nothing can tell them apart.
-/

namespace Backtrack

variable {σ α β : Type}

/-- What stands before the items of a repetition does not matter for its rounds. The induction is on
the length of the text, which a round that is followed by another makes smaller. -/
theorem repeatFrom_eq (b : Behaviour σ α) (items : List α) (t : Text) :
    repeatFrom b items t = do
      let found ← repeatFrom b [] t
      return (items.reverse ++ found.1, found.2) := by
  induction hn : byteLength t using Nat.strongRecOn generalizing items t with
  | ind n ih =>
    rw [repeatFrom, repeatFrom, bind_assoc]
    apply bind_congr
    intro found
    rcases found with _ | ⟨⟨item, rest⟩, more⟩
    · simp only [pure_bind, List.reverse_nil, List.append_nil]
    · by_cases progress : byteLength rest < byteLength t
      · have shorter := ih _ (hn ▸ progress)
        simp only [progress, ↓reduceDIte]
        rw [shorter (item :: items) rest rfl, shorter [item] rest rfl]
        simp only [bind_assoc, pure_bind, List.reverse_cons, List.reverse_nil, List.nil_append,
          List.append_assoc]
      · simp only [progress, ↓reduceDIte, pure_bind, List.reverse_cons, List.reverse_nil,
          List.nil_append]

/-- One candidate for each one is a run for each one. -/
theorem fromEach_eq_mapM (f : α → Text → Run σ (β × Text)) (cs : Candidates α) :
    fromEach (fun a rest => do return [← f a rest]) cs = cs.mapM fun (a, rest) => f a rest := by
  induction cs with
  | nil => rfl
  | cons c cs ih =>
    rw [List.mapM_cons, ← ih]
    simp only [fromEach, bind_assoc, pure_bind, List.singleton_append]

namespace Behaviour

/-- A function of a repetition's items. -/
theorem tryMap_many (b : Behaviour σ α) (f : List α → β) (t : Text) :
    (b.many.tryMap fun items => .ok (f items)) t = do
      let found ← repeatFrom b [] t
      return [(f found.1, found.2)] := by
  simp only [tryMap, many, bind_assoc, pure_bind, mapEach, Run.attempt]

/-- To go on with a repetition is to go on with all its items after the first one. -/
theorem followedByMany_eq_bind (b next : Behaviour σ α) :
    b.followedByMany next = b.bind fun a => next.many.tryMap fun items => .ok (a :: items) := by
  funext t
  simp only [followedByMany, bind]
  apply bind_congr
  intro found
  rw [← fromEach_eq_mapM fun a rest => repeatFrom next [a] rest]
  congr 1
  funext a rest
  rw [tryMap_many, repeatFrom_eq]
  simp only [bind_assoc, pure_bind, List.reverse_singleton, List.singleton_append]

theorem separatedBy_eq_committed (b : Behaviour σ α) (separator : Behaviour σ β) :
    b.separatedBy separator = (b.separatedByAtLeastOne separator).committed (.pure []) := by
  funext t
  simp only [separatedBy, committed]
  apply bind_congr
  intro found
  cases found with
  | nil => rfl
  | cons _ _ => rfl

end Behaviour

/-- **A list is one item and then a repetition.** One application or more is the parser and then its
repetition, and a list with separators is the parser and then a repetition of a separator with the
parser behind it; each puts the first result before the others. A list with separators that may be
empty is committed to the list of one or more, and has the empty one for a fallback. The two sides
are the same run for every debugger, so that they call it in the same order, give the same
candidates and raise the same fault. -/
theorem lists_are_an_item_and_many {Γ : Scopes} (d : Debugger σ) (depth : Nat) (s : Store σ Γ)
    (p : Parser Γ α) (separator : Parser Γ β) :
    p.some.behaviour d depth s =
      (p.bind fun x => p.many.map fun xs => x :: xs).behaviour d depth s ∧
    (p.separatedByAtLeastOne separator).behaviour d depth s =
      (p.bind fun x => (separator.ignoreThen p).many.map fun xs => x :: xs).behaviour d depth s ∧
    (p.separatedBy separator).behaviour d depth s =
      ((p.separatedByAtLeastOne separator).committed (.pure [])).behaviour d depth s :=
  ⟨Behaviour.followedByMany_eq_bind _ _, Behaviour.followedByMany_eq_bind _ _,
    Behaviour.separatedBy_eq_committed _ _⟩

end Backtrack
