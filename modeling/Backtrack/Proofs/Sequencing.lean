import Backtrack.Parser.Combinators
import Backtrack.Proofs.Scan

/-!
# Sequencing

There is one way to go on after a parser, `Parser.bind`. The other forms of sequencing run their
parts in the same order, as often and on the same texts, and call the functions they are given at
the same points of the run: `sequencing_is_bind`. A function that can raise a fault stays where it
is. One that cannot may be called later, behind everything that `bind` goes on with: `tryMap_bind`.
-/

namespace Backtrack

variable {σ α β γ : Type}

theorem fromEach_singleton (next : α → Behaviour σ β) (a : α) (t : Text) :
    fromEach next [(a, t)] = next a t := by
  simp only [fromEach, pure_bind, List.append_nil]
  exact bind_pure _

/-- A function that raises no fault changes the results and nothing else. -/
theorem mapEach_ok (f : α → β) (cs : Candidates α) :
    (mapEach (fun a => .ok (f a)) cs : Run σ _) = pure (cs.map fun c => (f c.1, c.2)) := by
  induction cs with
  | nil => rfl
  | cons c cs ih => simp only [mapEach, ih, Run.attempt, pure_bind, List.map_cons]

/-- A function that raises no fault may be called on the results of each part, or on all of them in
the end. -/
theorem fromEach_mapEach (next : α → Behaviour σ β) (f : β → γ) (cs : Candidates α) :
    (fromEach next cs >>= mapEach fun b => .ok (f b)) =
      fromEach (fun a rest => next a rest >>= mapEach fun b => .ok (f b)) cs := by
  induction cs with
  | nil => rfl
  | cons c cs ih =>
    simp only [fromEach, ← ih, mapEach_ok, bind_assoc, pure_bind, List.map_append]

namespace Behaviour

theorem tryMap_ok (b : Behaviour σ α) (f : α → β) :
    b.tryMap (fun a => .ok (f a)) =
      fun t => b t >>= fun cs => Pure.pure (cs.map fun c => (f c.1, c.2)) := by
  funext t
  simp only [tryMap, mapEach_ok]

theorem tryMap_bind (b : Behaviour σ α) (next : α → Behaviour σ β) (f : β → γ) :
    (b.bind next).tryMap (fun x => .ok (f x)) =
      b.bind fun a => (next a).tryMap fun x => .ok (f x) := by
  funext t
  change (b t >>= fromEach next) >>= mapEach _ = b t >>= fromEach _
  rw [bind_assoc]
  exact bind_congr fun cs => fromEach_mapEach next f cs

theorem tryMap_tryMap (b : Behaviour σ α) (f : α → Attempt β) (g : β → γ) :
    (b.tryMap f).tryMap (fun x => .ok (g x)) = b.tryMap fun a => (f a).map g := by
  funext t
  simp only [tryMap, bind_assoc]
  apply bind_congr
  intro cs
  induction cs with
  | nil => rfl
  | cons c cs ih =>
    rw [mapEach, mapEach, ← ih]
    cases f c.1 with
    | error e => rfl
    | ok b => simp only [mapEach_ok, Run.attempt, Except.map, bind_assoc, pure_bind, List.map_cons]

/-- Each result of the first part is put to all results of the second part. -/
theorem then_eq_bind (b : Behaviour σ α) (c : Behaviour σ β) :
    b.then c = b.bind fun a => c.tryMap fun x => .ok (a, x) := by
  funext t
  simp only [«then», bind, tryMap_ok]

/-- The results of the second part are dropped as soon as it has run. -/
theorem then_fst_eq_bind (b : Behaviour σ α) (c : Behaviour σ β) :
    (b.then c).tryMap (fun x => .ok x.1) = b.bind fun a => c.tryMap fun _ => .ok a := by
  rw [then_eq_bind, tryMap_bind]
  congr 1
  funext a
  rw [tryMap_tryMap]
  rfl

theorem token_eq_bind (b : Behaviour σ α) :
    b.token = b.bind fun a => blanks.tryMap fun _ => .ok a := by
  funext t
  simp only [token_eq, bind, tryMap_ok, blanks_eq, pure_bind, List.map_singleton, fromEach_single]

end Behaviour

/-- **To go on after a parser is to bind its results.** Two parsers in a row with both results, the
application of a function that was read to what follows it, one of two results dropped, a parser
between two others, and the white space behind a parser: each is the `bind` that is written beside
it. The two sides are the same run for every debugger and in every scope, so that they have the same
candidates in the same order, call the debugger in the same way, and end with the same fault behind
the same calls when a function raises one. -/
theorem sequencing_is_bind {Γ : Scopes} (d : Debugger σ) (depth : Nat) (s : Store σ Γ)
    (p : Parser Γ α) (q : Parser Γ β) (f : Parser Γ (α → Attempt β)) (left : Parser Γ β)
    (right : Parser Γ γ) :
    (p.then q).behaviour d depth s = (p.bind fun a => q.map fun b => (a, b)).behaviour d depth s ∧
    (f.ap p).behaviour d depth s = (f.bind fun g => p.tryMap g).behaviour d depth s ∧
    (p.ignoreThen q).behaviour d depth s = (p.bind fun _ => q).behaviour d depth s ∧
    (p.thenIgnore q).behaviour d depth s = (p.bind fun a => q.map fun _ => a).behaviour d depth s ∧
    (p.delimitedBy left right).behaviour d depth s =
      ((left.bind fun _ => p).bind fun a => right.map fun _ => a).behaviour d depth s ∧
    p.token.behaviour d depth s = (p.thenIgnore .blanks).behaviour d depth s :=
  ⟨Behaviour.then_eq_bind _ _, rfl, rfl, Behaviour.then_fst_eq_bind _ _,
    Behaviour.then_fst_eq_bind _ _,
    (Behaviour.token_eq_bind _).trans (Behaviour.then_fst_eq_bind _ _).symm⟩

end Backtrack
