import Backtrack.Proofs.Listing
import Backtrack.Proofs.Reordering

/-!
# Monad laws

To go on after a parser obeys the laws of a monad: `bind_obeys_monad_laws`. Most of them hold of the
runs themselves. Associativity does not: behind several candidates one side goes on with all of
them before it goes on again, and the other side goes on twice with each. The candidates are the
same, but the calls of the debugger are in another order, and another one of two faults may come
first.
-/

namespace Backtrack

variable {σ α β γ : Type}

theorem fromEach_pure (cs : Candidates α) :
    fromEach (fun a => Behaviour.pure a) cs = (pure cs : Run σ _) := by
  induction cs with
  | nil => rfl
  | cons c cs ih =>
    simp only [fromEach, ih, Behaviour.pure, pure_bind, List.singleton_append]

namespace Behaviour

theorem bind_of_pure (a : α) (next : α → Behaviour σ β) :
    (Behaviour.pure a).bind next = next a := by
  funext t
  simp only [bind, Behaviour.pure, pure_bind, fromEach_singleton]

theorem bind_pure_self (b : Behaviour σ α) : (b.bind fun a => .pure a) = b := by
  funext t
  simp only [bind, fromEach_pure, bind_pure]

theorem tryMap_eq_bind (b : Behaviour σ α) (f : α → Attempt β) :
    b.tryMap f = b.bind fun a t => do return [(← Run.attempt (f a), t)] := by
  funext t
  simp only [tryMap, bind, mapEach_eq_fromEach]

/-- Where there is one candidate at most, it is the same to go on from the candidates twice or to go
on twice from each. -/
theorem outcome_bind_bind {b : Behaviour σ α} {f : α → Behaviour σ β} {g : β → Behaviour σ γ}
    {t : Text} {state : σ} (h : ∀ cs, ((b t).outcome state).1 = .ok cs → cs.length ≤ 1) :
    (((b.bind f).bind g) t).outcome state = ((b.bind fun a => (f a).bind g) t).outcome state := by
  simp only [bind, bind_assoc]
  rcases found : (b t).outcome state with ⟨e | cs, state'⟩
  · rw [Run.outcome_bind_of_error found, Run.outcome_bind_of_error found]
  · rw [Run.outcome_bind_of_ok found, Run.outcome_bind_of_ok found]
    have few := h cs (congrArg Prod.fst found)
    rcases cs with _ | ⟨⟨a, rest⟩, _ | ⟨c, cs⟩⟩
    · rfl
    · rw [fromEach_singleton, fromEach_singleton]
      rfl
    · rw [List.length_cons, List.length_cons] at few
      omega

end Behaviour

namespace Correspondence

/-- To go on from all candidates and then again is to go on twice from each, but for the order. The
first step behind the later candidates is put behind the second step that follows the first one. -/
theorem reordered_fromEach {f : α → Behaviour Log β} {g : β → Behaviour Log γ}
    (hf : ∀ a, Steady (f a)) (hg : ∀ b, Steady (g b)) (cs : Candidates α) :
    reordered.runs (Leaves Set.univ) (Backtrack.fromEach f cs >>= Backtrack.fromEach g)
      (Backtrack.fromEach (fun a => (f a).bind g) cs) := by
  induction cs with
  | nil => exact reordered.pure .nil
  | cons c cs ih =>
    obtain ⟨a, rest⟩ := c
    have left : Backtrack.fromEach f ((a, rest) :: cs) >>= Backtrack.fromEach g = do
        let here ← f a rest
        let others ← Backtrack.fromEach f cs
        let first ← Backtrack.fromEach g here
        let second ← Backtrack.fromEach g others
        return first ++ second := by
      simp only [Backtrack.fromEach, fromEach_append, bind_assoc, pure_bind]
    have right : Backtrack.fromEach (fun a => (f a).bind g) ((a, rest) :: cs) = do
        let here ← f a rest
        let first ← Backtrack.fromEach g here
        let second ← Backtrack.fromEach (fun a => (f a).bind g) cs
        return first ++ second := by
      simp only [Backtrack.fromEach, Behaviour.bind, bind_assoc]
    rw [left, right]
    apply reordered.bind (hf a rest trivial)
    intro here _
    refine reordered_trans (reordered_swap (steady_fromEach hf cs) (steady_fromEach hg here)
      fun others first => ?_) ?_
    · exact reordered.bind (steady_fromEach hg others) fun _ _ => reordered.pure fun _ _ => trivial
    · apply reordered.bind (steady_fromEach hg here)
      intro first _
      rw [← bind_assoc]
      exact reordered.bind ih fun _ _ => reordered.pure fun _ _ => trivial

theorem reordered_bind_bind {b : Behaviour Log α} {f : α → Behaviour Log β}
    {g : β → Behaviour Log γ} (hb : Steady b) (hf : ∀ a, Steady (f a)) (hg : ∀ c, Steady (g c)) :
    reordered.behaviours Set.univ Set.univ ((b.bind f).bind g)
      (b.bind fun a => (f a).bind g) := by
  intro t ht
  simp only [Behaviour.bind, bind_assoc]
  exact reordered.bind (hb t ht) fun cs _ => reordered_fromEach hf hg cs

end Correspondence

namespace Parser

variable {Γ : Scopes}

/-- A parser that reads nothing, if it can be made. -/
theorem behaviour_ofAttempt_pure (d : Debugger σ) (depth : Nat) (s : Store σ Γ) (x : Attempt α) :
    (ofAttempt (x.map pure)).behaviour d depth s =
      fun t => do return [(← Run.attempt x, t)] := by
  cases x with
  | ok a => rfl
  | error f => rfl

end Parser

/-- Reads nothing, behind a mark. -/
def markedStep (label : String) : Parser [] Unit := .debug ⟨label, ⟨"steps", 1⟩⟩ (.pure ())

/-- **To go on after a parser obeys the laws of a monad.** To go on from a parser that reads nothing
is to go on with its value, to go on with a parser that reads nothing changes nothing, and to go on
from failure is to fail. A function of the results, which may raise a fault, can be a parser that
reads nothing. These are the same runs for every debugger and in every scope. To go on twice is
associative where there is one candidate at most. Behind more of them both sides have the same
candidates in the same order, or both are cut short, and they make the same calls equally often if
they are not; but they can make them in another order. -/
theorem bind_obeys_monad_laws {Γ : Scopes} (d : Debugger σ) (depth : Nat) (s : Store σ Γ)
    (D : Definitions Γ) (v : α) (p : Parser Γ α) (f : α → Parser Γ β) (g : β → Parser Γ γ)
    (h : α → Attempt β) :
    ((Parser.pure v).bind f).behaviour d depth s = (f v).behaviour d depth s ∧
    (p.bind .pure).behaviour d depth s = p.behaviour d depth s ∧
    (p.tryMap h).behaviour d depth s =
      (p.bind fun x => .ofAttempt ((h x).map .pure)).behaviour d depth s ∧
    (Parser.empty.bind f).behaviour d depth s = Parser.empty.behaviour d depth s ∧
    (∀ t state, (∀ cs, ((p.behaviour d depth s t).outcome state).1 = .ok cs → cs.length ≤ 1) →
      (((p.bind f).bind g).behaviour d depth s t).outcome state =
        ((p.bind fun x => (f x).bind g).behaviour d depth s t).outcome state) ∧
    (D.enclose ((p.bind f).bind g)).Reordered (D.enclose (p.bind fun x => (f x).bind g)) ∧
    ∃ (p : Parser [] Unit) (f g : Unit → Parser [] Unit) (t : Text) (cs : Candidates Unit)
      (log log' : Log), (((p.bind f).bind g).runWith .recorder t).outcome #[] = (.ok cs, log) ∧
        ((p.bind fun x => (f x).bind g).runWith .recorder t).outcome #[] = (.ok cs, log') ∧
          log ≠ log' := by
  refine ⟨?_, ?_, ?_, ?_, ?_, ?_, ?_⟩
  · exact Behaviour.bind_of_pure v _
  · exact Behaviour.bind_pure_self _
  · simp only [Parser.behaviour, Behaviour.tryMap_eq_bind, Parser.behaviour_ofAttempt_pure]
  · rfl
  · exact fun t state one => Behaviour.outcome_bind_bind one
  · apply Parser.Reordered.enclose
    intro depth
    exact Correspondence.reordered_bind_bind (p.steady D depth) (fun a => (f a).steady D depth)
      fun b => (g b).steady D depth
  · refine ⟨.union (.pure ()) (.pure ()), fun _ => markedStep "first",
      fun _ => markedStep "second", [], _, _, _, rfl, rfl, ?_⟩
    decide

/-- Behind one character both sides make the same calls in the same order. -/
theorem bind_obeys_monad_laws_item :
    (∀ cs, (((Parser.item : Parser [] Char).behaviour .recorder 1 .empty ['a']).outcome #[]).1 =
      .ok cs → cs.length ≤ 1) ∧
    (((Parser.item.bind fun _ => markedStep "first").bind fun _ => markedStep "second").behaviour
        .recorder 1 .empty ['a']).outcome #[] =
      ((Parser.item.bind fun _ => (markedStep "first").bind fun _ => markedStep "second").behaviour
        .recorder 1 .empty ['a']).outcome #[] := by
  have one : ∀ cs, (((Parser.item : Parser [] Char).behaviour .recorder 1 .empty ['a']).outcome
      #[]).1 = .ok cs → cs.length ≤ 1 := by
    rintro _ ⟨⟩
    exact Nat.le_refl 1
  obtain ⟨-, -, -, -, same, -⟩ := bind_obeys_monad_laws .recorder 1 .empty .none 'b' .item
    (fun _ => markedStep "first") (fun _ => markedStep "second") fun _ => .ok ()
  exact ⟨one, same ['a'] #[] one⟩

end Backtrack
