import Backtrack.Trace
import Mathlib.Data.List.Basic

/-!
# Reports

What a run tells its debugger is the forest of the scopes that have ended, and then the
scopes that are still open, each inside the one before. A trace grows by just these:
`Trace.replay_events`. So the calls of a run that is complete can be read as a forest in one
way only: `eventsOfAll_injective`.
-/

namespace Backtrack

namespace Scope

mutual
/-- The calls that a scope stands for: its start, those of its children, and its end if there is
one. -/
def events : Scope → List Event
  | ⟨mark, input, candidates, children⟩ =>
    .enter mark input :: (eventsOfAll children ++ (candidates.map (.leave mark)).toList)

def eventsOfAll : List Scope → List Event
  | [] => []
  | s :: rest => s.events ++ eventsOfAll rest
end

theorem eventsOfAll_append (f g : List Scope) :
    eventsOfAll (f ++ g) = eventsOfAll f ++ eventsOfAll g := by
  induction f with
  | nil => rfl
  | cons s f ih => simp only [List.cons_append, eventsOfAll, ih, List.append_assoc]

mutual
/-- The scope has ended, and so have the scopes in it, and the condition holds of each of them. -/
def Ended (J : Scope → Prop) : Scope → Prop
  | ⟨_, _, none, _⟩ => False
  | ⟨mark, input, some n, children⟩ => J ⟨mark, input, some n, children⟩ ∧ AllEnded J children

def AllEnded (J : Scope → Prop) : List Scope → Prop
  | [] => True
  | s :: rest => s.Ended J ∧ AllEnded J rest
end

theorem AllEnded.append {J : Scope → Prop} {f g : List Scope} (hf : AllEnded J f)
    (hg : AllEnded J g) : AllEnded J (f ++ g) := by
  induction f with
  | nil => exact hg
  | cons s f ih => exact ⟨hf.1, ih hf.2⟩

end Scope

namespace Trace

/-- The trace with a forest inside the innermost open scope, or among the roots. -/
def grow (t : Trace) (forest : List Scope) : Trace :=
  match t.opened with
  | [] => { t with roots := t.roots ++ forest }
  | parent :: outer =>
    { t with opened := { parent with children := parent.children ++ forest } :: outer }

@[simp] theorem grow_nil (t : Trace) : t.grow [] = t := by
  rcases t with ⟨roots, _ | ⟨⟨mark, input, candidates, children⟩, outer⟩⟩ <;> simp [grow]

theorem grow_grow (t : Trace) (f g : List Scope) : (t.grow f).grow g = t.grow (f ++ g) := by
  rcases t with ⟨roots, _ | ⟨parent, outer⟩⟩ <;> simp [grow]

theorem place_eq_grow (t : Trace) (s : Scope) : t.place s = t.grow [s] := by
  rcases t with ⟨roots, _ | ⟨parent, outer⟩⟩ <;> rfl

theorem grow_enter (t : Trace) (mark : Mark) (input : Text) (forest : List Scope) :
    (t.enter mark input).grow forest =
      { t with opened := ⟨mark, input, none, forest⟩ :: t.opened } := rfl

/-- A scope that was entered is left with the forest that grew meanwhile. -/
theorem leave_grow_enter (t : Trace) (mark : Mark) (input : Text) (forest : List Scope) (n : Nat) :
    ((t.enter mark input).grow forest).leave mark n =
      (.ok (), t.grow [⟨mark, input, some n, forest⟩]) := by
  simp only [grow_enter, leave, ↓reduceIte, place_eq_grow]

/-- The trace after a call. A scope that is left by another mark than its own is lost. -/
def after (t : Trace) : Event → Trace
  | .enter mark input => t.enter mark input
  | .leave mark n => (t.leave mark n).2

/-- The trace after all the calls. -/
def replay (t : Trace) (events : List Event) : Trace := events.foldl after t

theorem replay_append (t : Trace) (es fs : List Event) :
    t.replay (es ++ fs) = (t.replay es).replay fs := List.foldl_append

mutual
/-- The calls that stand for scopes that have ended put these scopes into the trace. -/
theorem replay_scope {J : Scope → Prop} (t : Trace) :
    (s : Scope) → s.Ended J → t.replay s.events = t.grow [s]
  | ⟨_, _, none, _⟩, h => h.elim
  | ⟨mark, input, some n, children⟩, h => by
    have inner := replay_events (t.enter mark input) children h.2
    simp only [Scope.events, Option.map_some, Option.toList_some]
    change (t.enter mark input).replay (Scope.eventsOfAll children ++ [.leave mark n]) = _
    rw [replay_append, inner]
    exact congrArg Prod.snd (leave_grow_enter t mark input children n)

theorem replay_events {J : Scope → Prop} (t : Trace) :
    (forest : List Scope) → Scope.AllEnded J forest →
      t.replay (Scope.eventsOfAll forest) = t.grow forest
  | [], _ => (grow_nil t).symm
  | s :: rest, h => by
    rw [Scope.eventsOfAll, replay_append, replay_scope t s h.1, replay_events _ rest h.2, grow_grow,
      List.singleton_append]
end

end Trace

/-- Calls can be read as a forest of scopes that have ended in one way only. -/
theorem Scope.eventsOfAll_injective {J J' : Scope → Prop} {f g : List Scope}
    (hf : AllEnded J f) (hg : AllEnded J' g) (h : eventsOfAll f = eventsOfAll g) : f = g := by
  have grown : ({} : Trace).grow f = ({} : Trace).grow g := by
    rw [← Trace.replay_events _ f hf, ← Trace.replay_events _ g hg, h]
  exact congrArg Trace.roots grown

/-- What a run reports: the scopes that have ended, and those that are still open, outermost
first. -/
structure Report where
  ended : List Scope
  unended : List Scope

namespace Report

/-- Nothing was reported. -/
def empty : Report := ⟨[], []⟩

/-- The calls that the report stands for, in order. -/
def events (r : Report) : List Event := Scope.eventsOfAll (r.ended ++ r.unended)

/-- The scopes that have ended satisfy the condition, also those inside of the open ones, and the
open ones have no number of candidates. -/
def Sound (J : Scope → Prop) (r : Report) : Prop :=
  Scope.AllEnded J r.ended ∧
    ∀ s ∈ r.unended, s.candidates = none ∧ Scope.AllEnded J s.children

/-- The report of a run whose scopes have all ended, and then of another one. -/
def after (forest : List Scope) (r : Report) : Report := ⟨forest ++ r.ended, r.unended⟩

/-- The report of what ran inside of a scope that has not ended. -/
def within (mark : Mark) (input : Text) (r : Report) : Report :=
  ⟨[], ⟨mark, input, none, r.ended⟩ :: r.unended⟩

variable {J : Scope → Prop}

theorem events_after (forest : List Scope) (r : Report) :
    (r.after forest).events = Scope.eventsOfAll forest ++ r.events := by
  simp only [events, after, List.append_assoc, Scope.eventsOfAll_append]

theorem events_within (mark : Mark) (input : Text) (r : Report) :
    (r.within mark input).events = .enter mark input :: r.events := by
  simp [events, within, Scope.eventsOfAll, Scope.events, Scope.eventsOfAll_append]

theorem Sound.after {forest : List Scope} {r : Report} (hf : Scope.AllEnded J forest)
    (h : r.Sound J) : (r.after forest).Sound J :=
  ⟨hf.append h.1, h.2⟩

theorem Sound.within {r : Report} (mark : Mark) (input : Text) (h : r.Sound J) :
    (r.within mark input).Sound J := by
  refine ⟨trivial, ?_⟩
  intro s hs
  rcases List.mem_cons.mp hs with rfl | hs
  · exact ⟨rfl, h.1⟩
  · exact h.2 s hs

end Report

namespace Trace

/-- The trace with all that a report says: the forest where it belongs, and the open scopes inside
of those that were open. -/
def extend (t : Trace) (r : Report) : Trace :=
  { t.grow r.ended with opened := r.unended.reverse ++ (t.grow r.ended).opened }

theorem extend_of_ended (t : Trace) (forest : List Scope) : t.extend ⟨forest, []⟩ = t.grow forest :=
  rfl

theorem extend_after (t : Trace) (forest : List Scope) (r : Report) :
    t.extend (r.after forest) = (t.grow forest).extend r := by
  simp only [extend, Report.after, grow_grow]

theorem extend_within (t : Trace) (mark : Mark) (input : Text) (r : Report) :
    t.extend (r.within mark input) = (t.enter mark input).extend r := by
  simp only [extend, Report.within, grow_nil, grow_enter, List.reverse_cons, List.append_assoc,
    List.singleton_append]

end Trace

end Backtrack
