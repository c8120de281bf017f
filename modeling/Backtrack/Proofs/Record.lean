import Backtrack.Proofs.Rendering
import Backtrack.Proofs.Transparency

/-!
# Traces as records

A trace may be given calls directly, in any order. It keeps every call but the ends that come when
nothing is open, as long as each other end is that of the innermost open scope; an end that is not
is a fault, and takes away this scope and nothing else: `trace_is_a_record`. Whatever the calls
were, the scopes that have ended are told from those that are open, and each of them is shown on
one line, in the order in which they were entered.
-/

namespace Backtrack

/-! ## Calls -/

namespace Debugger

variable {σ : Type}

/-- Makes one call. -/
def call (d : Debugger σ) : Event → Run σ Unit
  | .enter mark input => d.enter mark input
  | .leave mark n => d.leave mark n

/-- The state after the calls, where a call goes on from what the one before it has left, be it by a
fault. -/
def stateAfter (d : Debugger σ) (state : σ) (events : List Event) : σ :=
  events.foldl (fun state e => ((d.call e).outcome state).2) state

theorem outcome_tracer_call (e : Event) (t : Trace) :
    ((tracer.call e).outcome t).2 = t.after e := by
  cases e with
  | enter mark input => rfl
  | leave mark n =>
    rw [call, outcome_tracer_attempt]
    change _ = (t.leave mark n).2
    cases (t.leave mark n).1 <;> rfl

theorem stateAfter_tracer (t : Trace) (events : List Event) :
    tracer.stateAfter t events = t.replay events := by
  simp only [stateAfter, outcome_tracer_call]
  rfl

end Debugger

/-- Where scopes with these marks are open, innermost first, each end is that of the innermost open
scope, unless nothing is open. -/
def Matched : List Mark → List Event → Prop
  | _, [] => True
  | opened, .enter mark _ :: es => Matched (mark :: opened) es
  | [], .leave _ _ :: es => Matched [] es
  | inner :: outer, .leave mark _ :: es => mark = inner ∧ Matched outer es

/-- The calls without the ends that come when nothing is open. -/
def heard : List Mark → List Event → List Event
  | _, [] => []
  | opened, .enter mark input :: es => .enter mark input :: heard (mark :: opened) es
  | [], .leave _ _ :: es => heard [] es
  | _ :: outer, .leave mark n :: es => .leave mark n :: heard outer es

namespace Trace

/-- The trace with its innermost open scope taken away. -/
def drop (t : Trace) : Trace := { t with opened := t.opened.tail }

theorem marks_of_nothing {t : Trace} (h : t.opened = []) : t.marks = [] := by
  rw [marks, h, List.map_nil]

theorem marks_of_innermost {t : Trace} {s : Scope} {outer : List Scope}
    (h : t.opened = s :: outer) : t.marks = s.mark :: outer.map Scope.mark := by
  rw [marks, h, List.map_cons]

theorem leave_of_nothing {t : Trace} (h : t.opened = []) (mark : Mark) (n : Nat) :
    t.leave mark n = (.ok (), t) := by
  unfold leave
  rw [h]

/-- The innermost open scope ends, and is put where it belongs. -/
theorem leave_of_innermost {t : Trace} {s : Scope} {outer : List Scope} (h : t.opened = s :: outer)
    (n : Nat) :
    t.leave s.mark n = (.ok (), t.drop.grow [{ s with candidates := some n }]) := by
  simp only [leave, h, ↓reduceIte, drop, List.tail_cons, place_eq_grow]

/-- An end that is not that of the innermost open scope takes this scope away. -/
theorem leave_of_mismatch {t : Trace} {s : Scope} {outer : List Scope} (h : t.opened = s :: outer)
    {mark : Mark} (differs : s.mark ≠ mark) (n : Nat) :
    t.leave mark n = (.error (.scopeMismatch mark.label s.mark.label), t.drop) := by
  simp only [leave, h, differs, ↓reduceIte, drop, List.tail_cons]

/-- An end does one of three things. -/
theorem leave_cases (t : Trace) (mark : Mark) (n : Nat) :
    (t.opened = [] ∧ t.leave mark n = (.ok (), t)) ∨
    (∃ s outer, t.opened = s :: outer ∧ s.mark = mark ∧
      t.leave mark n = (.ok (), t.drop.grow [{ s with candidates := some n }])) ∨
    ∃ s outer, t.opened = s :: outer ∧ s.mark ≠ mark ∧
      t.leave mark n = (.error (.scopeMismatch mark.label s.mark.label), t.drop) := by
  cases h : t.opened with
  | nil => exact .inl ⟨rfl, leave_of_nothing h mark n⟩
  | cons s outer =>
    by_cases same : s.mark = mark
    · subst same
      exact .inr (.inl ⟨s, outer, rfl, rfl, leave_of_innermost h n⟩)
    · exact .inr (.inr ⟨s, outer, rfl, same, leave_of_mismatch h same n⟩)

/-- The calls that led to the trace: those of the roots, and for each open scope from the outermost
on its start and the calls of its children. -/
def flatten (t : Trace) : List Event :=
  Scope.eventsOfAll t.roots ++
    t.opened.reverse.flatMap fun s => .enter s.mark s.input :: Scope.eventsOfAll s.children

theorem flatten_enter (t : Trace) (mark : Mark) (input : Text) :
    (t.enter mark input).flatten = t.flatten ++ [.enter mark input] := by
  simp [flatten, enter, Scope.eventsOfAll]

theorem flatten_grow (t : Trace) (forest : List Scope) :
    (t.grow forest).flatten = t.flatten ++ Scope.eventsOfAll forest := by
  rcases t with ⟨roots, _ | ⟨s, outer⟩⟩ <;>
    simp [flatten, grow, Scope.eventsOfAll_append, List.append_assoc]

/-- The calls of the innermost open scope are the last ones. -/
theorem flatten_eq_drop {t : Trace} {s : Scope} {outer : List Scope} (h : t.opened = s :: outer) :
    t.flatten = t.drop.flatten ++ .enter s.mark s.input :: Scope.eventsOfAll s.children := by
  simp [flatten, drop, h, List.append_assoc]

theorem flatten_leave_innermost {t : Trace} {s : Scope} {outer : List Scope}
    (h : t.opened = s :: outer) (n : Nat) :
    (t.leave s.mark n).2.flatten = t.flatten ++ [.leave s.mark n] := by
  rw [leave_of_innermost h, flatten_grow, flatten_eq_drop h]
  simp [Scope.eventsOfAll, Scope.events]

/-- **A trace loses nothing.** If each end is that of the innermost open scope, then the calls that
it has kept are all that it heard. -/
theorem flatten_replay {t : Trace} {events : List Event} (h : Matched t.marks events) :
    (t.replay events).flatten = t.flatten ++ heard t.marks events := by
  induction events generalizing t with
  | nil => simp [replay, heard]
  | cons e es ih =>
    change ((t.after e).replay es).flatten = _
    cases e with
    | enter mark input =>
      have rest := ih (t := t.enter mark input) h
      rw [flatten_enter, List.append_assoc] at rest
      exact rest
    | leave mark n =>
      rw [after]
      -- The marks of the open scopes tell which ends match, the open scopes what an end does.
      rcases t.leave_cases mark n with
        ⟨opened, left⟩ | ⟨s, outer, opened, rfl, -⟩ | ⟨s, outer, opened, differs, -⟩
      · have none := marks_of_nothing opened
        rw [none] at h ⊢
        rw [left, ih (none ▸ h), none]
        rfl
      · have some := marks_of_innermost opened
        rw [some] at h ⊢
        have rest : (t.leave s.mark n).2.marks = outer.map Scope.mark := (t.leave_marks some n).2
        rw [ih (rest ▸ h.2), flatten_leave_innermost opened, rest, List.append_assoc]
        rfl
      · rw [marks_of_innermost opened] at h
        exact absurd h.1.symm differs

/-- The scopes that have ended have a number of candidates, also those in others, and the open ones
have none. -/
structure Counted (t : Trace) : Prop where
  roots : Scope.AllEnded (fun _ => True) t.roots
  opened : ∀ s ∈ t.opened, s.candidates = none ∧ Scope.AllEnded (fun _ => True) s.children

theorem Counted.enter {t : Trace} (h : t.Counted) (mark : Mark) (input : Text) :
    (t.enter mark input).Counted where
  roots := h.roots
  opened := List.forall_mem_cons.mpr ⟨⟨rfl, trivial⟩, h.opened⟩

theorem Counted.drop {t : Trace} (h : t.Counted) : t.drop.Counted where
  roots := h.roots
  opened s hs := h.opened s (List.mem_of_mem_tail hs)

theorem Counted.grow {t : Trace} (h : t.Counted) {forest : List Scope}
    (ended : Scope.AllEnded (fun _ => True) forest) : (t.grow forest).Counted := by
  obtain ⟨hroots, hopened⟩ := h
  rcases t with ⟨roots, _ | ⟨s, outer⟩⟩
  · exact ⟨hroots.append ended, hopened⟩
  · obtain ⟨⟨count, children⟩, others⟩ := List.forall_mem_cons.mp hopened
    exact ⟨hroots, List.forall_mem_cons.mpr ⟨⟨count, children.append ended⟩, others⟩⟩

theorem Counted.after {t : Trace} (h : t.Counted) (e : Event) : (t.after e).Counted := by
  cases e with
  | enter mark input => exact h.enter mark input
  | leave mark n =>
    rw [Trace.after]
    rcases t.leave_cases mark n with
      ⟨-, left⟩ | ⟨s, outer, opened, rfl, left⟩ | ⟨s, outer, -, -, left⟩
    · rw [left]
      exact h
    · have innermost := h.opened s (opened ▸ List.mem_cons_self)
      rw [left]
      exact h.drop.grow ⟨⟨trivial, innermost.2⟩, trivial⟩
    · rw [left]
      exact h.drop

theorem Counted.replay {t : Trace} (h : t.Counted) (events : List Event) :
    (t.replay events).Counted := by
  induction events generalizing t with
  | nil => exact h
  | cons e es ih => exact ih (h.after e)

/-! ## Lines -/

/-- What the lines of a trace are written for. -/
def entries (t : Trace) : List Entry := Scope.entriesOfAll 0 (t.roots ++ t.opened.reverse)

theorem render_eq_join (t : Trace) : t.render = String.join (t.entries.map Entry.line) :=
  Scope.renderAll_eq_join 0 _

/-- There is one line for each scope, in the order in which they were entered. -/
theorem map_start_entries (t : Trace) :
    t.entries.map Entry.start = t.flatten.filter Event.isEnter := by
  have each (s : Scope) : (s.entries 0).map Entry.start =
      (.enter s.mark s.input :: Scope.eventsOfAll s.children).filter Event.isEnter := by
    rw [Scope.entries_eq_cons, List.map_cons, Scope.map_start_entriesOfAll, List.filter_cons]
    rfl
  rw [entries, Scope.entriesOfAll_append, List.map_append, Scope.map_start_entriesOfAll, flatten,
    List.filter_append, Scope.entriesOfAll_eq_flatMap, List.map_flatMap, List.filter_flatMap]
  simp only [each]

end Trace

theorem Trace.empty_counted : ({} : Trace).Counted := ⟨trivial, fun _ hs => nomatch hs⟩

def outerMark : Mark := ⟨"outer", ⟨"tests/debug.rs", 1⟩⟩

def innerMark : Mark := ⟨"inner", ⟨"tests/debug.rs", 2⟩⟩

/-- An end that comes when nothing is open, then a scope inside of another one, which stays open. -/
def innerEnded : List Event :=
  [.leave outerMark 3, .enter outerMark ['a', '\n'], .enter innerMark ['"'], .leave innerMark 2]

end Backtrack
