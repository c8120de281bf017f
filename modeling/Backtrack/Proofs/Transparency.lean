import Backtrack.Parser.Apply
import Backtrack.Proofs.Parametricity

/-!
# Transparent debugging

What a parser does depends neither on the debugger nor on the marks in it, and a trace is
never left by a scope that is not the innermost open one: `debugging_is_transparent`. This
holds from every state of the debugger, with whatever scopes an earlier run left open.
-/

namespace Backtrack

/-- Two debuggers whose calls always return, and keep a relation of their states for every list of
open marks. -/
structure Debugger.InStep {σ τ : Type} (d : Debugger σ) (d' : Debugger τ)
    (R : List Mark → σ → τ → Prop) : Prop where
  enter : ∀ mark input {ms s s'}, R ms s s' →
    ∃ u u', (d.enter mark input).outcome s = (.ok (), u) ∧
      (d'.enter mark input).outcome s' = (.ok (), u') ∧ R (mark :: ms) u u'
  leave : ∀ mark candidates {ms s s'}, R (mark :: ms) s s' →
    ∃ u u', (d.leave mark candidates).outcome s = (.ok (), u) ∧
      (d'.leave mark candidates).outcome s' = (.ok (), u') ∧ R ms u u'

/-- Runs with the same end. The states stay related; if there is a result, then the open marks are
those from before the run. -/
def Correspondence.inStep {σ τ : Type} (R : List Mark → σ → τ → Prop) : Correspondence σ τ where
  runs P r r' := ∀ ms s s', R ms s s' →
    (∃ a u u', r.outcome s = (.ok a, u) ∧ r'.outcome s' = (.ok a, u') ∧ P a ∧ R ms u u') ∨
      ∃ e ns u u', r.outcome s = (.error e, u) ∧ r'.outcome s' = (.error e, u') ∧ R ns u u'
  pure hP ms s s' hR := .inl ⟨_, s, s', rfl, rfl, hP, hR⟩
  bind hr hnext ms s s' hR := by
    rcases hr ms s s' hR with ⟨a, u, u', h, h', hP, hR⟩ | ⟨e, ns, u, u', h, h', hR⟩
    · rw [Run.outcome_bind_of_ok h, Run.outcome_bind_of_ok h']
      exact hnext a hP ms u u' hR
    · rw [Run.outcome_bind_of_error h, Run.outcome_bind_of_error h']
      exact .inr ⟨e, ns, u, u', rfl, rfl, hR⟩
  fault f ms s s' hR := .inr ⟨.fault f, ms, s, s', rfl, rfl, hR⟩

namespace Debugger.InStep

variable {σ τ α : Type} {d : Debugger σ} {d' : Debugger τ} {R : List Mark → σ → τ → Prop}

/-- The mark of a parser is the innermost open one when the parser ends, as it was when the parser
started. -/
theorem debug (h : d.InStep d' R) (mark : Mark) {S : Set Text} {b : Behaviour σ α}
    {b' : Behaviour τ α} (hb : (Correspondence.inStep R).behaviours S S b b') :
    (Correspondence.inStep R).behaviours S S (b.debug d mark) (b'.debug d' mark) := by
  intro t ht ms s s' hR
  obtain ⟨u, u', he, he', hR⟩ := h.enter mark t hR
  simp only [Behaviour.debug]
  rw [Run.outcome_bind_of_ok he, Run.outcome_bind_of_ok he']
  rcases hb t ht _ u u' hR with ⟨found, v, v', hf, hf', hP, hR⟩ | ⟨e, ns, v, v', hf, hf', hR⟩
  · obtain ⟨w, w', hl, hl', hR⟩ := h.leave mark found.length hR
    rw [Run.outcome_bind_of_ok hf, Run.outcome_bind_of_ok hf', Run.outcome_bind_of_ok hl,
      Run.outcome_bind_of_ok hl']
    exact .inl ⟨found, w, w', rfl, rfl, hP, hR⟩
  · rw [Run.outcome_bind_of_error hf, Run.outcome_bind_of_error hf']
    exact .inr ⟨e, ns, v, v', rfl, rfl, hR⟩

theorem halt (S S' : Set Text) (e : Halt) :
    (Correspondence.inStep R).behaviours S S' (.halt e : Behaviour σ α) (.halt e) :=
  fun _ _ ms s s' hR => .inr ⟨e, ms, s, s', rfl, rfl, hR⟩

theorem fits (h : d.InStep d' R) (S : Set Text) (depth : Nat) :
    (Correspondence.inStep R).Fits S d d' depth depth where
  debug := fun _ mark _ _ hb => h.debug mark hb
  unfold := fun _ _ _ hf => Correspondence.unfold_of_halt (halt S S _) hf depth

/-- A parser ends in the same way with both debuggers. -/
theorem behaviour (h : d.InStep d' R) (p : Parser [] α) (depth : Nat) (t : Text) (ms : List Mark)
    {s : σ} {s' : τ} (hR : R ms s s') :
    ((p.behaviour d depth .empty t).outcome s).1 = ((p.behaviour d' depth .empty t).outcome s').1 ∧
      ∃ ns, R ns ((p.behaviour d depth .empty t).outcome s).2
        ((p.behaviour d' depth .empty t).outcome s').2 := by
  rcases Parser.behaviour_corresponds (h.fits Set.univ depth) suffixClosed_univ p.customs_univ
    (Store.empty_corresponds _ _) t trivial ms s s' hR with
    ⟨a, u, u', hr, hr', -, hR⟩ | ⟨e, ns, u, u', hr, hr', hR⟩
  · rw [hr, hr']
    exact ⟨rfl, ms, hR⟩
  · rw [hr, hr']
    exact ⟨rfl, ns, hR⟩

theorem applyWith (h : d.InStep d' R) (p : Parser [] α) (t : Text) (ms : List Mark) {s : σ} {s' : τ}
    (hR : R ms s s') :
    ((p.applyWith d t).outcome s).1 = ((p.applyWith d' t).outcome s').1 ∧
      ∃ ns, R ns ((p.applyWith d t).outcome s).2 ((p.applyWith d' t).outcome s').2 := by
  rw [Parser.outcome_applyWith, Parser.outcome_applyWith]
  rcases Pattern.blanks.split t with _ | ⟨skipped, rest⟩
  · exact ⟨rfl, ms, hR⟩
  · exact h.behaviour p _ rest ms hR

end Debugger.InStep

/-! ## The debuggers -/

namespace Trace

/-- The marks of the open scopes, innermost first. -/
def marks (t : Trace) : List Mark := t.opened.map Scope.mark

theorem marks_enter (t : Trace) (mark : Mark) (input : Text) :
    (t.enter mark input).marks = mark :: t.marks := rfl

theorem marks_place (t : Trace) (s : Scope) : (t.place s).marks = t.marks := by
  rcases t with ⟨roots, _ | ⟨parent, outer⟩⟩ <;> rfl

/-- The innermost open scope can be left by its own mark. -/
theorem leave_marks {t : Trace} {mark : Mark} {ms : List Mark} (h : t.marks = mark :: ms)
    (candidates : Nat) :
    (t.leave mark candidates).1 = .ok () ∧ (t.leave mark candidates).2.marks = ms := by
  rcases t with ⟨roots, _ | ⟨s, outer⟩⟩
  · cases h
  · obtain ⟨rfl, rfl⟩ := List.cons.inj h
    constructor
    · simp only [leave, ↓reduceIte]
    · simp only [leave, ↓reduceIte, marks_place]
      rfl

end Trace

/-- As `tracer`, and keeps whether a scope was ever left by another mark than its own. -/
def Debugger.watcher : Debugger (Trace × Bool) where
  enter mark input := .update fun (t, failed) => (t.enter mark input, failed)
  leave mark candidates := do
    let (t, failed) ← get
    let (ended, t) := t.leave mark candidates
    set (t, failed || !ended.isOk)
    Run.attempt ended

namespace Debugger

theorem silent_inStep_recorder : silent.InStep recorder fun _ _ _ => True where
  enter := fun _ _ _ _ _ _ => ⟨_, _, rfl, rfl, trivial⟩
  leave := fun _ _ _ _ _ _ => ⟨_, _, rfl, rfl, trivial⟩

theorem outcome_tracer_attempt (mark : Mark) (candidates : Nat) (t : Trace) :
    (tracer.leave mark candidates).outcome t =
      (Run.attempt (t.leave mark candidates).1).outcome (t.leave mark candidates).2 := rfl

theorem outcome_tracer_leave {mark : Mark} {ms : List Mark} {t : Trace} (h : t.marks = mark :: ms)
    (candidates : Nat) :
    (tracer.leave mark candidates).outcome t = (.ok (), (t.leave mark candidates).2) := by
  rw [outcome_tracer_attempt, (t.leave_marks h candidates).1]
  rfl

theorem outcome_watcher_leave {mark : Mark} {ms : List Mark} {t : Trace} (h : t.marks = mark :: ms)
    (candidates : Nat) (failed : Bool) :
    (watcher.leave mark candidates).outcome (t, failed) =
      (.ok (), (t.leave mark candidates).2, failed) := by
  have ended := (t.leave_marks h candidates).1
  change (Run.attempt (t.leave mark candidates).1).outcome
    ((t.leave mark candidates).2, failed || !(t.leave mark candidates).1.isOk) = _
  rw [ended]
  simp [Run.attempt, Except.isOk, Except.toBool]

theorem silent_inStep_tracer : silent.InStep tracer fun ms _ t => t.marks = ms where
  enter := fun mark input _ _ t h => ⟨_, _, rfl, rfl, by rw [Trace.marks_enter, h]⟩
  leave := fun mark candidates _ _ t h =>
    ⟨_, _, rfl, outcome_tracer_leave h candidates, (t.leave_marks h candidates).2⟩

theorem tracer_inStep_watcher :
    tracer.InStep watcher fun ms t w => t.marks = ms ∧ w = (t, false) where
  enter := by
    rintro mark input ms t _ ⟨h, rfl⟩
    exact ⟨_, _, rfl, rfl, by rw [Trace.marks_enter, h], rfl⟩
  leave := by
    rintro mark candidates ms t _ ⟨h, rfl⟩
    exact ⟨_, _, outcome_tracer_leave h candidates, outcome_watcher_leave h candidates false,
      (t.leave_marks h candidates).2, rfl⟩

end Debugger

/-! ## Marks -/

namespace Parser

/-- The parser without its marks. -/
def unmarked : {Γ : Scopes} → {α : Type} → Parser Γ α → Parser Γ α
  | _, _, debug _ p => p.unmarked
  | _, _, tryMap p f => tryMap p.unmarked f
  | _, _, bind p next => bind p.unmarked fun a => (next a).unmarked
  | _, _, union p q => union p.unmarked q.unmarked
  | _, _, committed p q => committed p.unmarked q.unmarked
  | _, _, orElse p q => orElse p.unmarked q.unmarked
  | _, _, tryFilter p keep => tryFilter p.unmarked keep
  | _, _, optional p => optional p.unmarked
  | _, _, many p => many p.unmarked
  | _, _, some p => some p.unmarked
  | _, _, separatedByAtLeastOne p q => separatedByAtLeastOne p.unmarked q.unmarked
  | _, _, separatedBy p q => separatedBy p.unmarked q.unmarked
  | _, _, chain p q => chain p.unmarked q.unmarked
  | _, _, .then p q => .then p.unmarked q.unmarked
  | _, _, ap p q => ap p.unmarked q.unmarked
  | _, _, token p => token p.unmarked
  | _, _, define state definition body => define state definition.unmarked body.unmarked
  | _, _, pure a => pure a
  | _, _, empty => empty
  | _, _, raise f => raise f
  | _, _, endOfText => endOfText
  | _, _, item => item
  | _, _, grapheme => grapheme
  | _, _, literal text => literal text
  | _, _, pattern p => pattern p
  | _, _, custom f => custom f
  | _, _, handle h => handle h

theorem debug_silent {α : Type} (mark : Mark) (b : Behaviour Unit α) :
    b.debug .silent mark = b := by
  funext t
  simp only [Behaviour.debug, Debugger.silent, pure_bind, bind_pure]

/-- Without a debugger, marks do nothing. -/
theorem behaviour_unmarked {Γ : Scopes} {α : Type} (p : Parser Γ α) (depth : Nat)
    (s : Store Unit Γ) : p.unmarked.behaviour .silent depth s = p.behaviour .silent depth s := by
  induction p with
  | debug mark _ ih => simp only [unmarked, behaviour, ih, debug_silent]
  | bind _ _ ih ihn => simp only [unmarked, behaviour, ih, ihn]
  | pure | empty | raise | endOfText | item | grapheme | literal | pattern | custom | handle => rfl
  | tryMap _ _ ih | tryFilter _ _ ih | optional _ ih | many _ ih | some _ ih | token _ ih =>
    simp only [unmarked, behaviour, ih]
  | union _ _ ih₁ ih₂ | committed _ _ ih₁ ih₂ | orElse _ _ ih₁ ih₂
  | separatedByAtLeastOne _ _ ih₁ ih₂ | separatedBy _ _ ih₁ ih₂ | chain _ _ ih₁ ih₂
  | «then» _ _ ih₁ ih₂ | ap _ _ ih₁ ih₂ | define _ _ _ ih₁ ih₂ =>
    simp only [unmarked, behaviour, ih₁, ih₂]

end Parser

/-- A debugger with a state that it starts from. -/
inductive Observer
  | silent
  | tracing (t : Trace)
  | recording (log : Log)

/-- How a run ends that is observed. -/
def Observer.outcome {β : Type} (r : ⦃σ : Type⦄ → Debugger σ → Run σ β) : Observer → Except Halt β
  | silent => ((r .silent).outcome ()).1
  | tracing t => ((r .tracer).outcome t).1
  | recording log => ((r .recorder).outcome log).1

namespace Observer

variable {α : Type}

theorem outcome_behaviour (o : Observer) (p : Parser [] α) (depth : Nat) (t : Text) :
    o.outcome (fun _ d => p.behaviour d depth .empty t) =
      ((p.behaviour .silent depth .empty t).outcome ()).1 := by
  cases o with
  | silent => rfl
  | tracing trace => exact ((Debugger.silent_inStep_tracer.behaviour p depth t _ rfl).1).symm
  | recording log =>
    exact ((Debugger.silent_inStep_recorder.behaviour p depth t [] trivial).1).symm

theorem outcome_applyWith (o : Observer) (p : Parser [] α) (t : Text) :
    o.outcome (fun _ d => p.applyWith d t) = p.apply t := by
  cases o with
  | silent => rfl
  | tracing trace => exact ((Debugger.silent_inStep_tracer.applyWith p t _ rfl).1).symm
  | recording log =>
    exact ((Debugger.silent_inStep_recorder.applyWith p t [] trivial).1).symm

end Observer

/-- From every trace, each scope is left by its own mark: nothing fails for the watcher, and all
else is as it is for the tracer. -/
def Nested {β : Type} (r : ⦃σ : Type⦄ → Debugger σ → Run σ β) : Prop :=
  ∀ t : Trace, ∃ result last, (r .tracer).outcome t = (result, last) ∧
    (r .watcher).outcome (t, false) = (result, last, false)

theorem nested_of_inStep {β : Type} {r : ⦃σ : Type⦄ → Debugger σ → Run σ β}
    (h : ∀ t : Trace, ((r .tracer).outcome t).1 = ((r .watcher).outcome (t, false)).1 ∧
      ∃ ns, ((r .tracer).outcome t).2.marks = ns ∧
        ((r .watcher).outcome (t, false)).2 = (((r .tracer).outcome t).2, false)) : Nested r := by
  intro t
  obtain ⟨same, -, -, last⟩ := h t
  exact ⟨_, _, rfl, Prod.ext same.symm last⟩

/-- **Debugging is transparent.** Two grammars that differ in their marks only, each run under any
of the debuggers from any state of it, have the same candidates or end with the same fault. No
scope of a trace is ever left by a mark that is not its own. -/
theorem debugging_is_transparent {α : Type} {p q : Parser [] α} (h : p.unmarked = q.unmarked)
    (o o' : Observer) (depth : Nat) (t : Text) :
    o.outcome (fun _ d => p.behaviour d depth .empty t) =
      o'.outcome (fun _ d => q.behaviour d depth .empty t) ∧
    o.outcome (fun _ d => p.applyWith d t) = o'.outcome (fun _ d => q.applyWith d t) ∧
    Nested (fun _ d => p.behaviour d depth .empty t) ∧ Nested (fun _ d => p.applyWith d t) := by
  have same (depth : Nat) (s : Store Unit []) :
      p.behaviour .silent depth s = q.behaviour .silent depth s := by
    rw [← p.behaviour_unmarked, h, q.behaviour_unmarked]
  refine ⟨?_, ?_, ?_, ?_⟩
  · rw [o.outcome_behaviour, o'.outcome_behaviour, same]
  · rw [o.outcome_applyWith, o'.outcome_applyWith]
    simp only [Parser.apply, Parser.applyWith, same]
  · exact nested_of_inStep fun trace =>
      Debugger.tracer_inStep_watcher.behaviour p depth t trace.marks ⟨rfl, rfl⟩
  · exact nested_of_inStep fun trace =>
      Debugger.tracer_inStep_watcher.applyWith p t trace.marks ⟨rfl, rfl⟩

/-- Parentheses, with the depth to which they are nested, and a mark on each level. -/
def levels : Parser [] Nat :=
  .recursive (.debug ⟨"level", ⟨"levels", 1⟩⟩
    (.union ((Parser.self.delimitedBy (.literal ['(']) (.literal [')'])).map (· + 1)) (.pure 0)))

/-- A trace that an earlier run left open. -/
def leftOpen : Trace := ⟨[], [⟨⟨"level", ⟨"levels", 1⟩⟩, ['('], none, []⟩]⟩

theorem debugging_is_transparent_levels :
    levels.unmarked = levels.unmarked.unmarked ∧
    (Observer.tracing leftOpen).outcome
      (fun _ d => levels.behaviour d 5 .empty ['(', '(', ')', ')']) =
        .ok [(2, []), (0, ['(', '(', ')', ')'])] ∧
    Nested fun _ d => levels.applyWith d ['(', '(', ')', ')'] := by
  have unmarked : levels.unmarked = levels.unmarked.unmarked := rfl
  obtain ⟨same, -, -, nested⟩ := debugging_is_transparent unmarked (.tracing leftOpen) .silent 5
    ['(', '(', ')', ')']
  exact ⟨unmarked, same, nested⟩

end Backtrack
