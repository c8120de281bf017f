import Backtrack.Proofs.Repetition
import Backtrack.Proofs.Tracing

/-!
# Greedy repetition

A loop goes from text to text by steps: each is the one that is taken where the steps before it
lead, and each but the last makes the text shorter. There is one such sequence of steps at most. A
repetition takes the first candidate at each step, tries its parser on the texts of the sequence
and on nothing else, and leaves a text from which a repetition reads nothing: `many_is_greedy`.
-/

namespace Backtrack

variable {σ α β : Type}

/-! ## Sequences of steps -/

/-- Where the steps lead from the text. -/
def standing (t : Text) (steps : Candidates α) : Text := steps.foldl (fun _ step => step.2) t

@[simp] theorem standing_nil (t : Text) : standing t ([] : Candidates α) = t := rfl

@[simp] theorem standing_cons (t : Text) (step : α × Text) (steps : Candidates α) :
    standing t (step :: steps) = standing step.2 steps := rfl

@[simp] theorem standing_concat (t : Text) (steps : Candidates α) (step : α × Text) :
    standing t (steps ++ [step]) = step.2 := by
  simp only [standing, List.foldl_append, List.foldl_cons, List.foldl_nil]

/-- The steps of a loop that starts on the text. -/
structure Greedy (takes : Text → α × Text → Prop) (fails : Text → Prop) (t : Text)
    (steps : Candidates α) : Prop where
  /-- Each step is taken where the steps before it lead. -/
  taken : ∀ before step after, steps = before ++ step :: after → takes (standing t before) step
  /-- Each step but the last makes the text shorter. -/
  shortens : ∀ before step after, steps = before ++ step :: after → after ≠ [] →
    byteLength step.2 < byteLength (standing t before)
  /-- The loop ends where there is no step, or with a step that does not make the text shorter. -/
  ends : fails (standing t steps) ∨ ∃ before step, steps = before ++ [step] ∧
    ¬byteLength step.2 < byteLength (standing t before)

namespace Greedy

variable {takes takes' : Text → α × Text → Prop} {fails fails' : Text → Prop} {t : Text}
  {step : α × Text} {steps steps' : Candidates α}

theorem nil_iff : Greedy takes fails t [] ↔ fails t := by
  constructor
  · intro h
    rcases h.ends with h | ⟨before, step, heq, -⟩
    · exact h
    · simp at heq
  · intro h
    exact ⟨by simp, by simp, .inl h⟩

/-- After a step that makes the text shorter the loop goes on from there, and after another one
nothing comes. -/
theorem cons_iff : Greedy takes fails t (step :: steps) ↔ takes t step ∧
    (byteLength step.2 < byteLength t ∧ Greedy takes fails step.2 steps ∨
      ¬byteLength step.2 < byteLength t ∧ steps = []) := by
  constructor
  · intro h
    refine ⟨h.taken [] step steps rfl, ?_⟩
    by_cases shorter : byteLength step.2 < byteLength t
    · refine .inl ⟨shorter, ?_, ?_, ?_⟩
      · rintro before next after rfl
        exact h.taken (step :: before) next after rfl
      · rintro before next after rfl hne
        exact h.shortens (step :: before) next after rfl hne
      · rcases h.ends with fails | ⟨before, last, heq, stuck⟩
        · exact .inl fails
        · cases before with
          | nil =>
            obtain ⟨rfl, -⟩ := List.cons.inj heq
            exact absurd shorter stuck
          | cons _ before =>
            obtain ⟨rfl, rfl⟩ := List.cons.inj heq
            exact .inr ⟨before, last, rfl, stuck⟩
    · refine .inr ⟨shorter, ?_⟩
      by_contra hne
      exact shorter (h.shortens [] step steps rfl hne)
  · rintro ⟨first, ⟨shorter, h⟩ | ⟨stuck, rfl⟩⟩
    · constructor
      · rintro (_ | ⟨_, before⟩) next after heq
        · obtain ⟨rfl, -⟩ := List.cons.inj heq
          exact first
        · obtain ⟨rfl, rfl⟩ := List.cons.inj heq
          exact h.taken before next after rfl
      · rintro (_ | ⟨_, before⟩) next after heq hne
        · obtain ⟨rfl, -⟩ := List.cons.inj heq
          exact shorter
        · obtain ⟨rfl, rfl⟩ := List.cons.inj heq
          exact h.shortens before next after rfl hne
      · rcases h.ends with fails | ⟨before, last, rfl, stuck⟩
        · exact .inl fails
        · exact .inr ⟨step :: before, last, rfl, stuck⟩
    · refine ⟨?_, ?_, .inr ⟨[], step, rfl, stuck⟩⟩
      · rintro (_ | ⟨_, before⟩) next after heq
        · obtain ⟨rfl, -⟩ := List.cons.inj heq
          exact first
        · simp at heq
      · rintro (_ | ⟨_, before⟩) next after heq hne
        · obtain ⟨-, rfl⟩ := List.cons.inj heq
          exact absurd rfl hne
        · simp at heq

theorem mono (htakes : ∀ u step, takes u step → takes' u step) (hfails : ∀ u, fails u → fails' u)
    (h : Greedy takes fails t steps) : Greedy takes' fails' t steps where
  taken before step after heq := htakes _ _ (h.taken before step after heq)
  shortens := h.shortens
  ends := h.ends.imp_left (hfails _)

/-- Where at most one step can be taken, and none where there is no step, the steps are determined
by the text. -/
theorem unique (one : ∀ u step step', takes u step → takes u step' → step = step')
    (none : ∀ u step, takes u step → ¬fails u) (h : Greedy takes fails t steps)
    (h' : Greedy takes fails t steps') : steps = steps' := by
  induction steps generalizing t steps' with
  | nil =>
    cases steps' with
    | nil => rfl
    | cons step' steps' => exact absurd (nil_iff.mp h) (none _ _ (cons_iff.mp h').1)
  | cons step steps ih =>
    obtain ⟨first, rest⟩ := cons_iff.mp h
    cases steps' with
    | nil => exact absurd (nil_iff.mp h') (none _ _ first)
    | cons step' steps' =>
      obtain ⟨first', rest'⟩ := cons_iff.mp h'
      obtain rfl := one _ _ _ first first'
      rcases rest with ⟨shorter, h⟩ | ⟨stuck, rfl⟩
      · rcases rest' with ⟨-, h'⟩ | ⟨stuck, -⟩
        · rw [ih h h']
        · exact absurd shorter stuck
      · rcases rest' with ⟨shorter, -⟩ | ⟨-, rfl⟩
        · exact absurd shorter stuck
        · rfl

/-- A set of texts that no step leaves has all the texts to which the steps lead. -/
theorem standing_mem {S : Set Text} (hS : ∀ u ∈ S, ∀ step, takes u step → step.2 ∈ S) (ht : t ∈ S)
    {before after : Candidates α} (h : Greedy takes fails t (before ++ after)) :
    standing t before ∈ S := by
  induction before generalizing t with
  | nil => exact ht
  | cons step before ih =>
    obtain ⟨first, ⟨-, h⟩ | ⟨-, heq⟩⟩ := cons_iff.mp h
    · exact ih (hS t ht step first) h
    · obtain ⟨rfl, -⟩ := List.append_eq_nil_iff.mp heq
      exact hS t ht step first

/-- There are no more steps than characters that are read, and one. -/
theorem length_le (hs : ∀ u, u <:+ t → ∀ step, takes u step → step.2 <:+ u)
    (h : Greedy takes fails t steps) : steps.length + (standing t steps).length ≤ t.length + 1 := by
  induction steps generalizing t with
  | nil => simp
  | cons step steps ih =>
    obtain ⟨first, rest⟩ := cons_iff.mp h
    have suffix := hs t (List.suffix_refl t) step first
    rw [List.length_cons, standing_cons]
    rcases rest with ⟨shorter, h⟩ | ⟨-, rfl⟩
    · have := ih (fun u hu => hs u (hu.trans suffix)) h
      have : step.2.length < t.length := by
        refine Nat.lt_of_le_of_ne suffix.length_le fun same => ?_
        rw [suffix.eq_of_length same] at shorter
        exact Nat.lt_irrefl _ shorter
      omega
    · have := suffix.length_le
      simp only [List.length_nil, standing_nil]
      omega

end Greedy

/-- The texts that are tried when the steps are taken: the one from which they start, and the one
after each step that makes the text shorter. -/
def tried (t : Text) : Candidates α → List Text
  | [] => [t]
  | step :: steps => t :: if byteLength step.2 < byteLength t then tried step.2 steps else []

/-- If there is no step in the end, then each text of the sequence is tried; otherwise the last one
is not. -/
theorem Greedy.tried_cases {takes : Text → α × Text → Prop} {fails : Text → Prop} {t : Text}
    {steps : Candidates α} (h : Greedy takes fails t steps) :
    fails (standing t steps) ∧ tried t steps = t :: steps.map Prod.snd ∨
      ∃ before step, steps = before ++ [step] ∧
        ¬byteLength step.2 < byteLength (standing t before) ∧
        tried t steps = t :: before.map Prod.snd := by
  induction steps generalizing t with
  | nil => exact .inl ⟨nil_iff.mp h, rfl⟩
  | cons step steps ih =>
    obtain ⟨-, ⟨shorter, h⟩ | ⟨stuck, rfl⟩⟩ := cons_iff.mp h
    · simp only [tried, shorter, ↓reduceIte, standing_cons, List.map_cons]
      rcases ih h with ⟨fails, same⟩ | ⟨before, last, rfl, stuck, same⟩
      · exact .inl ⟨fails, by rw [same]⟩
      · exact .inr ⟨step :: before, last, rfl, stuck, by rw [same, List.map_cons]⟩
    · exact .inr ⟨[], step, rfl, stuck, by simp only [tried, stuck, ↓reduceIte, List.map_nil]⟩

/-- Where steps leave ends of their texts, a last step that does not make the text shorter reads
nothing. -/
theorem Greedy.tried_of_suffix {takes : Text → α × Text → Prop} {fails : Text → Prop} {t : Text}
    {steps : Candidates α} (hs : ∀ u, u <:+ t → ∀ step, takes u step → step.2 <:+ u)
    (h : Greedy takes fails t steps) :
    fails (standing t steps) ∧ tried t steps = t :: steps.map Prod.snd ∨
      ∃ before item, steps = before ++ [(item, standing t steps)] ∧
        standing t before = standing t steps ∧ tried t steps = t :: before.map Prod.snd := by
  have stays (u : Text) (hu : u ∈ {u | u <:+ t}) (step : α × Text) (first : takes u step) :
      step.2 ∈ {u | u <:+ t} := (hs u hu step first).trans hu
  refine h.tried_cases.imp_right ?_
  rintro ⟨before, ⟨item, rest⟩, rfl, stuck, calls⟩
  have shorter := hs _ (h.standing_mem stays (List.suffix_refl t)) _ (h.taken before _ [] rfl)
  have here : rest = standing t before := by
    by_contra hne
    exact stuck (byteLength_lt_of_suffix shorter hne)
  rw [standing_concat]
  exact ⟨before, item, rfl, here.symm, calls⟩

/-! ## The steps of a repetition -/

/-- The step is the first candidate on the text. -/
def FirstOf (candidates : Text → Except Halt (Candidates α)) (t : Text) (step : α × Text) : Prop :=
  ∃ more, candidates t = .ok (step :: more)

/-- There is no candidate on the text. -/
def NoneOf (candidates : Text → Except Halt (Candidates α)) (t : Text) : Prop :=
  candidates t = .ok []

section

variable {candidates : Text → Except Halt (Candidates α)} {t : Text} {step step' : α × Text}

theorem FirstOf.unique (h : FirstOf candidates t step) (h' : FirstOf candidates t step') :
    step = step' := by
  obtain ⟨more, h⟩ := h
  obtain ⟨more', h'⟩ := h'
  rw [h] at h'
  cases h'
  rfl

theorem FirstOf.not_noneOf (h : FirstOf candidates t step) : ¬NoneOf candidates t := by
  obtain ⟨more, h⟩ := h
  intro none
  rw [NoneOf, h] at none
  cases none

variable {steps steps' : Candidates α}

/-- First candidates can be taken from a text in one way only. -/
theorem Greedy.first_unique (h : Greedy (FirstOf candidates) (NoneOf candidates) t steps)
    (h' : Greedy (FirstOf candidates) (NoneOf candidates) t steps') : steps = steps' :=
  h.unique (fun _ _ _ first => first.unique) (fun _ _ first => first.not_noneOf) h'

/-- From the text to which steps lead that leave ends of their texts, one reads nothing more. -/
theorem Greedy.again (hs : ∀ u, u <:+ t → ∀ step, FirstOf candidates u step → step.2 <:+ u)
    (h : Greedy (FirstOf candidates) (NoneOf candidates) t steps) :
    ∃ more, Greedy (FirstOf candidates) (NoneOf candidates) (standing t steps) more ∧
      standing (standing t steps) more = standing t steps := by
  rcases h.tried_of_suffix hs with ⟨none, -⟩ | ⟨before, item, heq, there, -⟩
  · exact ⟨[], nil_iff.mpr none, rfl⟩
  · have first := h.taken before _ [] heq
    rw [there] at first
    exact ⟨[(item, standing t steps)], cons_iff.mpr ⟨first, .inr ⟨Nat.lt_irrefl _, rfl⟩⟩, rfl⟩

end

/-- What a behaviour gives without a debugger. -/
def Behaviour.answer (b : Behaviour Unit α) (t : Text) : Except Halt (Candidates α) :=
  (b t).result

/-- A repetition takes the steps, and runs its behaviour on the texts that are tried. -/
theorem Greedy.outcome_repeatFrom {b : Behaviour σ α}
    {candidates : Text → Except Halt (Candidates α)} {note : Text → σ → σ}
    (hb : ∀ u cs, candidates u = .ok cs → ∀ state, (b u).outcome state = (.ok cs, note u state))
    {t : Text} {steps : Candidates α} (h : Greedy (FirstOf candidates) (NoneOf candidates) t steps)
    (items : List α) (state : σ) :
    (repeatFrom b items t).outcome state =
      (.ok (items.reverse ++ steps.map Prod.fst, standing t steps),
        (tried t steps).foldl (fun state u => note u state) state) := by
  induction steps generalizing t items state with
  | nil =>
    rw [repeatFrom_of_failure (hb t [] (Greedy.nil_iff.mp h) state)]
    simp [tried]
  | cons step steps ih =>
    obtain ⟨item, rest⟩ := step
    obtain ⟨⟨more, first⟩, ⟨shorter, h⟩ | ⟨stuck, rfl⟩⟩ := Greedy.cons_iff.mp h
    · rw [repeatFrom_of_progress (hb t _ first state) shorter, ih h]
      simp [tried, shorter]
    · rw [repeatFrom_of_no_progress (hb t _ first state) stuck]
      simp [tried, stuck]

/-- A repetition takes steps until it ends, unless its behaviour is cut short on the way. The
induction is on the length of the text. -/
theorem exists_greedy (b : Behaviour Unit α) {S : Set Text}
    (hS : ∀ u ∈ S, ∀ step, FirstOf b.answer u step → step.2 ∈ S) {t : Text} (ht : t ∈ S)
    (items : List α) : (∃ steps, Greedy (FirstOf b.answer) (NoneOf b.answer) t steps) ∨
      ∃ u ∈ S, ∃ e, b.answer u = .error e ∧ (repeatFrom b items t).result = .error e := by
  induction hn : byteLength t using Nat.strongRecOn generalizing items t with
  | ind n ih =>
    rcases answer : b.answer t with e | _ | ⟨⟨item, rest⟩, more⟩
    · refine .inr ⟨t, ht, e, answer, ?_⟩
      rw [repeatFrom]
      exact Run.result_bind_of_error answer _
    · exact .inl ⟨[], Greedy.nil_iff.mpr answer⟩
    · have first : FirstOf b.answer t (item, rest) := ⟨more, answer⟩
      by_cases shorter : byteLength rest < byteLength t
      · have outcome : (b t).outcome () = (.ok ((item, rest) :: more), ()) := Prod.ext answer rfl
        rw [Run.result, repeatFrom_of_progress outcome shorter]
        refine (ih _ (hn ▸ shorter) (hS t ht _ first) (item :: items) rfl).imp_left ?_
        rintro ⟨steps, h⟩
        exact ⟨(item, rest) :: steps, Greedy.cons_iff.mpr ⟨first, .inl ⟨shorter, h⟩⟩⟩
      · exact .inl ⟨[(item, rest)], Greedy.cons_iff.mpr ⟨first, .inr ⟨shorter, rfl⟩⟩⟩

/-! ## Calls -/

namespace Parser

variable {p : Parser [] α} {depth : Nat}

/-- The scope of a run of the parser behind the mark. -/
def scopeOn (p : Parser [] α) (depth : Nat) (mark : Mark) (u : Text) : Scope where
  mark := mark
  input := u
  candidates := (p.runWithin depth u).toOption.map List.length
  children := ((p.behaviour .tracer depth .empty u).outcome {}).2.roots

/-- A trace grows by the scope of each run that has a result. -/
theorem outcome_debug_tracer {u : Text} {cs : Candidates α} (h : p.runWithin depth u = .ok cs)
    (mark : Mark) (trace : Trace) :
    (((p.behaviour .tracer depth .empty).debug .tracer mark) u).outcome trace =
      (.ok cs, trace.grow [p.scopeOn depth mark u]) := by
  have result : ((p.behaviour .recorder depth .empty u).outcome #[]).1 = .ok cs :=
    ((Observer.recording #[]).outcome_behaviour p depth u).trans h
  obtain ⟨forest, -, logged, traced⟩ := (p.behaviour_faithful depth u).returns cs #[] result
  have reports : Reports (p.behaviour .recorder depth .empty u) (p.behaviour .tracer depth .empty u)
      (.ok cs) ⟨forest, []⟩ :=
    ⟨fun log => by rw [logged, Report.events, List.append_nil], traced⟩
  have scope : p.scopeOn depth mark u = ⟨mark, u, Option.some cs.length, forest⟩ := by
    rw [scopeOn, traced, h]
    rfl
  rw [(reports.debug_of_ok mark).traced, scope, Trace.extend_of_ended]

end Parser

theorem Trace.foldl_grow (trace : Trace) (scope : Text → Scope) (us : List Text) :
    us.foldl (fun trace u => trace.grow [scope u]) trace = trace.grow (us.map scope) := by
  induction us generalizing trace with
  | nil => rw [List.map_nil, Trace.grow_nil]; rfl
  | cons u us ih => rw [List.foldl_cons, ih, Trace.grow_grow, List.map_cons, List.singleton_append]

namespace Parser

variable {p : Parser [] α} {depth : Nat} {t : Text} {steps : Candidates α}

/-- A repetition has the results of its steps, and leaves the text to which they lead. -/
theorem many_runWithin
    (h : Greedy (FirstOf (p.runWithin depth)) (NoneOf (p.runWithin depth)) t steps) :
    p.many.runWithin depth t = .ok [(steps.map Prod.fst, standing t steps)] := by
  have silent (u : Text) (cs : Candidates α) (hcs : p.runWithin depth u = .ok cs) (state : Unit) :
      (p.behaviour .silent depth .empty u).outcome state = (.ok cs, state) := Prod.ext hcs rfl
  exact congrArg Prod.fst (Run.outcome_bind_of_ok (h.outcome_repeatFrom silent [] ()))

/-- The trace of a repetition of a marked parser has a scope for each text that is tried. -/
theorem many_debug_tracer
    (h : Greedy (FirstOf (p.runWithin depth)) (NoneOf (p.runWithin depth)) t steps) (mark : Mark)
    (trace : Trace) : ((debug mark p).many.behaviour .tracer depth .empty t).outcome trace =
      (.ok [(steps.map Prod.fst, standing t steps)],
        trace.grow ((tried t steps).map (p.scopeOn depth mark))) := by
  have rounds := h.outcome_repeatFrom (fun u cs hcs => outcome_debug_tracer hcs mark) [] trace
  rw [Trace.foldl_grow] at rounds
  exact Run.outcome_bind_of_ok rounds

/-- **A repetition is greedy.** Where the parser leaves ends of its texts, a repetition that is not
cut short has one candidate. It comes from one sequence of steps: each is the first candidate where
the steps before it lead, and each but the last makes the text shorter. Either there is no candidate
in the end, or the last step reads nothing. The parser is called on the texts of the sequence in
order, but not behind a step that reads nothing, which the trace of the marked parser shows. So
there are no more steps than characters that are read, and one, and a second repetition reads
nothing. A run on a text is the case of the depth for the text: `run_eq_runWithin`. -/
theorem many_is_greedy {p : Parser [] α} {depth : Nat} {t : Text}
    (hp : ∀ u, u <:+ t → ∀ cs, p.runWithin depth u = .ok cs → Leaves {rest | rest <:+ u} cs) :
    (∀ e, p.many.runWithin depth t = .error e → ∃ u, u <:+ t ∧ p.runWithin depth u = .error e) ∧
    ∀ cs, p.many.runWithin depth t = .ok cs → ∃ steps calls rest,
      cs = [(steps.map Prod.fst, rest)] ∧ rest = standing t steps ∧
      (∀ steps', Greedy (FirstOf (p.runWithin depth)) (NoneOf (p.runWithin depth)) t steps' ↔
        steps' = steps) ∧
      (NoneOf (p.runWithin depth) rest ∧ calls = t :: steps.map Prod.snd ∨
        ∃ before item, steps = before ++ [(item, rest)] ∧ standing t before = rest ∧
          calls = t :: before.map Prod.snd) ∧
      (∀ mark trace, ((debug mark p).many.behaviour .tracer depth .empty t).outcome trace =
        (.ok cs, trace.grow (calls.map (p.scopeOn depth mark)))) ∧
      steps.length + rest.length ≤ t.length + 1 ∧
      ∃ again, p.many.runWithin depth rest = .ok [(again, rest)] := by
  have suffix (u : Text) (hu : u <:+ t) (step : α × Text)
      (first : FirstOf (p.runWithin depth) u step) : step.2 <:+ u := by
    obtain ⟨more, first⟩ := first
    exact hp u hu _ first step List.mem_cons_self
  have stays (u : Text) (hu : u ∈ {u | u <:+ t}) (step : α × Text)
      (first : FirstOf (p.runWithin depth) u step) : step.2 ∈ {u | u <:+ t} :=
    (suffix u hu step first).trans hu
  rcases exists_greedy (p.behaviour .silent depth .empty) stays (List.suffix_refl t) [] with
    ⟨steps, h⟩ | ⟨u, hu, e, he, failed⟩
  · have result : p.many.runWithin depth t = .ok [(steps.map Prod.fst, standing t steps)] :=
      many_runWithin h
    rw [result]
    refine ⟨nofun, ?_⟩
    rintro _ ⟨⟩
    obtain ⟨more, again, nothing⟩ := h.again suffix
    refine ⟨steps, tried t steps, standing t steps, rfl, rfl, fun steps' => ?_,
      h.tried_of_suffix suffix, many_debug_tracer h, h.length_le suffix, more.map Prod.fst, ?_⟩
    · exact ⟨fun h' => h'.first_unique h, fun same => same ▸ h⟩
    · rw [many_runWithin again, nothing]
  · have result : p.many.runWithin depth t = .error e :=
      Run.result_bind_of_error failed _
    rw [result]
    refine ⟨?_, nofun⟩
    rintro _ ⟨⟩
    exact ⟨u, hu, he⟩

/-- The round behind the letter reads nothing, and no call comes after it. -/
theorem many_is_greedy_letter :
    (∀ u, u <:+ ['a', 'b'] → ∀ cs, letterA.runWithin 3 u = .ok cs →
      Leaves {rest | rest <:+ u} cs) ∧
    letterA.many.run ['a', 'b'] = .ok [([['a'], []], ['b'])] ∧
    ∀ mark trace,
      ((debug mark letterA).many.behaviour .tracer 3 .empty ['a', 'b']).outcome trace =
        (.ok [([['a'], []], ['b'])],
          trace.grow [letterA.scopeOn 3 mark ['a', 'b'], letterA.scopeOn 3 mark ['b']]) := by
  have lawful (u : Text) (_ : u <:+ ['a', 'b']) (cs : Candidates Text)
      (h : letterA.runWithin 3 u = .ok cs) : Leaves {rest | rest <:+ u} cs :=
    letterA.behaviour_leaves_suffix .silent 3 ⟨trivial, trivial⟩ (Prod.ext h rfl)
  have first : FirstOf (letterA.runWithin 3) ['b'] ([], ['b']) := ⟨[], rfl⟩
  have steps : Greedy (FirstOf (letterA.runWithin 3)) (NoneOf (letterA.runWithin 3)) ['a', 'b']
      [(['a'], ['b']), ([], ['b'])] :=
    Greedy.cons_iff.mpr ⟨⟨[], rfl⟩, .inl ⟨by decide,
      Greedy.cons_iff.mpr ⟨first, .inr ⟨Nat.lt_irrefl _, rfl⟩⟩⟩⟩
  have ran : letterA.many.run ['a', 'b'] = .ok [([['a'], []], ['b'])] := many_runWithin steps
  obtain ⟨_, calls, _, -, rfl, only, ending, trace, -, -⟩ := (many_is_greedy lawful).2 _ ran
  obtain rfl := (only _).mp steps
  refine ⟨lawful, ran, ?_⟩
  rcases ending with ⟨none, -⟩ | ⟨before, item, heq, -, rfl⟩
  · exact absurd none first.not_noneOf
  · have : [(['a'], ['b'])] ++ [([], ['b'])] = before ++ [(item, ['b'])] := heq
    obtain ⟨rfl, -⟩ := List.append_inj' this rfl
    exact trace

end Parser

end Backtrack
