import Backtrack.Proofs.Depth
import Backtrack.Proofs.Derivation
import Backtrack.Proofs.Report
import Backtrack.Proofs.Scan
import Backtrack.Proofs.Transparency

/-!
# Faithful traces

What a run tells its debugger is well bracketed, and each number of candidates is that of
the marked parser on the input that was reported. A trace grows by the forest of these
calls, wherever it stood before: `trace_is_faithful`. A run that is cut short leaves the
scopes open that it has not left.
-/

namespace Backtrack

/-! ## Marked parsers -/

/-- A parser that stands behind a mark, with the definitions around it. -/
structure MarkedParser where
  {scopes : Scopes}
  {result : Type}
  definitions : Definitions scopes
  mark : Mark
  parser : Parser scopes result

/-- The marked parsers of which a parser is made, with the definitions around it. -/
def Parser.marked : {Γ : Scopes} → {α : Type} → Parser Γ α → Definitions Γ → Set MarkedParser
  | _, _, pure _, _ | _, _, empty, _ | _, _, raise _, _ | _, _, endOfText, _ | _, _, item, _ => ∅
  | _, _, grapheme, _ | _, _, literal _, _ | _, _, pattern _, _ | _, _, custom _, _ => ∅
  | _, _, handle _, _ => ∅
  | _, _, tryMap p _, D | _, _, tryFilter p _, D | _, _, optional p, D => p.marked D
  | _, _, many p, D | _, _, some p, D | _, _, token p, D => p.marked D
  | _, _, debug mark p, D => {⟨D, mark, p⟩} ∪ p.marked D
  | _, _, bind p next, D => p.marked D ∪ {x | ∃ a, x ∈ (next a).marked D}
  | _, _, union p q, D | _, _, committed p q, D | _, _, orElse p q, D => p.marked D ∪ q.marked D
  | _, _, separatedByAtLeastOne p q, D | _, _, separatedBy p q, D => p.marked D ∪ q.marked D
  | _, _, chain p q, D | _, _, .then p q, D | _, _, ap p q, D => p.marked D ∪ q.marked D
  | _, _, define state definition body, D =>
    definition.marked (D.with .alive definition) ∪ body.marked (D.with state definition)

/-- The parser with the definitions that it refers to. -/
def Definitions.enclose : {Γ : Scopes} → {α : Type} → Definitions Γ → Parser Γ α → Parser [] α
  | _, _, .none, p => p
  | _, _, .with D state definition, p => D.enclose (.define state definition p)

/-- The scope is that of a run of the marked parser on the input: it has as many candidates as the
parser, and in it are the scopes that this run reports. -/
structure MarkedParser.Explains (x : MarkedParser) (depth : Nat) (s : Scope) : Prop where
  mark : s.mark = x.mark
  run : ∃ cs, s.candidates = some cs.length ∧ ∀ t : Trace,
    ((x.definitions.enclose x.parser).behaviour .tracer depth .empty s.input).outcome t =
      (.ok cs, t.grow s.children)

/-- The scope is that of a run of one of the parser's marked parsers. -/
def Parser.Explains {α : Type} (p : Parser [] α) (depth : Nat) (s : Scope) : Prop :=
  ∃ x ∈ p.marked .none, x.Explains depth s

/-- What the definitions do. -/
def Definitions.store {σ : Type} (d : Debugger σ) (depth : Nat) :
    {Γ : Scopes} → Definitions Γ → Store σ Γ
  | _, .none => .empty
  | _, .with D state definition =>
    let s := D.store d depth
    s.push (state.cell (unfold (fun b => definition.behaviour d depth (s.push (.alive b))) depth))

theorem Definitions.behaviour_enclose {σ : Type} (d : Debugger σ) (depth : Nat) {Γ : Scopes}
    {α : Type} (D : Definitions Γ) (p : Parser Γ α) :
    (D.enclose p).behaviour d depth .empty = p.behaviour d depth (D.store d depth) := by
  induction D with
  | none => rfl
  | «with» D state definition ih => exact ih (.define state definition p)

/-! ## Runs that report -/

/-- A run with a recorder and one with a tracer that both end with the result and report the same,
from wherever they start. -/
structure Reports {α : Type} (r : Run Log α) (r' : Run Trace α) (result : Except Halt α)
    (report : Report) : Prop where
  logged : ∀ log, r.outcome log = (result, log ++ report.events.toArray)
  traced : ∀ t, r'.outcome t = (result, t.extend report)

namespace Reports

variable {α β : Type} {r : Run Log α} {r' : Run Trace α} {next : α → Run Log β}
  {next' : α → Run Trace β}

/-- A run that leaves the debugger alone reports nothing. -/
theorem nothing {result : Except Halt α} (hr : ∀ log, r.outcome log = (result, log))
    (hr' : ∀ t, r'.outcome t = (result, t)) : Reports r r' result .empty where
  logged log := by simp [hr, Report.events, Report.empty, Scope.eventsOfAll]
  traced t := by simp [hr', Trace.extend, Report.empty]

theorem bind_of_error {e : Halt} {report : Report} (h : Reports r r' (.error e) report) :
    Reports (r >>= next) (r' >>= next') (.error e) report where
  logged log := Run.outcome_bind_of_error (h.logged log)
  traced t := Run.outcome_bind_of_error (h.traced t)

/-- What comes after a run that has left all its scopes is reported after these. -/
theorem bind_of_ok {a : α} {forest : List Scope} {result : Except Halt β} {more : Report}
    (h : Reports r r' (.ok a) ⟨forest, []⟩) (hnext : Reports (next a) (next' a) result more) :
    Reports (r >>= next) (r' >>= next') result (more.after forest) where
  logged log := by
    have first : (⟨forest, []⟩ : Report).events = Scope.eventsOfAll forest := by
      simp only [Report.events, List.append_nil]
    rw [Run.outcome_bind_of_ok (h.logged log), hnext.logged, Report.events_after, first]
    simp only [Array.append_assoc, List.append_toArray]
  traced t := by
    rw [Run.outcome_bind_of_ok (h.traced t), hnext.traced, Trace.extend_after,
      Trace.extend_of_ended]

variable {b : Behaviour Log α} {b' : Behaviour Trace α} {t : Text}

/-- A marked parser that is cut short leaves its scope open, around those that were left open in
it. -/
theorem debug_of_error {e : Halt} {report : Report} (mark : Mark)
    (h : Reports (b t) (b' t) (.error e) report) :
    Reports (b.debug .recorder mark t) (b'.debug .tracer mark t) (.error e)
      (report.within mark t) where
  logged log := by
    change (b t >>= _).outcome (log.push (.enter mark t)) = _
    rw [Run.outcome_bind_of_error (h.logged _), Report.events_within]
    simp
  traced trace := by
    change (b' t >>= _).outcome (trace.enter mark t) = _
    rw [Run.outcome_bind_of_error (h.traced _), Trace.extend_within]

/-- A marked parser that has a result reports one scope, with the number of its candidates. -/
theorem debug_of_ok {cs : Candidates α} {forest : List Scope} (mark : Mark)
    (h : Reports (b t) (b' t) (.ok cs) ⟨forest, []⟩) :
    Reports (b.debug .recorder mark t) (b'.debug .tracer mark t) (.ok cs)
      ⟨[⟨mark, t, some cs.length, forest⟩], []⟩ where
  logged log := by
    change (b t >>= _).outcome (log.push (.enter mark t)) = _
    rw [Run.outcome_bind_of_ok (h.logged _)]
    change (_, (log.push (.enter mark t) ++ _).push (.leave mark cs.length)) = _
    simp [Report.events, Scope.eventsOfAll, Scope.events]
  traced trace := by
    change (b' t >>= _).outcome (trace.enter mark t) = _
    rw [Run.outcome_bind_of_ok (h.traced _), Trace.extend_of_ended]
    have left := trace.leave_grow_enter mark t forest cs.length
    have leave : (Debugger.tracer.leave mark cs.length).outcome ((trace.enter mark t).grow forest) =
        (.ok (), trace.grow [⟨mark, t, some cs.length, forest⟩]) := by
      change (Run.attempt (((trace.enter mark t).grow forest).leave mark cs.length).1).outcome
        (((trace.enter mark t).grow forest).leave mark cs.length).2 = _
      rw [left]
      rfl
    rw [Run.outcome_bind_of_ok leave]
    rfl

end Reports

/-- Runs that report the same, and soundly. Nothing stays open in a run that has a result. -/
def Correspondence.reporting (J : Scope → Prop) : Correspondence Log Trace where
  runs P r r' := ∃ result report, Reports r r' result report ∧ report.Sound J ∧
    ∀ a, result = .ok a → P a ∧ report.unended = []
  pure {α P a} hP := by
    refine ⟨.ok a, .empty, .nothing (fun _ => rfl) (fun _ => rfl), ⟨trivial, nofun⟩, ?_⟩
    rintro _ ⟨⟩
    exact ⟨hP, rfl⟩
  bind := by
    rintro α β P Q r r' next next' ⟨e | a, report, reports, sound, ended⟩ hnext
    · exact ⟨.error e, report, reports.bind_of_error, sound, nofun⟩
    · obtain ⟨hP, closed⟩ := ended a rfl
      obtain ⟨result, more, reports', sound', ended'⟩ := hnext a hP
      obtain ⟨forest, _⟩ := report
      cases closed
      exact ⟨result, more.after forest, reports.bind_of_ok reports', sound'.after sound.1, ended'⟩
  fault f :=
    ⟨.error (.fault f), .empty, .nothing (fun _ => rfl) (fun _ => rfl), ⟨trivial, nofun⟩, nofun⟩

namespace Correspondence

variable {J : Scope → Prop} {α : Type}

theorem reporting_halt (S S' : Set Text) (e : Halt) :
    (reporting J).behaviours S S' (.halt e : Behaviour Log α) (.halt e) :=
  fun _ _ => ⟨.error e, .empty, .nothing (fun _ => rfl) (fun _ => rfl), ⟨trivial, nofun⟩, nofun⟩

/-- A marked parser reports soundly if the condition holds of its own scope wherever it has a
result. -/
theorem reporting_debug (mark : Mark) {b : Behaviour Log α} {b' : Behaviour Trace α}
    (h : (reporting J).behaviours Set.univ Set.univ b b')
    (own : ∀ input cs forest, (∀ t, (b' input).outcome t = (.ok cs, t.grow forest)) →
      J ⟨mark, input, some cs.length, forest⟩) :
    (reporting J).behaviours Set.univ Set.univ (b.debug .recorder mark) (b'.debug .tracer mark) := by
  intro t ht
  obtain ⟨e | cs, report, reports, sound, ended⟩ := h t ht
  · exact ⟨.error e, report.within mark t, reports.debug_of_error mark, sound.within mark t, nofun⟩
  · obtain ⟨leaves, closed⟩ := ended cs rfl
    obtain ⟨forest, _⟩ := report
    cases closed
    have scope := own t cs forest reports.traced
    refine ⟨.ok cs, _, reports.debug_of_ok mark, ⟨⟨⟨scope, sound.1⟩, trivial⟩, nofun⟩, ?_⟩
    rintro _ ⟨⟩
    exact ⟨leaves, rfl⟩

end Correspondence

namespace Parser

open Correspondence

variable {J : Scope → Prop} {depth : Nat} {Γ : Scopes} {α β : Type} {D : Definitions Γ}

/-- The uses of a definition within itself go no deeper than the definition that is enclosed. -/
theorem enclosed_uses (definition : Parser (β :: Γ) β) {s : Store Trace Γ}
    (hs : s.Corresponds (deeper Trace) Set.univ (D.store .tracer depth)) {uses : Nat}
    (huses : uses ≤ depth) :
    (deeper Trace).behaviours Set.univ Set.univ
      (Backtrack.unfold (fun b => definition.behaviour .tracer depth (s.push (.alive b))) uses)
      (Backtrack.unfold (fun b =>
        definition.behaviour .tracer depth ((D.store .tracer depth).push (.alive b))) depth) := by
  apply deeper_unfold _ huses
  intro b b' hb
  exact behaviour_corresponds (deeper_fits _ _ (Nat.le_refl depth)) suffixClosed_univ
    definition.customs_univ (hs.push hb)

/-- A parser reports soundly, if the condition holds of the scopes of its marked parsers and the
handles around it report soundly. -/
theorem reports (p : Parser Γ α)
    (hJ : ∀ x ∈ p.marked D, ∀ scope, x.Explains depth scope → J scope)
    {s : Store Log Γ} {s' : Store Trace Γ} (hs : s.Corresponds (reporting J) Set.univ s')
    (enclosed : s'.Corresponds (deeper Trace) Set.univ (D.store .tracer depth)) :
    (reporting J).behaviours Set.univ Set.univ (p.behaviour .recorder depth s)
      (p.behaviour .tracer depth s') := by
  induction p with
  | pure | empty | raise | endOfText | item | grapheme | literal | pattern | custom =>
    exact Primitive.corresponds (customs_univ _) suffixClosed_univ s s' trivial
  | tryMap _ f ih => exact (ih hJ hs enclosed).tryMap f
  | bind _ _ ih ihn =>
    exact (ih (fun x hx => hJ x (.inl hx)) hs enclosed).bind fun a =>
      ihn a (fun x hx => hJ x (.inr ⟨a, hx⟩)) hs enclosed
  | union _ _ ih₁ ih₂ =>
    exact (ih₁ (fun x hx => hJ x (.inl hx)) hs enclosed).union
      (ih₂ (fun x hx => hJ x (.inr hx)) hs enclosed)
  | committed _ _ ih₁ ih₂ =>
    exact (ih₁ (fun x hx => hJ x (.inl hx)) hs enclosed).committed
      (ih₂ (fun x hx => hJ x (.inr hx)) hs enclosed)
  | orElse _ _ ih₁ ih₂ =>
    exact (ih₁ (fun x hx => hJ x (.inl hx)) hs enclosed).orElse
      (ih₂ (fun x hx => hJ x (.inr hx)) hs enclosed)
  | tryFilter _ keep ih => exact (ih hJ hs enclosed).tryFilter keep
  | optional _ ih => exact (ih hJ hs enclosed).optional
  | many _ ih => exact (ih hJ hs enclosed).many
  | some _ ih => exact (ih hJ hs enclosed).some (ih hJ hs enclosed)
  | separatedByAtLeastOne _ _ ih₁ ih₂ =>
    have first := ih₁ (fun x hx => hJ x (.inl hx)) hs enclosed
    exact first.separatedByAtLeastOne first (ih₂ (fun x hx => hJ x (.inr hx)) hs enclosed)
  | separatedBy _ _ ih₁ ih₂ =>
    have first := ih₁ (fun x hx => hJ x (.inl hx)) hs enclosed
    exact first.separatedBy first (ih₂ (fun x hx => hJ x (.inr hx)) hs enclosed) subset_rfl
  | chain _ _ ih₁ ih₂ =>
    have first := ih₁ (fun x hx => hJ x (.inl hx)) hs enclosed
    exact first.chain first (ih₂ (fun x hx => hJ x (.inr hx)) hs enclosed)
  | «then» _ _ ih₁ ih₂ =>
    exact (ih₁ (fun x hx => hJ x (.inl hx)) hs enclosed).then
      (ih₂ (fun x hx => hJ x (.inr hx)) hs enclosed)
  | ap _ _ ih₁ ih₂ =>
    exact (ih₁ (fun x hx => hJ x (.inl hx)) hs enclosed).ap
      (ih₂ (fun x hx => hJ x (.inr hx)) hs enclosed)
  | token _ ih => exact (ih hJ hs enclosed).token (suffixClosed_univ.pattern .blanks)
  | debug mark p ih =>
    apply reporting_debug mark (ih (fun x hx => hJ x (.inr hx)) hs enclosed)
    intro input cs forest traced
    refine hJ ⟨D, mark, p⟩ (.inl rfl) _ ⟨rfl, cs, rfl, fun t => ?_⟩
    -- The handles may have been used up in part here; with new ones the parser goes as deep or
    -- deeper, and it has a result already.
    rcases behaviour_corresponds (deeper_fits Set.univ Debugger.tracer (Nat.le_refl depth))
      suffixClosed_univ p.customs_univ enclosed input trivial t with deep | ⟨same, -⟩
    · rw [traced] at deep
      cases deep
    · rw [Definitions.behaviour_enclose, same, traced]
  | handle h => exact hs h
  | define state definition body ih₁ ih₂ =>
    have inner : ∀ uses ≤ depth, (reporting J).behaviours Set.univ Set.univ
        (Backtrack.unfold (fun b => definition.behaviour .recorder depth (s.push (.alive b))) uses)
        (Backtrack.unfold
          (fun b => definition.behaviour .tracer depth (s'.push (.alive b))) uses) := by
      intro uses huses
      induction uses with
      | zero => exact reporting_halt _ _ _
      | succ uses ih =>
        have less := Nat.le_of_succ_le huses
        exact ih₁ (D := D.with .alive definition) (fun x hx => hJ x (.inl hx)) (hs.push (ih less))
          (enclosed.push (enclosed_uses definition enclosed less))
    have tied := inner depth (Nat.le_refl depth)
    have deep := enclosed_uses definition enclosed (Nat.le_refl depth)
    exact ih₂ (D := D.with state definition) (fun x hx => hJ x (.inr hx))
      (hs.push (state.cell_corresponds tied)) (enclosed.push (state.cell_corresponds deep))

end Parser

/-! ## Faithfulness -/

/-- What the debuggers see of a run, wherever they stand. If the run has a result, then the calls are
those of a forest, and this is where the trace belongs that grew. Otherwise the forest is followed
by the scopes that were entered and not left, outermost first. -/
structure Faithful {β : Type} (r : ⦃σ : Type⦄ → Debugger σ → Run σ β)
    (J : Scope → Prop) : Prop where
  returns : ∀ b log, ((r .recorder).outcome log).1 = .ok b → ∃ forest, Scope.AllEnded J forest ∧
    (∀ log, (r .recorder).outcome log = (.ok b, log ++ (Scope.eventsOfAll forest).toArray)) ∧
    ∀ t : Trace, (r .tracer).outcome t = (.ok b, t.grow forest)
  breaks : ∀ e log, ((r .recorder).outcome log).1 = .error e → ∃ report : Report, report.Sound J ∧
    (∀ log, (r .recorder).outcome log = (.error e, log ++ report.events.toArray)) ∧
    ∀ t : Trace, (r .tracer).outcome t = (.error e, t.extend report)

theorem Faithful.of_reporting {β : Type} {r : ⦃σ : Type⦄ → Debugger σ → Run σ β}
    {J : Scope → Prop} {P : β → Prop}
    (h : (Correspondence.reporting J).runs P (r .recorder) (r .tracer)) : Faithful r J := by
  obtain ⟨result, report, reports, sound, ended⟩ := h
  constructor
  · intro b log hb
    obtain rfl : result = .ok b := by rw [← hb, reports.logged]
    obtain ⟨-, closed⟩ := ended b rfl
    obtain ⟨forest, _⟩ := report
    cases closed
    have calls : (⟨forest, []⟩ : Report).events = Scope.eventsOfAll forest := by
      simp only [Report.events, List.append_nil]
    exact ⟨forest, sound.1, fun log => by rw [reports.logged, calls], reports.traced⟩
  · intro e log he
    obtain rfl : result = .error e := by rw [← he, reports.logged]
    exact ⟨report, sound, reports.logged, reports.traced⟩

namespace Parser

variable {α : Type}

theorem reports_own (p : Parser [] α) (depth : Nat) :
    (Correspondence.reporting (p.Explains depth)).behaviours Set.univ Set.univ
      (p.behaviour .recorder depth .empty) (p.behaviour .tracer depth .empty) := by
  have enclosed : (Store.empty : Store Trace []).Corresponds (.deeper Trace) Set.univ
      (Definitions.none.store .tracer depth) := nofun
  exact p.reports (fun x hx _ own => ⟨x, hx, own⟩) (Store.empty_corresponds _ _) enclosed

theorem behaviour_faithful (p : Parser [] α) (depth : Nat) (t : Text) :
    Faithful (fun _ d => p.behaviour d depth .empty t) (p.Explains depth) :=
  .of_reporting (p.reports_own depth t trivial)

theorem applyWith_faithful (p : Parser [] α) (t : Text) :
    Faithful (fun _ d => p.applyWith d t) (p.Explains (depthFor t)) := by
  have blanks : (Correspondence.reporting (p.Explains (depthFor t))).behaviours Set.univ Set.univ
      Behaviour.blanks Behaviour.blanks := .split fun _ _ _ _ => trivial
  exact .of_reporting (blanks.bind (fun _ => p.reports_own (depthFor t)) t trivial)

end Parser

/-- Applies grammars to texts, one after the other and with one debugger. -/
def applyAll {σ : Type} (d : Debugger σ) : List (Σ α : Type, Parser [] α × Text) → Run σ Unit
  | [] => pure ()
  | ⟨_, p, t⟩ :: more => do
    let _ ← p.applyWith d t
    applyAll d more

/-- The forest of a grammar that is applied to a text with a new debugger. -/
def forestOf (run : Σ α : Type, Parser [] α × Text) : List Scope :=
  ((run.2.1.applyWith .tracer run.2.2).outcome {}).2.roots

theorem outcome_applyAll (runs : List (Σ α : Type, Parser [] α × Text))
    (h : ∀ run ∈ runs, ∃ cs, run.2.1.apply run.2.2 = .ok cs) (t : Trace) :
    (applyAll .tracer runs).outcome t = (.ok (), t.grow (runs.flatMap forestOf)) := by
  induction runs generalizing t with
  | nil => rw [List.flatMap_nil, Trace.grow_nil]; rfl
  | cons run runs ih =>
    obtain ⟨cs, hcs⟩ := h run List.mem_cons_self
    have result : ((run.2.1.applyWith .recorder run.2.2).outcome #[]).1 = .ok cs :=
      ((Observer.recording #[]).outcome_applyWith run.2.1 run.2.2).trans hcs
    obtain ⟨forest, -, -, traced⟩ := (run.2.1.applyWith_faithful run.2.2).returns cs #[] result
    have own : forestOf run = forest := by
      rw [forestOf, traced]
      rfl
    rw [applyAll, Run.outcome_bind_of_ok (traced t), List.flatMap_cons, own, ← Trace.grow_grow]
    exact ih (fun other hother => h other (List.mem_cons_of_mem _ hother)) _

/-- **Traces are faithful.** The calls of the debugger in a run that returns are those of one forest
of scopes, each with the number of candidates that its marked parser has on its input. The trace
grows by this forest inside of the innermost open scope, or among the roots, and changes nowhere
else. If the run is cut short, then the scopes that were entered and not left stay open on top of
those that were open before. So the forests of several runs are joined. -/
theorem trace_is_faithful {α : Type} (p : Parser [] α) :
    (∀ depth t, Faithful (fun _ d => p.behaviour d depth .empty t) (p.Explains depth)) ∧
    (∀ t, Faithful (fun _ d => p.applyWith d t) (p.Explains (Parser.depthFor t))) ∧
    (∀ f g, Scope.AllEnded (fun _ => True) f → Scope.AllEnded (fun _ => True) g →
      Scope.eventsOfAll f = Scope.eventsOfAll g → f = g) ∧
    ∀ runs : List (Σ α : Type, Parser [] α × Text),
      (∀ run ∈ runs, ∃ cs, run.2.1.apply run.2.2 = .ok cs) →
        ∀ t, (applyAll .tracer runs).outcome t = (.ok (), t.grow (runs.flatMap forestOf)) :=
  ⟨p.behaviour_faithful, p.applyWith_faithful, fun _ _ => Scope.eventsOfAll_injective,
    outcome_applyAll⟩

def itemMark : Mark := ⟨"item", ⟨"tests/debug.rs", 1⟩⟩

/-- One character is read, and then one more is missed. -/
def itemTwice : List (Σ α : Type, Parser [] α × Text) :=
  [⟨Char, .debug itemMark .item, ['a']⟩, ⟨Char, .debug itemMark .item, []⟩]

/-- The scope around the runs was left open by an earlier one. -/
theorem trace_is_faithful_item :
    (∀ run ∈ itemTwice, ∃ cs, run.2.1.apply run.2.2 = .ok cs) ∧
      (applyAll .tracer itemTwice).outcome ⟨[], [⟨itemMark, ['b'], none, []⟩]⟩ =
        (.ok (), ⟨[], [⟨itemMark, ['b'], none,
          [⟨itemMark, ['a'], some 1, []⟩, ⟨itemMark, [], some 0, []⟩]⟩]⟩) := by
  have returns : ∀ run ∈ itemTwice, ∃ cs, run.2.1.apply run.2.2 = .ok cs := by
    simp only [itemTwice, List.forall_mem_cons, List.not_mem_nil, false_implies, implies_true,
      and_true, Parser.apply, Parser.outcome_applyWith, Pattern.blanks_split]
    exact ⟨⟨_, rfl⟩, ⟨_, rfl⟩⟩
  refine ⟨returns, ?_⟩
  rw [(trace_is_faithful (.debug itemMark .item)).2.2.2 itemTwice returns]
  simp only [itemTwice, List.flatMap_cons, List.flatMap_nil, forestOf, Parser.outcome_applyWith,
    Pattern.blanks_split]
  rfl

end Backtrack
