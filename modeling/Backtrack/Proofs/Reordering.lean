import Backtrack.Proofs.Sequencing
import Backtrack.Proofs.Tracing

/-!
# Runs in another order

Parts of a run that do not need each other's results can be put in another order. A debugger can
tell, and so can whoever sees which of two faults comes first; but the candidates are the same, and
each call of the debugger is made as often: `Correspondence.reordered_swap`. Two parsers whose runs
are like that are `Parser.Reordered`.
-/

namespace Backtrack

variable {σ α β γ : Type}

theorem fromEach_append (next : α → Behaviour σ β) (cs ds : Candidates α) :
    fromEach next (cs ++ ds) = do
      let found ← fromEach next cs
      let others ← fromEach next ds
      return found ++ others := by
  induction cs with
  | nil => simp only [List.nil_append, fromEach, pure_bind, bind_pure]
  | cons c cs ih =>
    simp only [List.cons_append, fromEach, ih, bind_assoc, pure_bind, List.append_assoc]

/-- The run ends with the result and makes the calls, whatever was recorded before. -/
def Run.Records (r : Run Log α) (result : Except Halt α) (calls : List Event) : Prop :=
  ∀ log, r.outcome log = (result, log ++ calls.toArray)

namespace Run.Records

variable {r : Run Log α} {next : α → Run Log β} {a : α} {e : Halt} {result : Except Halt β}
  {calls more : List Event}

/-- A run that leaves the debugger alone makes no calls. -/
theorem of_unchanged {result : Except Halt α} (h : ∀ log, r.outcome log = (result, log)) :
    r.Records result [] := by
  intro log
  rw [h, Array.append_empty]

theorem bind_of_ok (h : r.Records (.ok a) calls) (hnext : (next a).Records result more) :
    (r >>= next).Records result (calls ++ more) := by
  intro log
  rw [Run.outcome_bind_of_ok (h log), hnext]
  simp only [Array.append_assoc, List.append_toArray]

theorem bind_of_error (h : r.Records (.error e) calls) :
    (r >>= next).Records (.error e) calls :=
  fun log => Run.outcome_bind_of_error (h log)

theorem unique {result result' : Except Halt α} {calls' : List Event} (h : r.Records result calls)
    (h' : r.Records result' calls') : result = result' ∧ calls = calls' := by
  have same := (h #[]).symm.trans (h' #[])
  simpa using same

end Run.Records

namespace Correspondence

/-- Runs with the same result that make the same calls, though perhaps in another order; or both are
cut short, each in its own way. -/
def reordered : Correspondence Log Log where
  runs P r r' :=
    (∃ a calls calls', r.Records (.ok a) calls ∧ r'.Records (.ok a) calls' ∧ calls.Perm calls' ∧
      P a) ∨
    ∃ e e' calls calls', r.Records (.error e) calls ∧ r'.Records (.error e') calls'
  pure hP :=
    .inl ⟨_, [], [], .of_unchanged fun _ => rfl, .of_unchanged fun _ => rfl, .refl [], hP⟩
  bind := by
    rintro α β P Q r r' next next' (⟨a, _, _, h, h', same, hP⟩ | ⟨e, e', _, _, h, h'⟩) hnext
    · rcases hnext a hP with ⟨b, _, _, hn, hn', same', hQ⟩ | ⟨e, e', _, _, hn, hn'⟩
      · exact .inl ⟨b, _, _, h.bind_of_ok hn, h'.bind_of_ok hn', same.append same', hQ⟩
      · exact .inr ⟨e, e', _, _, h.bind_of_ok hn, h'.bind_of_ok hn'⟩
    · exact .inr ⟨e, e', _, _, h.bind_of_error, h'.bind_of_error⟩
  fault f :=
    .inr ⟨.fault f, .fault f, [], [], .of_unchanged fun _ => rfl, .of_unchanged fun _ => rfl⟩

theorem reordered_trans {P : α → Prop} {r r' r'' : Run Log α} (h : reordered.runs P r r')
    (h' : reordered.runs P r' r'') : reordered.runs P r r'' := by
  rcases h with ⟨a, _, _, h₁, h₂, same, hP⟩ | ⟨e, _, _, _, h₁, h₂⟩
  · rcases h' with ⟨a', _, _, h₂', h₃, same', -⟩ | ⟨e', _, _, _, h₂', -⟩
    · obtain ⟨⟨⟩, rfl⟩ := h₂.unique h₂'
      exact .inl ⟨a, _, _, h₁, h₃, same.trans same', hP⟩
    · cases (h₂.unique h₂').1
  · rcases h' with ⟨a', _, _, h₂', -⟩ | ⟨e', e'', _, _, -, h₃⟩
    · cases (h₂.unique h₂').1
    · exact .inr ⟨e, e'', _, _, h₁, h₃⟩

/-- Two parts can be swapped that do not need each other's result. -/
theorem reordered_swap {P : α → Prop} {Q : β → Prop} {R : γ → Prop} {r : Run Log α}
    {q : Run Log β} {k : α → β → Run Log γ} (hr : reordered.runs P r r) (hq : reordered.runs Q q q)
    (hk : ∀ a b, reordered.runs R (k a b) (k a b)) :
    reordered.runs R (do let a ← r; let b ← q; k a b) (do let b ← q; let a ← r; k a b) := by
  rcases hr with ⟨a, calls, _, ha, -⟩ | ⟨e, _, _, _, ha, -⟩
  · rcases hq with ⟨b, more, _, hb, -⟩ | ⟨e, _, _, _, hb, -⟩
    · rcases hk a b with ⟨c, _, _, hc, hc', same, hR⟩ | ⟨e, e', _, _, he, he'⟩
      · refine .inl ⟨c, _, _, ha.bind_of_ok (hb.bind_of_ok hc), hb.bind_of_ok (ha.bind_of_ok hc'),
          ?_, hR⟩
        rw [← List.append_assoc, ← List.append_assoc]
        exact List.perm_append_comm.append same
      · exact .inr ⟨e, e', _, _, ha.bind_of_ok (hb.bind_of_ok he),
          hb.bind_of_ok (ha.bind_of_ok he')⟩
    · exact .inr ⟨e, e, _, _, ha.bind_of_ok hb.bind_of_error, hb.bind_of_error⟩
  · rcases hq with ⟨b, _, _, hb, -⟩ | ⟨e', _, _, _, hb, -⟩
    · exact .inr ⟨e, e, _, _, ha.bind_of_error, hb.bind_of_ok ha.bind_of_error⟩
    · exact .inr ⟨e, e', _, _, ha.bind_of_error, hb.bind_of_error⟩

/-- The behaviour has one result on each text, and always makes the same calls. -/
abbrev Steady (b : Behaviour Log α) : Prop := reordered.behaviours Set.univ Set.univ b b

theorem steady_fromEach {next : α → Behaviour Log β} (hn : ∀ a, Steady (next a))
    (cs : Candidates α) :
    reordered.runs (Leaves Set.univ) (Backtrack.fromEach next cs) (Backtrack.fromEach next cs) :=
  fromEach fun c _ => hn c.1 c.2 trivial

/-! ## Parsers -/

theorem reordered_halt (S S' : Set Text) (e : Halt) :
    reordered.behaviours S S' (.halt e : Behaviour Log α) (.halt e) :=
  fun _ _ => .inr ⟨e, e, [], [], .of_unchanged fun _ => rfl, .of_unchanged fun _ => rfl⟩

theorem reordered_fits (S : Set Text) (depth : Nat) :
    reordered.Fits S .recorder .recorder depth depth where
  debug := by
    intro α mark b b' h
    have call (event : Event) :
        (Run.update (·.push event) : Run Log Unit).Records (.ok ()) [event] := by
      intro log
      change (_, log.push event) = _
      rw [Array.push_eq_append]
    refine h.debug (fun t => ?_) fun n => ?_
    · exact .inl ⟨(), _, _, call (.enter mark t), call (.enter mark t), .refl _, trivial⟩
    · exact .inl ⟨(), _, _, call (.leave mark n), call (.leave mark n), .refl _, trivial⟩
  unfold := fun _ _ _ hf => unfold_of_halt (reordered_halt S S _) hf depth

end Correspondence

/-- Definitions do alike if the debuggers and the depths do. -/
theorem Definitions.store_corresponds {τ : Type} {C : Correspondence σ τ} {d : Debugger σ}
    {d' : Debugger τ} {depth depth' : Nat} (fits : C.Fits Set.univ d d' depth depth')
    {Γ : Scopes} (D : Definitions Γ) :
    (D.store d depth).Corresponds C Set.univ (D.store d' depth') := by
  induction D with
  | none => exact Store.empty_corresponds C _
  | «with» D state definition ih =>
    apply ih.push
    apply state.cell_corresponds
    apply fits.unfold
    intro b b' hb
    exact Parser.behaviour_corresponds fits suffixClosed_univ definition.customs_univ (ih.push hb)

namespace Parser

open Correspondence

/-- A parser makes the same calls whenever it is run on a text. -/
theorem steady {Γ : Scopes} (D : Definitions Γ) (depth : Nat) (p : Parser Γ α) :
    Steady (p.behaviour .recorder depth (D.store .recorder depth)) :=
  have fits := reordered_fits Set.univ depth
  behaviour_corresponds fits suffixClosed_univ p.customs_univ (D.store_corresponds fits)

/-- The two parsers have the same candidates in the same order, or both are cut short, whoever
observes them. If they have candidates, then they make the same calls, though perhaps in another
order. -/
structure Reordered (p q : Parser [] α) : Prop where
  candidates : ∀ (o : Observer) (depth : Nat) (t : Text),
    (∃ cs, o.outcome (fun _ d => p.behaviour d depth .empty t) = .ok cs ∧
      o.outcome (fun _ d => q.behaviour d depth .empty t) = .ok cs) ∨
    ∃ e e', o.outcome (fun _ d => p.behaviour d depth .empty t) = .error e ∧
      o.outcome (fun _ d => q.behaviour d depth .empty t) = .error e'
  calls : ∀ (depth : Nat) (t : Text) (log log₁ log₂ : Log) (cs₁ cs₂ : Candidates α),
    (p.behaviour .recorder depth .empty t).outcome log = (.ok cs₁, log₁) →
      (q.behaviour .recorder depth .empty t).outcome log = (.ok cs₂, log₂) →
        log₁.toList.Perm log₂.toList

theorem Reordered.of_behaviours {p q : Parser [] α}
    (h : ∀ depth, reordered.behaviours Set.univ Set.univ (p.behaviour .recorder depth .empty)
      (q.behaviour .recorder depth .empty)) : p.Reordered q where
  candidates o depth t := by
    rw [o.outcome_behaviour, o.outcome_behaviour, ← (Observer.recording #[]).outcome_behaviour,
      ← (Observer.recording #[]).outcome_behaviour]
    rcases h depth t trivial with ⟨cs, _, _, hp, hq, -⟩ | ⟨e, e', _, _, hp, hq⟩
    · exact .inl ⟨cs, congrArg Prod.fst (hp #[]), congrArg Prod.fst (hq #[])⟩
    · exact .inr ⟨e, e', congrArg Prod.fst (hp #[]), congrArg Prod.fst (hq #[])⟩
  calls depth t log log₁ log₂ cs₁ cs₂ h₁ h₂ := by
    rcases h depth t trivial with ⟨cs, calls, calls', hp, hq, same, -⟩ | ⟨e, e', _, _, hp, -⟩
    · cases h₁.symm.trans (hp log)
      cases h₂.symm.trans (hq log)
      simpa using same.append_left log.toList
    · cases h₁.symm.trans (hp log)

/-- It is enough that the parsers do so among the definitions that they refer to. -/
theorem Reordered.enclose {Γ : Scopes} {D : Definitions Γ} {p q : Parser Γ α}
    (h : ∀ depth, reordered.behaviours Set.univ Set.univ
      (p.behaviour .recorder depth (D.store .recorder depth))
      (q.behaviour .recorder depth (D.store .recorder depth))) :
    (D.enclose p).Reordered (D.enclose q) := by
  apply Reordered.of_behaviours
  intro depth
  rw [Definitions.behaviour_enclose, Definitions.behaviour_enclose]
  exact h depth

end Parser

end Backtrack
