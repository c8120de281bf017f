import Backtrack.Proofs.Remainder
import Backtrack.Proofs.Sequencing

/-!
# Acceptance

A text is accepted if exactly one candidate leaves nothing of it, wherever that one stands among the
others. If each of them leaves something, then the shortest text that is left is the end of every
other one. So the verdict depends on which candidates there are, and not on their order:
`parse_accepts_the_only_complete_candidate`.
-/

namespace Backtrack

variable {σ α : Type}

/-- The candidates that leave nothing. -/
def completeCandidates (cs : Candidates α) : Candidates α := cs.filter fun c => c.2.isEmpty

theorem completeCandidates_cons (c : α × Text) (cs : Candidates α) :
    completeCandidates (c :: cs) =
      if c.2.isEmpty then c :: completeCandidates cs else completeCandidates cs :=
  List.filter_cons

theorem completeCandidates_eq_nil_iff {cs : Candidates α} :
    completeCandidates cs = [] ↔ ∀ c ∈ cs, c.2 ≠ [] := by
  simp only [completeCandidates, List.filter_eq_nil_iff, List.isEmpty_iff, ne_eq]

/-- There is one candidate that leaves nothing if those before and behind it leave something. -/
theorem completeCandidates_eq_singleton_iff {cs : Candidates α} {a : α} :
    completeCandidates cs = [(a, [])] ↔ ∃ before after, cs = before ++ (a, []) :: after ∧
      ∀ c ∈ before ++ after, c.2 ≠ [] := by
  simp only [completeCandidates, List.filter_eq_cons_iff, List.filter_eq_nil_iff, List.isEmpty_iff,
    List.forall_mem_append, true_and, ne_eq]

/-- The text that is left of every complete candidate is empty. -/
theorem eq_nil_of_mem_completeCandidates {cs : Candidates α} {c : α × Text}
    (h : c ∈ completeCandidates cs) : c.2 = [] :=
  List.isEmpty_iff.mp (List.mem_filter.mp h).2

theorem completeCandidates_eq_singleton_of_map {cs : Candidates α} {a : α}
    (h : (completeCandidates cs).map Prod.fst = [a]) : completeCandidates cs = [(a, [])] := by
  obtain ⟨⟨b, u⟩, hc, rfl⟩ := List.map_eq_singleton_iff.mp h
  have last : (b, u) ∈ completeCandidates cs := by
    rw [hc]
    exact List.mem_cons_self
  obtain rfl : u = [] := eq_nil_of_mem_completeCandidates last
  exact hc

/-! ## The tally -/

/-- The tally has the results that leave nothing, latest first. -/
theorem Tally.complete_foldl (cs : Candidates α) (tally : Tally α) :
    (cs.foldl Tally.add tally).complete =
      ((completeCandidates cs).map Prod.fst).reverse ++ tally.complete := by
  induction cs generalizing tally with
  | nil => rfl
  | cons c cs ih =>
    rw [List.foldl_cons, ih, add, completeCandidates_cons]
    split
    · simp only [List.map_cons, List.reverse_cons, List.append_assoc, List.singleton_append]
    · split <;> rfl

/-- The text, if there is one, is left by a candidate, and no candidate leaves a shorter one that is
not empty. -/
structure Shortest (r : Option Text) (cs : Candidates α) : Prop where
  left : ∀ u ∈ r, ∃ a, (a, u) ∈ cs
  le : ∀ c ∈ cs, c.2 ≠ [] → ∃ u ∈ r, byteLength u ≤ byteLength c.2

namespace Shortest

variable {r : Option Text} {cs : Candidates α} {c : α × Text}

theorem keep (h : Shortest r cs) (hc : c.2 ≠ [] → ∃ u ∈ r, byteLength u ≤ byteLength c.2) :
    Shortest r (cs ++ [c]) where
  left u hu := by
    obtain ⟨a, ha⟩ := h.left u hu
    exact ⟨a, List.mem_append_left _ ha⟩
  le := by
    intro e he
    rcases List.mem_append.mp he with he | he
    · exact h.le e he
    · cases List.mem_singleton.mp he
      exact hc

theorem replace (h : Shortest r cs) (hc : ∀ u ∈ r, byteLength c.2 < byteLength u) :
    Shortest (some c.2) (cs ++ [c]) where
  left := by
    rintro _ ⟨⟩
    exact ⟨c.1, List.mem_append_right _ (List.mem_singleton.mpr rfl)⟩
  le := by
    intro e he hne
    refine ⟨c.2, rfl, ?_⟩
    rcases List.mem_append.mp he with he | he
    · obtain ⟨u, hu, hle⟩ := h.le e he hne
      exact Nat.le_of_lt (Nat.lt_of_lt_of_le (hc u hu) hle)
    · cases List.mem_singleton.mp he
      exact Nat.le_refl _

end Shortest

theorem Tally.shortest_add {tally : Tally α} {cs : Candidates α} (h : Shortest tally.shortest cs)
    (c : α × Text) : Shortest (tally.add c).shortest (cs ++ [c]) := by
  rw [add]
  split
  · rename_i ends
    exact h.keep fun hne => absurd (List.isEmpty_iff.mp ends) hne
  · split
    · rename_i shorter
      refine h.replace fun u hu => ?_
      rw [Option.mem_def.mp hu, Option.all_some, decide_eq_true_eq] at shorter
      exact shorter
    · rename_i longer
      refine h.keep fun _ => ?_
      cases hs : tally.shortest with
      | none => rw [hs] at longer; exact absurd rfl longer
      | some u =>
        rw [hs, Option.all_some, decide_eq_true_eq, Nat.not_lt] at longer
        exact ⟨u, rfl, longer⟩

theorem Tally.shortest_foldl {tally : Tally α} {cs : Candidates α}
    (h : Shortest tally.shortest cs) (ds : Candidates α) :
    Shortest (ds.foldl Tally.add tally).shortest (cs ++ ds) := by
  induction ds generalizing tally cs with
  | nil => rwa [List.append_nil]
  | cons d ds ih =>
    rw [List.append_cons]
    exact ih (shortest_add h d)

/-! ## The verdict -/

/-- The text is left by a candidate, and it is an end of what every candidate leaves. -/
def CommonEnd (r : Text) (cs : Candidates α) : Prop :=
  (∃ a, (a, r) ∈ cs) ∧ ∀ c ∈ cs, r <:+ c.2

theorem CommonEnd.unique {r r' : Text} {cs : Candidates α} (h : CommonEnd r cs)
    (h' : CommonEnd r' cs) : r = r' := by
  obtain ⟨⟨a, ha⟩, ends⟩ := h
  obtain ⟨⟨b, hb⟩, ends'⟩ := h'
  exact (ends _ hb).eq_of_length_le (ends' _ ha).length_le

/-- The verdict on the candidates, said without an order of them. -/
inductive Judged (cs : Candidates α) : Except ParseError α → Prop
  | accepted {a : α} (one : completeCandidates cs = [(a, [])]) : Judged cs (.ok a)
  | ambiguous {n : Nat} (many : (completeCandidates cs).length = n) (h : 2 ≤ n) :
    Judged cs (.error (.ambiguous n))
  | incomplete {r : Text} (leave : ∀ c ∈ cs, c.2 ≠ []) (least : CommonEnd r cs) :
    Judged cs (.error (.incomplete r))
  | noMatch (h : cs = []) : Judged cs (.error .noMatch)

variable {t : Text} {cs ds : Candidates α}

/-- The shortest of the texts that are left is an end of every other one. -/
theorem Shortest.commonEnd {r : Text} (h : Shortest (some r) cs)
    (hs : Leaves {rest | rest <:+ t} cs) (leave : ∀ c ∈ cs, c.2 ≠ []) : CommonEnd r cs := by
  obtain ⟨a, ha⟩ := h.left r rfl
  refine ⟨⟨a, ha⟩, fun c hc => ?_⟩
  obtain ⟨_, ⟨⟩, hle⟩ := h.le c hc (leave c hc)
  exact suffix_of_byteLength_le (hs _ ha) (hs c hc) hle

theorem judged_verdict (hs : Leaves {rest | rest <:+ t} cs) : Judged cs (verdict cs) := by
  have results := Tally.complete_foldl cs {}
  have start : Shortest ({} : Tally α).shortest ([] : Candidates α) := ⟨nofun, nofun⟩
  have shortest : Shortest (cs.foldl Tally.add {}).shortest cs := Tally.shortest_foldl start cs
  rw [List.append_nil] at results
  simp only [verdict]
  generalize cs.foldl Tally.add {} = tally at results shortest
  obtain ⟨found, least⟩ := tally
  dsimp only at results shortest ⊢
  have length : found.length = (completeCandidates cs).length := by
    rw [results, List.length_reverse, List.length_map]
  rcases found with _ | ⟨a, _ | ⟨b, more⟩⟩
  · have leave : ∀ c ∈ cs, c.2 ≠ [] :=
      completeCandidates_eq_nil_iff.mp (List.length_eq_zero_iff.mp length.symm)
    rcases least with _ | r
    · refine .noMatch (List.eq_nil_iff_forall_not_mem.mpr fun c hc => ?_)
      obtain ⟨_, ⟨⟩, -⟩ := shortest.le c hc (leave c hc)
    · exact .incomplete leave (shortest.commonEnd hs leave)
  · apply Judged.accepted
    exact completeCandidates_eq_singleton_of_map (List.reverse_eq_iff.mp results.symm)
  · refine .ambiguous length.symm ?_
    simp

/-- How many candidates leave nothing, by the verdict. -/
def completeCount : Except ParseError α → Nat
  | .ok _ => 1
  | .error (.ambiguous n) => n
  | .error _ => 0

theorem Judged.length {v : Except ParseError α} (h : Judged cs v) :
    (completeCandidates cs).length = completeCount v := by
  cases h with
  | accepted one => rw [one]; rfl
  | ambiguous many => exact many
  | incomplete leave => rw [completeCandidates_eq_nil_iff.mpr leave]; rfl
  | noMatch h => rw [h]; rfl

/-- There is one verdict on the candidates. -/
theorem Judged.unique {v w : Except ParseError α} (hv : Judged cs v) (hw : Judged cs w) :
    v = w := by
  have same : completeCount v = completeCount w := hv.length.symm.trans hw.length
  cases hv with
  | accepted one =>
    cases hw with
    | accepted one' => rw [one] at one'; cases one'; rfl
    | ambiguous _ h => dsimp only [completeCount] at same; omega
    | incomplete | noMatch => cases same
  | ambiguous _ h =>
    cases hw with
    | accepted | incomplete | noMatch => dsimp only [completeCount] at same; omega
    | ambiguous => exact congrArg (Except.error ∘ ParseError.ambiguous) same
  | incomplete _ least =>
    cases hw with
    | accepted => cases same
    | ambiguous _ h => dsimp only [completeCount] at same; omega
    | incomplete _ least' => rw [least.unique least']
    | noMatch h =>
      obtain ⟨a, ha⟩ := least.1
      rw [h] at ha
      cases ha
  | noMatch h =>
    cases hw with
    | accepted => cases same
    | ambiguous _ h => dsimp only [completeCount] at same; omega
    | incomplete _ least =>
      obtain ⟨a, ha⟩ := least.1
      rw [h] at ha
      cases ha
    | noMatch => rfl

theorem Judged.perm {v : Except ParseError α} (hv : Judged cs v) (h : cs.Perm ds) :
    Judged ds v := by
  have complete : (completeCandidates cs).Perm (completeCandidates ds) := h.filter _
  cases hv with
  | accepted one =>
    rw [one] at complete
    exact .accepted (List.perm_singleton.mp complete.symm)
  | ambiguous many h2 => exact .ambiguous (complete.length_eq ▸ many) h2
  | incomplete leave least =>
    obtain ⟨⟨a, ha⟩, ends⟩ := least
    exact .incomplete (fun c hc => leave c (h.mem_iff.mpr hc))
      ⟨⟨a, h.mem_iff.mp ha⟩, fun c hc => ends c (h.mem_iff.mpr hc)⟩
  | noMatch hc =>
    rw [hc] at h
    exact .noMatch (List.nil_perm.mp h)

theorem verdict_eq_iff (hs : Leaves {rest | rest <:+ t} cs) {v : Except ParseError α} :
    verdict cs = v ↔ Judged cs v :=
  ⟨fun h => h ▸ judged_verdict hs, (judged_verdict hs).unique⟩

theorem Judged.ok_iff {a : α} : Judged cs (.ok a) ↔ completeCandidates cs = [(a, [])] :=
  ⟨fun h => by cases h; assumption, .accepted⟩

theorem Judged.ambiguous_iff {n : Nat} :
    Judged cs (.error (.ambiguous n)) ↔ (completeCandidates cs).length = n ∧ 2 ≤ n :=
  ⟨fun h => by cases h; exact ⟨‹_›, ‹_›⟩, fun h => .ambiguous h.1 h.2⟩

theorem Judged.incomplete_iff {r : Text} :
    Judged cs (.error (.incomplete r)) ↔ (∀ c ∈ cs, c.2 ≠ []) ∧ CommonEnd r cs :=
  ⟨fun h => by cases h; exact ⟨‹_›, ‹_›⟩, fun h => .incomplete h.1 h.2⟩

theorem Judged.noMatch_iff : Judged cs (.error .noMatch) ↔ cs = [] :=
  ⟨fun h => by cases h; assumption, .noMatch⟩

/-- Candidates that leave something have a common end. -/
theorem exists_commonEnd (hs : Leaves {rest | rest <:+ t} cs) (hne : cs ≠ [])
    (leave : ∀ c ∈ cs, c.2 ≠ []) : ∃ r, CommonEnd r cs := by
  have judged := judged_verdict hs
  have zero := judged.length
  rw [completeCandidates_eq_nil_iff.mpr leave] at zero
  generalize verdict cs = v at judged zero
  cases judged with
  | accepted => cases zero
  | ambiguous _ h => dsimp only [completeCount, List.length_nil] at zero; omega
  | incomplete _ least => exact ⟨_, least⟩
  | noMatch h => exact absurd h hne

/-! ## The end of the text -/

/-- Before the end of the text nothing may be left. -/
theorem fromEach_endOfText (d : Debugger σ) (depth : Nat) {Γ : Scopes} (s : Store σ Γ)
    (cs : Candidates α) :
    fromEach (fun a => (Parser.endOfText.behaviour d depth s).tryMap fun _ => .ok a) cs =
      (pure (completeCandidates cs) : Run σ _) := by
  induction cs with
  | nil => rfl
  | cons c cs ih =>
    obtain ⟨a, rest⟩ := c
    rw [fromEach, ih, completeCandidates_cons]
    cases rest <;> rfl

namespace Parser

theorem behaviour_thenIgnore_endOfText (d : Debugger σ) (depth : Nat) {Γ : Scopes} (s : Store σ Γ)
    (p : Parser Γ α) (t : Text) :
    (p.thenIgnore endOfText).behaviour d depth s t =
      p.behaviour d depth s t >>= fun cs => Pure.pure (completeCandidates cs) := by
  have bound : (p.thenIgnore endOfText).behaviour d depth s = _ := Behaviour.then_fst_eq_bind _ _
  rw [bound]
  exact bind_congr (fromEach_endOfText d depth s)

/-- With the end of the text behind it, a parser has its complete candidates only. -/
theorem apply_thenIgnore_endOfText (p : Parser [] α) (t : Text) :
    (p.thenIgnore endOfText).apply t = (p.apply t).map completeCandidates := by
  simp only [apply, outcome_applyWith, Pattern.blanks_split, behaviour_thenIgnore_endOfText]
  rw [Run.outcome_bind]
  rcases ((p.behaviour .silent (depthFor t) .empty _).outcome ()) with ⟨_ | _, _⟩ <;> rfl

/-- **A text is accepted for its only complete candidate.** The parser accepts a text with a result
if one candidate leaves nothing and has this result, whatever candidates that leave something stand
before and behind it. The text is ambiguous if several candidates leave nothing. If there are
candidates and each leaves something, then one of the texts that they leave is an end of every
other one, and this one is reported. Without candidates there is no match. The order of the
candidates does not matter, and the verdict can be read off the candidates with the end of the text
behind them. -/
theorem parse_accepts_the_only_complete_candidate {p : Parser [] α} {t : Text} {cs : Candidates α}
    (h : p.apply t = .ok cs) (hs : Leaves {rest | rest <:+ t} cs) :
    (∀ a, p.parse t = .ok (.ok a) ↔ ∃ before after, cs = before ++ (a, []) :: after ∧
      ∀ c ∈ before ++ after, c.2 ≠ []) ∧
    (∀ n, p.parse t = .ok (.error (.ambiguous n)) ↔
      2 ≤ n ∧ (completeCandidates cs).length = n) ∧
    (∀ r, p.parse t = .ok (.error (.incomplete r)) ↔
      cs ≠ [] ∧ (∀ c ∈ cs, c.2 ≠ []) ∧ CommonEnd r cs) ∧
    (cs ≠ [] → (∀ c ∈ cs, c.2 ≠ []) → ∃! r, CommonEnd r cs) ∧
    (p.parse t = .ok (.error .noMatch) ↔ cs = []) ∧
    (∀ ds, ds.Perm cs → p.parse t = .ok (verdict ds)) ∧
    (∀ a, p.parse t = .ok (.ok a) ↔ (p.thenIgnore endOfText).apply t = .ok [(a, [])]) ∧
    ∀ n, p.parse t = .ok (.error (.ambiguous n)) ↔
      ∃ ds, (p.thenIgnore endOfText).apply t = .ok ds ∧ ds.length = n ∧ 2 ≤ n := by
  have judged (v : Except ParseError α) : p.parse t = .ok v ↔ Judged cs v := by
    rw [parse, h, ← verdict_eq_iff hs]
    exact ⟨Except.ok.inj, congrArg Except.ok⟩
  have ended : (p.thenIgnore endOfText).apply t = .ok (completeCandidates cs) := by
    rw [apply_thenIgnore_endOfText, h]
    rfl
  refine ⟨?_, ?_, ?_, ?_, ?_, ?_, ?_, ?_⟩
  · intro a
    rw [judged, Judged.ok_iff, completeCandidates_eq_singleton_iff]
  · intro n
    rw [judged, Judged.ambiguous_iff, and_comm]
  · intro r
    rw [judged, Judged.incomplete_iff]
    constructor
    · rintro ⟨leave, least⟩
      obtain ⟨a, ha⟩ := least.1
      exact ⟨List.ne_nil_of_mem ha, leave, least⟩
    · exact And.right
  · intro hne leave
    obtain ⟨r, hr⟩ := exists_commonEnd hs hne leave
    exact ⟨r, hr, fun _ hr' => hr'.unique hr⟩
  · rw [judged, Judged.noMatch_iff]
  · intro ds perm
    rw [judged]
    exact (judged_verdict fun c hc => hs c (perm.mem_iff.mp hc)).perm perm
  · intro a
    rw [judged, Judged.ok_iff, ended, Except.ok.injEq]
  · intro n
    rw [judged, Judged.ambiguous_iff, ended]
    simp

/-- A letter with or without the one behind it. -/
def letterOrTwo : Parser [] Text := (literal ['é']).union (literal ['é', 'a'])

theorem parse_accepts_the_only_complete_candidate_letters :
    letterOrTwo.apply [' ', 'é', 'a', 'b'] =
      .ok [(['é'], ['a', 'b']), (['é', 'a'], ['b'])] ∧
    Leaves {rest | rest <:+ [' ', 'é', 'a', 'b']} [(['é'], ['a', 'b']), (['é', 'a'], ['b'])] ∧
    letterOrTwo.parse [' ', 'é', 'a', 'b'] = .ok (.error (.incomplete ['b'])) := by
  have ran : letterOrTwo.apply [' ', 'é', 'a', 'b'] =
      .ok [(['é'], ['a', 'b']), (['é', 'a'], ['b'])] := by
    rw [apply, outcome_applyWith, Pattern.blanks_split]
    rfl
  have suffixes : Leaves {rest | rest <:+ [' ', 'é', 'a', 'b']}
      [(['é'], ['a', 'b']), (['é', 'a'], ['b'])] :=
    letterOrTwo.applyWith_leaves_suffix .silent ⟨trivial, trivial⟩ (Prod.ext ran rfl)
  have verdict := (parse_accepts_the_only_complete_candidate ran suffixes).2.2.1 ['b']
  have last : (['é', 'a'], ['b']) ∈ [(['é'], ['a', 'b']), (['é', 'a'], ['b'])] :=
    List.mem_cons_of_mem _ List.mem_cons_self
  refine ⟨ran, suffixes, verdict.mpr ⟨nofun, ?_, ⟨_, last⟩, ?_⟩⟩
  · decide
  · decide

end Parser

end Backtrack
