import Backtrack.Behaviour
import Mathlib.Data.Set.Basic

/-!
# Correspondences

A correspondence relates runs that go alike: two runs of the same parts correspond as
soon as their parts do. Here this is carried over to every operation on behaviours, so
that a property of all parsers has to be checked for the debugger and the handles only.
-/

namespace Backtrack

/-- A relation between runs on two kinds of states. If corresponding runs have results, then these
are equal and satisfy the predicate. -/
structure Correspondence (σ τ : Type) where
  runs : {α : Type} → (α → Prop) → Run σ α → Run τ α → Prop
  pure : ∀ {α : Type} {P : α → Prop} {a : α}, P a → runs P (pure a) (pure a)
  bind : ∀ {α β : Type} {P : α → Prop} {Q : β → Prop} {r : Run σ α} {r' : Run τ α}
    {next : α → Run σ β} {next' : α → Run τ β},
    runs P r r' → (∀ a, P a → runs Q (next a) (next' a)) → runs Q (r >>= next) (r' >>= next')
  fault : ∀ {α : Type} {P : α → Prop} (f : Fault),
    runs P (Run.halt (.fault f)) (Run.halt (.fault f))

/-- Every candidate leaves a text of the set. -/
def Leaves {α : Type} (S : Set Text) (cs : Candidates α) : Prop := ∀ c ∈ cs, c.2 ∈ S

namespace Leaves

variable {α : Type} {S : Set Text} {cs ds : Candidates α}

theorem nil : Leaves S ([] : Candidates α) := by
  intro c hc
  cases hc

theorem cons {c : α × Text} (hc : c.2 ∈ S) (hs : Leaves S cs) : Leaves S (c :: cs) := by
  intro e he
  rcases List.mem_cons.mp he with rfl | he
  · exact hc
  · exact hs e he

theorem append (hc : Leaves S cs) (hd : Leaves S ds) : Leaves S (cs ++ ds) := by
  intro c hm
  rcases List.mem_append.mp hm with hm | hm
  · exact hc c hm
  · exact hd c hm

theorem take (n : Nat) (hc : Leaves S cs) : Leaves S (cs.take n) :=
  fun c hm => hc c (List.mem_of_mem_take hm)

theorem head {c : α × Text} (h : Leaves S (c :: cs)) : c.2 ∈ S := h c List.mem_cons_self

theorem tail {c : α × Text} (h : Leaves S (c :: cs)) : Leaves S cs :=
  fun e he => h e (List.mem_cons_of_mem _ he)

end Leaves

namespace Correspondence

variable {σ τ : Type} (C : Correspondence σ τ) {α β γ : Type}

theorem mono {P Q : α → Prop} {r : Run σ α} {r' : Run τ α} (hPQ : ∀ a, P a → Q a)
    (h : C.runs P r r') : C.runs Q r r' := by
  have hh := C.bind h (fun a ha => C.pure (hPQ a ha))
  simpa only [bind_pure] using hh

theorem attempt {P : α → Prop} {x : Attempt α} (hx : ∀ a, x = .ok a → P a) :
    C.runs P (Run.attempt x) (Run.attempt x) := by
  cases x with
  | ok a => exact C.pure (hx a rfl)
  | error f => exact C.fault f

/-- On the texts of `S` the behaviours correspond, and their candidates leave texts of `S'`. -/
def behaviours (S S' : Set Text) (b : Behaviour σ α) (b' : Behaviour τ α) : Prop :=
  ∀ t ∈ S, C.runs (Leaves S') (b t) (b' t)

variable {C} {S S' S'' : Set Text}

theorem behaviours.widen {b : Behaviour σ α} {b' : Behaviour τ α} (hS : S' ⊆ S'')
    (h : C.behaviours S S' b b') : C.behaviours S S'' b b' :=
  fun t ht => C.mono (fun _ hl c hc => hS (hl c hc)) (h t ht)

/-! ## Lists of candidates -/

theorem fromEach {next : α → Behaviour σ β} {next' : α → Behaviour τ β} {cs : Candidates α}
    (h : ∀ c ∈ cs, C.runs (Leaves S) (next c.1 c.2) (next' c.1 c.2)) :
    C.runs (Leaves S) (fromEach next cs) (fromEach next' cs) := by
  induction cs with
  | nil => exact C.pure .nil
  | cons c cs ih =>
    apply C.bind (h c List.mem_cons_self)
    intro here hhere
    apply C.bind (ih fun e he => h e (List.mem_cons_of_mem c he))
    intro others hothers
    exact C.pure (hhere.append hothers)

theorem mapEach (f : α → Attempt β) {cs : Candidates α} (hcs : Leaves S cs) :
    C.runs (Leaves S) (mapEach f cs) (mapEach f cs) := by
  induction cs with
  | nil => exact C.pure .nil
  | cons c cs ih =>
    apply C.bind (C.attempt (P := fun _ => True) (fun _ _ => trivial))
    intro b _
    apply C.bind (ih hcs.tail)
    intro others hothers
    exact C.pure (hothers.cons hcs.head)

theorem filterEach (keep : α → Attempt Bool) {cs : Candidates α} (hcs : Leaves S cs) :
    C.runs (Leaves S) (filterEach keep cs) (filterEach keep cs) := by
  induction cs with
  | nil => exact C.pure .nil
  | cons c cs ih =>
    apply C.bind (C.attempt (P := fun _ => True) (fun _ _ => trivial))
    intro kept _
    apply C.bind (ih hcs.tail)
    intro others hothers
    apply C.pure
    cases kept
    · exact hothers
    · exact hothers.cons hcs.head

theorem firstFollowed {b : Behaviour σ β} {b' : Behaviour τ β} (h : C.behaviours S S' b b')
    {cs : Candidates α} (hcs : Leaves S cs) :
    C.runs (fun o => ∀ x ∈ o, x.2.2 ∈ S') (firstFollowed b cs) (firstFollowed b' cs) := by
  induction cs with
  | nil => exact C.pure (fun x hx => by cases hx)
  | cons c cs ih =>
    apply C.bind (h c.2 hcs.head)
    intro found hfound
    cases found with
    | nil => exact ih hcs.tail
    | cons e _ =>
      apply C.pure
      intro x hx
      cases hx
      exact hfound.head

/-- The texts that the rounds start from stay in `S`. The induction is on the length of the text,
which a round that is followed by another makes smaller. -/
theorem repeatFrom {b : Behaviour σ α} {b' : Behaviour τ α} (h : C.behaviours S S b b')
    (items : List α) {t : Text} (ht : t ∈ S) :
    C.runs (fun r => r.2 ∈ S) (repeatFrom b items t) (repeatFrom b' items t) := by
  induction hn : byteLength t using Nat.strongRecOn generalizing items t with
  | ind n ih =>
    rw [Backtrack.repeatFrom, Backtrack.repeatFrom]
    apply C.bind (h t ht)
    intro found hfound
    cases found with
    | nil => exact C.pure ht
    | cons c _ =>
      by_cases progress : byteLength c.2 < byteLength t
      · simp only [progress, ↓reduceDIte]
        exact ih _ (hn ▸ progress) _ hfound.head rfl
      · simp only [progress, ↓reduceDIte]
        exact C.pure hfound.head

theorem foldFrom {term : Behaviour σ α} {term' : Behaviour τ α}
    {operator : Behaviour σ (α → α → Attempt α)} {operator' : Behaviour τ (α → α → Attempt α)}
    (hterm : C.behaviours S S term term') (hop : C.behaviours S S operator operator')
    (acc : α) {t : Text} (ht : t ∈ S) :
    C.runs (fun r => r.2 ∈ S) (foldFrom term operator acc t) (foldFrom term' operator' acc t) := by
  induction hn : byteLength t using Nat.strongRecOn generalizing acc t with
  | ind n ih =>
    rw [Backtrack.foldFrom, Backtrack.foldFrom]
    apply C.bind (hop t ht)
    intro operators hoperators
    apply C.bind (firstFollowed hterm hoperators)
    intro step hstep
    rcases step with _ | ⟨f, right, rest⟩
    · exact C.pure ht
    · have hrest : rest ∈ S := hstep _ rfl
      apply C.bind (C.attempt (P := fun _ => True) (fun _ _ => trivial))
      intro acc' _
      by_cases progress : byteLength rest < byteLength t
      · simp only [progress, ↓reduceDIte]
        exact ih _ (hn ▸ progress) _ hrest rfl
      · simp only [progress, ↓reduceDIte]
        exact C.pure hrest

/-- One run for each candidate, in order. -/
theorem mapM {f : α × Text → Run σ (β × Text)} {f' : α × Text → Run τ (β × Text)}
    {cs : Candidates α} (hcs : Leaves S cs)
    (h : ∀ c, c.2 ∈ S → C.runs (fun r => r.2 ∈ S') (f c) (f' c)) :
    C.runs (Leaves S') (cs.mapM f) (cs.mapM f') := by
  induction cs with
  | nil =>
    rw [List.mapM_nil, List.mapM_nil]
    exact C.pure .nil
  | cons c cs ih =>
    rw [List.mapM_cons, List.mapM_cons]
    apply C.bind (h c hcs.head)
    intro e he
    apply C.bind (ih hcs.tail)
    intro others hothers
    exact C.pure (hothers.cons he)

/-! ## Operations on behaviours -/

namespace behaviours

variable {b : Behaviour σ α} {b' : Behaviour τ α} {c : Behaviour σ β} {c' : Behaviour τ β}

theorem fault (f : Fault) :
    C.behaviours S S' (.halt (.fault f) : Behaviour σ α) (.halt (.fault f)) :=
  fun _ _ => C.fault f

theorem pure (value : α) : C.behaviours S S (.pure value) (.pure value) :=
  fun _ ht => C.pure (Leaves.nil.cons ht)

theorem split {f : Text → Option (α × Text)} (hf : ∀ t ∈ S, ∀ x ∈ f t, x.2 ∈ S') :
    C.behaviours S S' (.split f) (.split f) := by
  intro t ht
  apply C.pure
  intro x hx
  exact hf t ht x (Option.mem_toList.mp hx)

theorem custom {f : Text → Attempt (Candidates α)}
    (hf : ∀ t ∈ S, ∀ cs, f t = .ok cs → Leaves S' cs) :
    C.behaviours S S' (.custom f) (.custom f) :=
  fun t ht => C.attempt (hf t ht)

theorem tryMap (h : C.behaviours S S' b b') (f : α → Attempt β) :
    C.behaviours S S' (b.tryMap f) (b'.tryMap f) :=
  fun t ht => C.bind (h t ht) fun _ hcs => mapEach f hcs

theorem bind {next : α → Behaviour σ β} {next' : α → Behaviour τ β}
    (h : C.behaviours S S' b b') (hn : ∀ a, C.behaviours S' S'' (next a) (next' a)) :
    C.behaviours S S'' (b.bind next) (b'.bind next') :=
  fun t ht => C.bind (h t ht) fun _ hcs => fromEach fun c hc => hn c.1 c.2 (hcs c hc)

theorem union {e : Behaviour σ α} {e' : Behaviour τ α} (h : C.behaviours S S' b b')
    (he : C.behaviours S S' e e') : C.behaviours S S' (b.union e) (b'.union e') :=
  fun t ht => C.bind (h t ht) fun _ hcs => C.bind (he t ht) fun _ hds => C.pure (hcs.append hds)

theorem orElse {e : Behaviour σ α} {e' : Behaviour τ α} (h : C.behaviours S S' b b')
    (he : C.behaviours S S' e e') : C.behaviours S S' (b.orElse e) (b'.orElse e') := by
  intro t ht
  apply C.bind (h t ht)
  intro found hfound
  cases found with
  | nil => exact he t ht
  | cons _ _ => exact C.pure hfound

theorem committed {e : Behaviour σ α} {e' : Behaviour τ α} (h : C.behaviours S S' b b')
    (he : C.behaviours S S' e e') : C.behaviours S S' (b.committed e) (b'.committed e') := by
  intro t ht
  apply C.bind (h t ht)
  intro found hfound
  cases found with
  | nil => exact C.bind (he t ht) fun _ hcs => C.pure (hcs.take 1)
  | cons _ _ => exact C.pure (hfound.take 1)

theorem tryFilter (h : C.behaviours S S' b b') (keep : α → Attempt Bool) :
    C.behaviours S S' (b.tryFilter keep) (b'.tryFilter keep) :=
  fun t ht => C.bind (h t ht) fun _ hcs => filterEach keep hcs

theorem optional (h : C.behaviours S S b b') : C.behaviours S S b.optional b'.optional := by
  intro t ht
  apply C.bind (h t ht)
  intro cs hcs
  apply C.pure
  apply Leaves.append _ (Leaves.nil.cons ht)
  intro x hx
  obtain ⟨c, hc, rfl⟩ := List.mem_map.mp hx
  exact hcs c hc

theorem many (h : C.behaviours S S b b') : C.behaviours S S b.many b'.many :=
  fun _ ht => C.bind (repeatFrom h [] ht) fun _ hr => C.pure (Leaves.nil.cons hr)

theorem followedByMany {next : Behaviour σ α} {next' : Behaviour τ α} (h : C.behaviours S S' b b')
    (hn : C.behaviours S' S' next next') :
    C.behaviours S S' (b.followedByMany next) (b'.followedByMany next') :=
  fun t ht => C.bind (h t ht) fun _ hcs => mapM hcs fun c hc => repeatFrom hn [c.1] hc

theorem some (h : C.behaviours S S' b b') (hr : C.behaviours S' S' b b') :
    C.behaviours S S' b.some b'.some :=
  h.followedByMany hr

theorem separatedByAtLeastOne (h : C.behaviours S S' b b') (hr : C.behaviours S' S' b b')
    (hs : C.behaviours S' S' c c') :
    C.behaviours S S' (b.separatedByAtLeastOne c) (b'.separatedByAtLeastOne c') :=
  h.followedByMany (hs.bind fun _ => hr)

theorem separatedBy (h : C.behaviours S S' b b') (hr : C.behaviours S' S' b b')
    (hs : C.behaviours S' S' c c') (hS : S' ⊆ S) :
    C.behaviours S S (b.separatedBy c) (b'.separatedBy c') := by
  intro t ht
  apply C.bind (h.separatedByAtLeastOne hr hs t ht)
  intro found hfound
  cases found with
  | nil => exact C.pure (Leaves.nil.cons ht)
  | cons _ _ => exact C.pure fun e he => hS (hfound.take 1 e he)

theorem chain {operator : Behaviour σ (α → α → Attempt α)}
    {operator' : Behaviour τ (α → α → Attempt α)} (h : C.behaviours S S' b b')
    (hr : C.behaviours S' S' b b') (ho : C.behaviours S' S' operator operator') :
    C.behaviours S S' (b.chain operator) (b'.chain operator') :=
  fun t ht => C.bind (h t ht) fun _ hcs => mapM hcs fun c hc => foldFrom hr ho c.1 hc

theorem «then» (h : C.behaviours S S' b b') (hc : C.behaviours S' S'' c c') :
    C.behaviours S S'' (b.then c) (b'.then c') := by
  intro t ht
  apply C.bind (h t ht)
  intro cs hcs
  apply fromEach
  intro c hc'
  apply C.bind (hc c.2 (hcs c hc'))
  intro found hfound
  apply C.pure
  intro x hx
  obtain ⟨e, he, rfl⟩ := List.mem_map.mp hx
  exact hfound e he

theorem ap {f : Behaviour σ (α → Attempt β)} {f' : Behaviour τ (α → Attempt β)}
    (h : C.behaviours S S' f f') (hb : C.behaviours S' S'' b b') :
    C.behaviours S S'' (f.ap b) (f'.ap b') := by
  intro t ht
  apply C.bind (h t ht)
  intro cs hcs
  apply fromEach
  intro c hc
  exact C.bind (hb c.2 (hcs c hc)) fun _ hfound => mapEach c.1 hfound

theorem token (h : C.behaviours S S' b b')
    (hblanks : ∀ t ∈ S', ∀ x ∈ Pattern.blanks.split t, x.2 ∈ S') :
    C.behaviours S S' b.token b'.token := by
  intro t ht
  apply C.bind (h t ht)
  intro cs hcs
  apply fromEach
  intro c hc
  apply C.bind (split hblanks c.2 (hcs c hc))
  intro found hfound
  apply C.pure
  intro x hx
  obtain ⟨e, he, rfl⟩ := List.mem_map.mp hx
  exact hfound.take 1 e he

/-- Debuggers whose calls correspond one by one. -/
theorem debug {d : Debugger σ} {d' : Debugger τ} {mark : Mark}
    (henter : ∀ t, C.runs (fun _ => True) (d.enter mark t) (d'.enter mark t))
    (hleave : ∀ n, C.runs (fun _ => True) (d.leave mark n) (d'.leave mark n))
    (h : C.behaviours S S' b b') : C.behaviours S S' (b.debug d mark) (b'.debug d' mark) := by
  intro t ht
  apply C.bind (henter t)
  intro _ _
  apply C.bind (h t ht)
  intro found hfound
  apply C.bind (hleave found.length)
  intro _ _
  exact C.pure hfound

end behaviours

end Correspondence

end Backtrack
