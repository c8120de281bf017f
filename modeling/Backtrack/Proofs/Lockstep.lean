import Backtrack.Proofs.Scan
import Backtrack.Proofs.Transparency
import Mathlib.Data.List.Forall2

/-!
# Runs on two texts

A parser may go the same way on two texts that are not equal. Here a relation between texts
is carried through every operation on behaviours: if the parts take related texts to the same
results and to related rests, then so does the whole. Repetitions need a relation of which
one text is shorter than another exactly if the texts related to them are: `Progressive`.
-/

namespace Backtrack

variable {α β γ δ : Type}

/-- Without a debugger the runs end alike: both are cut short in the same way, or both have results,
and these are related. -/
def Lockstep (P : α → β → Prop) (r : Run Unit α) (r' : Run Unit β) : Prop :=
  (∃ e, r.outcome () = (.error e, ()) ∧ r'.outcome () = (.error e, ())) ∨
    ∃ a b, r.outcome () = (.ok a, ()) ∧ r'.outcome () = (.ok b, ()) ∧ P a b

namespace Lockstep

variable {P : α → β → Prop} {Q : γ → δ → Prop}

theorem pure {a : α} {b : β} (h : P a b) :
    Lockstep P (Pure.pure a : Run Unit α) (Pure.pure b : Run Unit β) :=
  .inr ⟨a, b, rfl, rfl, h⟩

theorem halt (e : Halt) : Lockstep P (Run.halt e) (Run.halt e) := .inl ⟨e, rfl, rfl⟩

theorem bind {r : Run Unit α} {r' : Run Unit β} {next : α → Run Unit γ} {next' : β → Run Unit δ}
    (h : Lockstep P r r') (hn : ∀ a b, P a b → Lockstep Q (next a) (next' b)) :
    Lockstep Q (r >>= next) (r' >>= next') := by
  rcases h with ⟨e, h, h'⟩ | ⟨a, b, h, h', hP⟩
  · exact .inl ⟨e, Run.outcome_bind_of_error h, Run.outcome_bind_of_error h'⟩
  · rw [Lockstep, Run.outcome_bind_of_ok h, Run.outcome_bind_of_ok h']
    exact hn a b hP

theorem attempt (x : Attempt α) : Lockstep (· = ·) (Run.attempt x) (Run.attempt x) := by
  cases x with
  | ok a => exact pure rfl
  | error f => exact halt (.fault f)

end Lockstep

/-- The same results in the same order, where what is left after them is related. -/
abbrev SameResults (R : Text → Text → Prop) (cs cs' : Candidates α) : Prop :=
  List.Forall₂ (fun c c' => c.1 = c'.1 ∧ R c.2 c'.2) cs cs'

/-- On texts that are related by `R`, the behaviour goes in lockstep and leaves texts that are related
by `R'`. -/
def Behaviour.Respects (R R' : Text → Text → Prop) (b : Behaviour Unit α) : Prop :=
  ∀ t t', R t t' → Lockstep (SameResults R') (b t) (b t')

/-- A text is shorter than another one exactly if the texts that are related to them are. -/
def Progressive (R : Text → Text → Prop) : Prop :=
  ∀ t t' u u', R t t' → R u u' → (byteLength u < byteLength t ↔ byteLength u' < byteLength t')

/-! ## Lists of candidates -/

namespace SameResults

variable {R R' : Text → Text → Prop} {cs cs' : Candidates α}

theorem fromEach {next : α → Behaviour Unit β} (hn : ∀ a, (next a).Respects R R')
    (hcs : SameResults R cs cs') :
    Lockstep (SameResults R') (fromEach next cs) (fromEach next cs') := by
  induction hcs with
  | nil => exact .pure .nil
  | @cons c c' _ _ hc _ ih =>
    obtain ⟨a, t⟩ := c
    obtain ⟨_, t'⟩ := c'
    obtain ⟨rfl, ht⟩ := hc
    apply Lockstep.bind (hn a t t' ht)
    intro here here' hhere
    apply Lockstep.bind ih
    intro others others' hothers
    exact .pure (List.rel_append hhere hothers)

theorem mapEach (f : α → Attempt β) (hcs : SameResults R cs cs') :
    Lockstep (SameResults R) (mapEach f cs) (mapEach f cs') := by
  induction hcs with
  | nil => exact .pure .nil
  | @cons c c' _ _ hc _ ih =>
    obtain ⟨a, t⟩ := c
    obtain ⟨_, t'⟩ := c'
    obtain ⟨rfl, ht⟩ := hc
    apply Lockstep.bind (.attempt (f a))
    rintro b _ rfl
    apply Lockstep.bind ih
    intro others others' hothers
    exact .pure (.cons ⟨rfl, ht⟩ hothers)

theorem filterEach (keep : α → Attempt Bool) (hcs : SameResults R cs cs') :
    Lockstep (SameResults R) (filterEach keep cs) (filterEach keep cs') := by
  induction hcs with
  | nil => exact .pure .nil
  | @cons c c' _ _ hc _ ih =>
    obtain ⟨a, t⟩ := c
    obtain ⟨_, t'⟩ := c'
    obtain ⟨rfl, ht⟩ := hc
    apply Lockstep.bind (.attempt (keep a))
    rintro kept _ rfl
    apply Lockstep.bind ih
    intro others others' hothers
    apply Lockstep.pure
    cases kept
    · exact hothers
    · exact .cons ⟨rfl, ht⟩ hothers

/-- Both sides find no way, or ways with the same values. -/
theorem firstFollowed {b : Behaviour Unit β} (h : b.Respects R R') (hcs : SameResults R cs cs') :
    Lockstep (Option.Rel fun x x' => x.1 = x'.1 ∧ x.2.1 = x'.2.1 ∧ R' x.2.2 x'.2.2)
      (firstFollowed b cs) (firstFollowed b cs') := by
  induction hcs with
  | nil => exact .pure .none
  | @cons c c' _ _ hc _ ih =>
    obtain ⟨a, t⟩ := c
    obtain ⟨_, t'⟩ := c'
    obtain ⟨rfl, ht⟩ := hc
    apply Lockstep.bind (h t t' ht)
    intro found found' hfound
    cases hfound with
    | nil => exact ih
    | cons hx _ => exact .pure (.some ⟨rfl, hx⟩)

/-- One run for each candidate, in order. -/
theorem mapM {f : α × Text → Run Unit (β × Text)}
    (h : ∀ a t t', R t t' → Lockstep (fun c c' => c.1 = c'.1 ∧ R' c.2 c'.2) (f (a, t)) (f (a, t')))
    (hcs : SameResults R cs cs') : Lockstep (SameResults R') (cs.mapM f) (cs'.mapM f) := by
  induction hcs with
  | nil =>
    rw [List.mapM_nil]
    exact .pure .nil
  | @cons c c' _ _ hc _ ih =>
    obtain ⟨a, t⟩ := c
    obtain ⟨_, t'⟩ := c'
    obtain ⟨rfl, ht⟩ := hc
    rw [List.mapM_cons, List.mapM_cons]
    apply Lockstep.bind (h a t t' ht)
    intro e e' he
    apply Lockstep.bind ih
    intro others others' hothers
    exact .pure (.cons he hothers)

theorem take (n : Nat) (hcs : SameResults R cs cs') : SameResults R (cs.take n) (cs'.take n) :=
  List.forall₂_take n hcs

/-- Functions that change the results alone, and what is left alone. -/
theorem map {f : α → β} {g : Text → Text} (hg : ∀ t t', R t t' → R' (g t) (g t'))
    (hcs : SameResults R cs cs') :
    SameResults R' (cs.map fun c => (f c.1, g c.2)) (cs'.map fun c => (f c.1, g c.2)) := by
  induction hcs with
  | nil => exact .nil
  | cons hc _ ih => exact .cons ⟨congrArg f hc.1, hg _ _ hc.2⟩ ih

end SameResults

/-! ## Repetitions -/

section

variable {R : Text → Text → Prop} {t t' : Text}

/-- The induction is on the length of the first text, which a round that is followed by another makes
smaller. The second text then gets smaller too. -/
theorem Lockstep.repeatFrom (hR : Progressive R) {b : Behaviour Unit α} (h : b.Respects R R)
    (items : List α) (ht : R t t') :
    Lockstep (fun c c' => c.1 = c'.1 ∧ R c.2 c'.2) (repeatFrom b items t)
      (repeatFrom b items t') := by
  induction hn : byteLength t using Nat.strongRecOn generalizing items t t' with
  | ind n ih =>
    rw [Backtrack.repeatFrom, Backtrack.repeatFrom]
    apply Lockstep.bind (h t t' ht)
    intro found found' hfound
    cases hfound with
    | nil => exact .pure ⟨rfl, ht⟩
    | @cons c c' _ _ hc _ =>
      obtain ⟨a, u⟩ := c
      obtain ⟨_, u'⟩ := c'
      obtain ⟨rfl, hu⟩ := hc
      by_cases progress : byteLength u < byteLength t
      · have progress' := (hR t t' u u' ht hu).mp progress
        simp only [progress, progress', ↓reduceDIte]
        exact ih _ (hn ▸ progress) _ hu rfl
      · have progress' := mt (hR t t' u u' ht hu).mpr progress
        simp only [progress, progress', ↓reduceDIte]
        exact .pure ⟨rfl, hu⟩

theorem Lockstep.foldFrom (hR : Progressive R) {term : Behaviour Unit α}
    {operator : Behaviour Unit (α → α → Attempt α)} (hterm : term.Respects R R)
    (hop : operator.Respects R R) (acc : α) (ht : R t t') :
    Lockstep (fun c c' => c.1 = c'.1 ∧ R c.2 c'.2) (foldFrom term operator acc t)
      (foldFrom term operator acc t') := by
  induction hn : byteLength t using Nat.strongRecOn generalizing acc t t' with
  | ind n ih =>
    rw [Backtrack.foldFrom, Backtrack.foldFrom]
    apply Lockstep.bind (hop t t' ht)
    intro operators operators' hoperators
    apply Lockstep.bind (SameResults.firstFollowed hterm hoperators)
    intro step step' hstep
    cases hstep with
    | none => exact .pure ⟨rfl, ht⟩
    | @some x x' hx =>
      obtain ⟨f, right, u⟩ := x
      obtain ⟨_, _, u'⟩ := x'
      obtain ⟨rfl, rfl, hu⟩ := hx
      apply Lockstep.bind (.attempt (f acc right))
      rintro acc' _ rfl
      by_cases progress : byteLength u < byteLength t
      · have progress' := (hR t t' u u' ht hu).mp progress
        simp only [progress, progress', ↓reduceDIte]
        exact ih _ (hn ▸ progress) _ hu rfl
      · have progress' := mt (hR t t' u u' ht hu).mpr progress
        simp only [progress, progress', ↓reduceDIte]
        exact .pure ⟨rfl, hu⟩

end

/-! ## Operations on behaviours -/

namespace Behaviour.Respects

variable {R R' R'' : Text → Text → Prop} {b e : Behaviour Unit α} {c : Behaviour Unit β}

theorem halt (e : Halt) : (Behaviour.halt e : Behaviour Unit α).Respects R R' :=
  fun _ _ _ => .halt e

theorem pure (value : α) : (Behaviour.pure value).Respects R R :=
  fun _ _ ht => .pure (.cons ⟨rfl, ht⟩ .nil)

/-- Both texts are split, or none is. -/
theorem split {f : Text → Option (α × Text)}
    (h : ∀ t t', R t t' → Option.Rel (fun c c' => c.1 = c'.1 ∧ R' c.2 c'.2) (f t) (f t')) :
    (Behaviour.split f).Respects R R' := by
  intro t t' ht
  apply Lockstep.pure
  have both := h t t' ht
  generalize f t = x, f t' = x' at both
  cases both with
  | none => exact .nil
  | some hc => exact .cons hc .nil

theorem tryMap (h : b.Respects R R') (f : α → Attempt β) : (b.tryMap f).Respects R R' :=
  fun t t' ht => .bind (h t t' ht) fun _ _ hcs => hcs.mapEach f

theorem bind {next : α → Behaviour Unit β} (h : b.Respects R R')
    (hn : ∀ a, (next a).Respects R' R'') : (b.bind next).Respects R R'' :=
  fun t t' ht => .bind (h t t' ht) fun _ _ hcs => SameResults.fromEach hn hcs

theorem union (h : b.Respects R R') (he : e.Respects R R') : (b.union e).Respects R R' :=
  fun t t' ht => .bind (h t t' ht) fun _ _ hcs =>
    .bind (he t t' ht) fun _ _ hds => .pure (List.rel_append hcs hds)

theorem orElse (h : b.Respects R R') (he : e.Respects R R') : (b.orElse e).Respects R R' := by
  intro t t' ht
  apply Lockstep.bind (h t t' ht)
  intro found found' hfound
  cases hfound with
  | nil => exact he t t' ht
  | cons hc hcs => exact .pure (.cons hc hcs)

theorem committed (h : b.Respects R R') (he : e.Respects R R') :
    (b.committed e).Respects R R' := by
  intro t t' ht
  apply Lockstep.bind (h t t' ht)
  intro found found' hfound
  cases hfound with
  | nil => exact .bind (he t t' ht) fun _ _ hcs => .pure (SameResults.take 1 hcs)
  | cons hc hcs => exact .pure (SameResults.take 1 (.cons hc hcs))

theorem tryFilter (h : b.Respects R R') (keep : α → Attempt Bool) :
    (b.tryFilter keep).Respects R R' :=
  fun t t' ht => .bind (h t t' ht) fun _ _ hcs => hcs.filterEach keep

theorem optional (h : b.Respects R R) : b.optional.Respects R R :=
  fun t t' ht => .bind (h t t' ht) fun _ _ hcs =>
    .pure (List.rel_append (SameResults.map (fun _ _ hu => hu) hcs) (.cons ⟨rfl, ht⟩ .nil))

theorem many (hR : Progressive R) (h : b.Respects R R) : b.many.Respects R R :=
  fun _ _ ht => .bind (.repeatFrom hR h [] ht) fun _ _ hc => .pure (.cons hc .nil)

theorem followedByMany (hR : Progressive R) {next : Behaviour Unit α} (h : b.Respects R R)
    (hn : next.Respects R R) : (b.followedByMany next).Respects R R :=
  fun t t' ht => .bind (h t t' ht) fun _ _ hcs =>
    SameResults.mapM (fun a _ _ hu => .repeatFrom hR hn [a] hu) hcs

theorem some (hR : Progressive R) (h : b.Respects R R) : b.some.Respects R R :=
  h.followedByMany hR h

theorem separatedByAtLeastOne (hR : Progressive R) (h : b.Respects R R) (hc : c.Respects R R) :
    (b.separatedByAtLeastOne c).Respects R R :=
  h.followedByMany hR (hc.bind fun _ => h)

theorem separatedBy (hR : Progressive R) (h : b.Respects R R) (hc : c.Respects R R) :
    (b.separatedBy c).Respects R R := by
  intro t t' ht
  apply Lockstep.bind (h.separatedByAtLeastOne hR hc t t' ht)
  intro found found' hfound
  cases hfound with
  | nil => exact .pure (.cons ⟨rfl, ht⟩ .nil)
  | cons hx hxs => exact .pure (SameResults.take 1 (.cons hx hxs))

theorem chain (hR : Progressive R) {operator : Behaviour Unit (α → α → Attempt α)}
    (h : b.Respects R R) (ho : operator.Respects R R) : (b.chain operator).Respects R R :=
  fun t t' ht => .bind (h t t' ht) fun _ _ hcs =>
    SameResults.mapM (fun a _ _ hu => .foldFrom hR h ho a hu) hcs

theorem «then» (h : b.Respects R R') (hc : c.Respects R' R'') : (b.then c).Respects R R'' := by
  intro t t' ht
  apply Lockstep.bind (h t t' ht)
  intro cs cs' hcs
  refine SameResults.fromEach (fun a u u' hu => ?_) hcs
  apply Lockstep.bind (hc u u' hu)
  intro found found' hfound
  exact .pure (SameResults.map (fun _ _ hv => hv) hfound)

theorem ap {f : Behaviour Unit (α → Attempt β)} (h : f.Respects R R') (hb : b.Respects R' R'') :
    (f.ap b).Respects R R'' := by
  intro t t' ht
  apply Lockstep.bind (h t t' ht)
  intro cs cs' hcs
  refine SameResults.fromEach (fun g u u' hu => ?_) hcs
  exact .bind (hb u u' hu) fun _ _ hfound => hfound.mapEach g

/-- White space may be dropped on both sides. -/
theorem token (h : b.Respects R R')
    (hdrop : ∀ u u', R' u u' → R'' (u.dropWhile Unicode.isBlank) (u'.dropWhile Unicode.isBlank)) :
    b.token.Respects R R'' := by
  intro t t' ht
  rw [token_eq, token_eq]
  apply Lockstep.bind (h t t' ht)
  intro cs cs' hcs
  exact .pure (SameResults.map (f := id) hdrop hcs)

theorem debug (mark : Mark) (h : b.Respects R R') : (b.debug .silent mark).Respects R R' := by
  rw [Parser.debug_silent]
  exact h

theorem unfold {f : Behaviour Unit α → Behaviour Unit α}
    (hf : ∀ b : Behaviour Unit α, b.Respects R R → (f b).Respects R R) (n : Nat) :
    (unfold f n).Respects R R := by
  induction n with
  | zero => exact .halt .tooDeep
  | succ n ih => exact hf _ ih

end Behaviour.Respects

end Backtrack
