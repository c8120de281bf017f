import Backtrack.Proofs.Scan
import Backtrack.Proofs.Transparency
import Mathlib.Data.List.TakeWhile

/-!
# Recognition

A behaviour recognises a language if it reads the start of a text in one way at most, reads
nothing but words of the language, and does read a word that is followed by what may follow it.
This is carried through the operations that grammars of expressions are made with; each asks for
what may follow its first part. Repeated operators and operands are a left-recursive rule:
`Recognises.chain`.
-/

namespace Backtrack

variable {α β : Type}

/-- On texts shorter than `n` the behaviour recognises the language `L`, in which words stand for
values, where a text of `F` follows. -/
structure Recognises (n : Nat) (b : Behaviour Unit α) (L : Text → α → Prop) (F : Text → Prop) :
    Prop where
  single : ∀ t, t.length < n → ∃ o : Option (α × Text), b t = pure o.toList
  sound : ∀ t a rest, t.length < n → b t = pure [(a, rest)] → ∃ u, t = u ++ rest ∧ L u a
  complete : ∀ u a rest, (u ++ rest).length < n → L u a → F rest → b (u ++ rest) = pure [(a, rest)]

/-- No word of the language is empty. -/
def Proper (L : Text → α → Prop) : Prop := ∀ a, ¬L [] a

/-- What stands behind a proper word is shorter. -/
theorem Proper.shorter {L : Text → α → Prop} (hL : Proper L) {u rest : Text} {a : α} (ha : L u a)
    {n : Nat} (h : (u ++ rest).length < n + 1) : rest.length < n := by
  cases u with
  | nil => exact absurd ha (hL a)
  | cons c u =>
    simp only [List.cons_append, List.length_cons, List.length_append] at h
    omega

/-- A language is proper if each of its words starts with one of a proper language. -/
theorem Proper.of_start {L : Text → α → Prop} (hL : Proper L) {L' : Text → β → Prop}
    (h : ∀ u x, L' u x → ∃ v w a, u = v ++ w ∧ L v a) : Proper L' := by
  intro x hx
  obtain ⟨v, w, a, none, hv⟩ := h [] x hx
  obtain ⟨rfl, -⟩ := List.append_eq_nil_iff.mp none.symm
  exact hL a hv

section

variable {L : Text → α → Prop} {M : Text → β → Prop}

theorem Proper.then (hL : Proper L) :
    Proper fun u (p : α × β) => ∃ v w, u = v ++ w ∧ L v p.1 ∧ M w p.2 :=
  hL.of_start fun _ p ⟨v, w, h, hv, _⟩ => ⟨v, w, p.1, h, hv⟩

theorem Proper.ignoreThen (hL : Proper L) :
    Proper fun u x => ∃ v w a, u = v ++ w ∧ L v a ∧ M w x :=
  hL.of_start fun _ _ ⟨v, w, a, h, hv, _⟩ => ⟨v, w, a, h, hv⟩

theorem Proper.thenIgnore (hL : Proper L) :
    Proper fun u a => ∃ v w x, u = v ++ w ∧ L v a ∧ M w x :=
  hL.of_start fun _ a ⟨v, w, _, h, hv, _⟩ => ⟨v, w, a, h, hv⟩

end

theorem Run.pure_inj {a b : α} (h : (pure a : Run Unit α) = pure b) : a = b := by
  have := congrArg (fun r : Run Unit α => (r.outcome ()).1) h
  cases this
  rfl

namespace Recognises

variable {n m : Nat} {b : Behaviour Unit α} {c : Behaviour Unit β} {L L' : Text → α → Prop}
  {M : Text → β → Prop} {F F' : Text → Prop}

theorem mono (h : Recognises n b L F) (hm : m ≤ n) : Recognises m b L F where
  single t ht := h.single t (Nat.lt_of_lt_of_le ht hm)
  sound t a rest ht := h.sound t a rest (Nat.lt_of_lt_of_le ht hm)
  complete u a rest hu := h.complete u a rest (Nat.lt_of_lt_of_le hu hm)

theorem follow (h : Recognises n b L F) (hF : ∀ rest, F' rest → F rest) : Recognises n b L F' where
  single := h.single
  sound := h.sound
  complete u a rest hu hL hrest := h.complete u a rest hu hL (hF rest hrest)

theorem congr (h : Recognises n b L F) (hL : ∀ u a, L u a ↔ L' u a) : Recognises n b L' F where
  single := h.single
  sound t a rest ht hb := by
    obtain ⟨u, hu, ha⟩ := h.sound t a rest ht hb
    exact ⟨u, hu, (hL u a).mp ha⟩
  complete u a rest hu ha := h.complete u a rest hu ((hL u a).mpr ha)

/-- Without texts there is nothing to recognise. -/
theorem zero (b : Behaviour Unit α) (L : Text → α → Prop) (F : Text → Prop) :
    Recognises 0 b L F where
  single _ ht := absurd ht (Nat.not_lt_zero _)
  sound _ _ _ ht := absurd ht (Nat.not_lt_zero _)
  complete _ _ _ hu := absurd hu (Nat.not_lt_zero _)

/-- One candidate, or none. -/
theorem cases_single (h : Recognises n b L F) {t : Text} (ht : t.length < n) :
    b t = pure [] ∨ ∃ a u rest, t = u ++ rest ∧ L u a ∧ b t = pure [(a, rest)] := by
  obtain ⟨_ | ⟨a, rest⟩, ho⟩ := h.single t ht
  · exact .inl ho
  · obtain ⟨u, hu, ha⟩ := h.sound t a rest ht ho
    exact .inr ⟨a, u, rest, hu, ha, ho⟩

/-- It is enough to know the candidates text by text. -/
theorem of_cases (hs : ∀ t, t.length < n →
      b t = pure [] ∨ ∃ a u rest, t = u ++ rest ∧ L u a ∧ b t = pure [(a, rest)])
    (hc : ∀ u a rest, (u ++ rest).length < n → L u a → F rest →
      b (u ++ rest) = pure [(a, rest)]) : Recognises n b L F where
  single t ht := by
    rcases hs t ht with h | ⟨a, u, rest, -, -, h⟩
    · exact ⟨none, h⟩
    · exact ⟨some (a, rest), h⟩
  sound t a rest ht h := by
    rcases hs t ht with h' | ⟨a', u, rest', hu, ha, h'⟩
    · cases Run.pure_inj (h.symm.trans h')
    · cases Run.pure_inj (h.symm.trans h')
      exact ⟨u, hu, ha⟩
  complete := hc

theorem split {f : Text → Option (α × Text)}
    (sound : ∀ t a rest, f t = some (a, rest) → ∃ u, t = u ++ rest ∧ L u a)
    (complete : ∀ u a rest, L u a → F rest → f (u ++ rest) = some (a, rest)) (n : Nat) :
    Recognises n (Behaviour.split f) L F := by
  apply of_cases
  · intro t _
    cases h : f t with
    | none => exact .inl (by rw [Behaviour.split, h]; rfl)
    | some x =>
      obtain ⟨u, hu, ha⟩ := sound t x.1 x.2 h
      exact .inr ⟨x.1, u, x.2, hu, ha, by rw [Behaviour.split, h]; rfl⟩
  · intro u a rest _ ha hrest
    rw [Behaviour.split, complete u a rest ha hrest]
    rfl

/-- White space may stand behind a word. -/
theorem token (h : Recognises n b L F) :
    Recognises n b.token (fun u a => ∃ x w, u = x ++ w ∧ L x a ∧ Blank w)
      fun rest => Stops Unicode.isBlank rest ∧ ∀ w, Blank w → F (w ++ rest) := by
  apply of_cases
  · intro t ht
    rcases h.cases_single ht with hb | ⟨a, x, rest, rfl, ha, hb⟩
    · exact .inl (by rw [Behaviour.token_eq, hb, pure_bind]; rfl)
    · refine .inr ⟨a, x ++ rest.takeWhile Unicode.isBlank, rest.dropWhile Unicode.isBlank, ?_,
        ⟨x, _, rfl, ha, fun c hc => List.mem_takeWhile_imp hc⟩, ?_⟩
      · rw [List.append_assoc, List.takeWhile_append_dropWhile]
      · rw [Behaviour.token_eq, hb, pure_bind]
        rfl
  · rintro _ a rest hu ⟨x, w, rfl, ha, hw⟩ ⟨stop, hrest⟩
    rw [List.append_assoc] at hu ⊢
    rw [Behaviour.token_eq, h.complete x a _ hu ha (hrest w hw), pure_bind, List.map_singleton,
      dropWhile_append_of_stops hw stop]

theorem map (h : Recognises n b L F) (f : α → β) :
    Recognises n (b.tryMap fun a => .ok (f a)) (fun u x => ∃ a, x = f a ∧ L u a) F := by
  have single {t : Text} {a : α} {rest : Text} (hb : b t = pure [(a, rest)]) :
      b.tryMap (fun a => .ok (f a)) t = pure [(f a, rest)] := by
    rw [Behaviour.tryMap, hb]
    rfl
  apply of_cases
  · intro t ht
    rcases h.cases_single ht with hb | ⟨a, u, rest, rfl, ha, hb⟩
    · exact .inl (by rw [Behaviour.tryMap, hb]; rfl)
    · exact .inr ⟨f a, u, rest, rfl, ⟨a, rfl, ha⟩, single hb⟩
  · rintro u _ rest hu ⟨a, rfl, ha⟩ hrest
    exact single (h.complete u a rest hu ha hrest)

theorem filter (h : Recognises n b L F) (keep : α → Bool) :
    Recognises n (b.tryFilter fun a => .ok (keep a)) (fun u a => L u a ∧ keep a) F := by
  have single {t : Text} {a : α} {rest : Text} (hb : b t = pure [(a, rest)]) :
      b.tryFilter (fun a => .ok (keep a)) t = pure (if keep a then [(a, rest)] else []) := by
    rw [Behaviour.tryFilter, hb]
    rfl
  apply of_cases
  · intro t ht
    rcases h.cases_single ht with hb | ⟨a, u, rest, rfl, ha, hb⟩
    · exact .inl (by rw [Behaviour.tryFilter, hb]; rfl)
    · cases kept : keep a with
      | false => exact .inl (by rw [single hb, kept]; rfl)
      | true => exact .inr ⟨a, u, rest, rfl, ⟨ha, kept⟩, by rw [single hb, kept]; rfl⟩
  · rintro u a rest hu ⟨ha, kept⟩ hrest
    rw [single (h.complete u a rest hu ha hrest), kept]
    rfl

/-- A word of the second language is read if the first language has no word there. -/
theorem orElse {e : Behaviour Unit α} (h : Recognises n b L F) (he : Recognises n e L' F)
    (apart : ∀ u a rest v x r, L' u a → F rest → L v x → u ++ rest ≠ v ++ r) :
    Recognises n (b.orElse e) (fun u a => L u a ∨ L' u a) F := by
  have first {t : Text} {x : α × Text} (hb : b t = pure [x]) : b.orElse e t = pure [x] := by
    rw [Behaviour.orElse, hb]
    rfl
  have second {t : Text} (hb : b t = pure []) : b.orElse e t = e t := by
    rw [Behaviour.orElse, hb]
    rfl
  apply of_cases
  · intro t ht
    rcases h.cases_single ht with hb | ⟨a, u, rest, rfl, ha, hb⟩
    · rcases he.cases_single ht with hb' | ⟨a, u, rest, rfl, ha, hb'⟩
      · exact .inl ((second hb).trans hb')
      · exact .inr ⟨a, u, rest, rfl, .inr ha, (second hb).trans hb'⟩
    · exact .inr ⟨a, u, rest, rfl, .inl ha, first hb⟩
  · intro u a rest hu ha hrest
    rcases ha with ha | ha
    · exact first (h.complete u a rest hu ha hrest)
    · rcases h.cases_single hu with hb | ⟨x, v, r, same, hx, -⟩
      · rw [second hb, he.complete u a rest hu ha hrest]
      · exact absurd same (apart u a rest v x r ha hrest hx)

/-- If no text starts with words of both languages, then the candidates of both are one at most. -/
theorem union {e : Behaviour Unit α} (h : Recognises n b L F) (he : Recognises n e L' F)
    (apart : ∀ u a rest v x r, L u a → L' v x → u ++ rest ≠ v ++ r) :
    Recognises n (b.union e) (fun u a => L u a ∨ L' u a) F := by
  have both {t : Text} {cs ds : Candidates α} (hb : b t = pure cs) (hb' : e t = pure ds) :
      b.union e t = pure (cs ++ ds) := by
    rw [Behaviour.union, hb, hb']
    rfl
  apply of_cases
  · intro t ht
    rcases h.cases_single ht with hb | ⟨a, u, rest, rfl, ha, hb⟩
    · rcases he.cases_single ht with hb' | ⟨a, u, rest, rfl, ha, hb'⟩
      · exact .inl (both hb hb')
      · exact .inr ⟨a, u, rest, rfl, .inr ha, both hb hb'⟩
    · rcases he.cases_single ht with hb' | ⟨x, v, r, same, hx, -⟩
      · exact .inr ⟨a, u, rest, rfl, .inl ha, both hb hb'⟩
      · exact absurd same (apart u a rest v x r ha hx)
  · intro u a rest hu ha hrest
    rcases ha with ha | ha
    · rcases he.cases_single hu with hb' | ⟨x, v, r, same, hx, -⟩
      · exact both (h.complete u a rest hu ha hrest) hb'
      · exact absurd same (apart u a rest v x r ha hx)
    · rcases h.cases_single hu with hb | ⟨x, v, r, same, hx, -⟩
      · exact both hb (he.complete u a rest hu ha hrest)
      · exact absurd same.symm (apart v x r u a rest hx ha)

/-- Two parts, one behind the other. The second one is run on a shorter text, since a word of the
first language stands before it. -/
theorem followed {γ : Type} {d : Behaviour Unit γ} {f : α → β → γ} (h : Recognises (n + 1) b L F)
    (hL : Proper L) (hc : Recognises n c M F')
    (follow : ∀ u x rest, M u x → F' rest → F (u ++ rest))
    (nothing : ∀ t, b t = pure [] → d t = pure [])
    (after : ∀ t a rest o, b t = pure [(a, rest)] → c rest = pure o →
      d t = pure (o.map fun x => (f a x.1, x.2))) :
    Recognises (n + 1) d (fun u y => ∃ v w a x, u = v ++ w ∧ y = f a x ∧ L v a ∧ M w x) F' := by
  apply of_cases
  · intro t ht
    rcases h.cases_single ht with hb | ⟨a, v, rest, rfl, ha, hb⟩
    · exact .inl (nothing t hb)
    · rcases hc.cases_single (hL.shorter ha ht) with ho | ⟨x, w, rest, rfl, hx, ho⟩
      · exact .inl (after _ a _ [] hb ho)
      · exact .inr ⟨f a x, v ++ w, rest, (List.append_assoc _ _ _).symm,
          ⟨v, w, a, x, rfl, rfl, ha, hx⟩, after _ a _ [(x, rest)] hb ho⟩
  · rintro _ _ rest hu ⟨v, w, a, x, rfl, rfl, ha, hx⟩ hrest
    rw [List.append_assoc] at hu ⊢
    exact after _ a _ [(x, rest)] (h.complete v a _ hu ha (follow w x rest hx hrest))
      (hc.complete w x rest (hL.shorter ha hu) hx hrest)

theorem «then» (h : Recognises (n + 1) b L F) (hL : Proper L) (hc : Recognises n c M F')
    (follow : ∀ u x rest, M u x → F' rest → F (u ++ rest)) :
    Recognises (n + 1) (b.then c)
      (fun u p => ∃ v w, u = v ++ w ∧ L v p.1 ∧ M w p.2) F' := by
  refine (h.followed (f := Prod.mk) hL hc follow (fun t hb => ?_)
    fun t a rest o hb ho => ?_).congr fun u p => ⟨?_, ?_⟩
  · rw [Behaviour.then, hb]
    rfl
  · simp only [Behaviour.then, hb, pure_bind, fromEach, ho, List.append_nil]
  · rintro ⟨v, w, a, x, rfl, rfl, ha, hx⟩
    exact ⟨v, w, rfl, ha, hx⟩
  · rintro ⟨v, w, rfl, ha, hx⟩
    exact ⟨v, w, p.1, p.2, rfl, rfl, ha, hx⟩

theorem ignoreThen (h : Recognises (n + 1) b L F) (hL : Proper L) (hc : Recognises n c M F')
    (follow : ∀ u x rest, M u x → F' rest → F (u ++ rest)) :
    Recognises (n + 1) (b.bind fun _ => c)
      (fun u x => ∃ v w a, u = v ++ w ∧ L v a ∧ M w x) F' := by
  refine (h.followed (f := fun _ x => x) hL hc follow (fun t hb => ?_)
    fun t a rest o hb ho => ?_).congr fun u x => ⟨?_, ?_⟩
  · rw [Behaviour.bind, hb]
    rfl
  · simp only [Behaviour.bind, hb, pure_bind, fromEach, ho, List.append_nil, List.map_id']
  · rintro ⟨v, w, a, x, rfl, rfl, ha, hx⟩
    exact ⟨v, w, a, rfl, ha, hx⟩
  · rintro ⟨v, w, a, rfl, ha, hx⟩
    exact ⟨v, w, a, x, rfl, rfl, ha, hx⟩

/-- The first part of two, with the second one read behind it. -/
theorem thenIgnore (h : Recognises (n + 1) b L F) (hL : Proper L) (hc : Recognises n c M F')
    (follow : ∀ u x rest, M u x → F' rest → F (u ++ rest)) :
    Recognises (n + 1) ((b.then c).tryMap fun p => .ok p.1)
      (fun u a => ∃ v w x, u = v ++ w ∧ L v a ∧ M w x) F' := by
  refine ((h.then hL hc follow).map Prod.fst).congr fun u a => ⟨?_, ?_⟩
  · rintro ⟨⟨a, x⟩, rfl, v, w, rfl, ha, hx⟩
    exact ⟨v, w, x, rfl, ha, hx⟩
  · rintro ⟨v, w, x, rfl, ha, hx⟩
    exact ⟨(a, x), rfl, v, w, rfl, ha, hx⟩

theorem debug (mark : Mark) (h : Recognises n b L F) :
    Recognises n (b.debug .silent mark) L F := by
  rw [Parser.debug_silent]
  exact h

/-- A definition recognises its language on longer and longer texts, the more often it may be used
within itself: each use is on a shorter text. -/
theorem unfold {f : Behaviour Unit α → Behaviour Unit α} {limit : Nat}
    (step : ∀ n b, n < limit → Recognises n b L F → Recognises (n + 1) (f b) L F) {uses : Nat}
    (huses : n ≤ uses) (hn : n ≤ limit) : Recognises n (unfold f uses) L F := by
  induction n generalizing uses with
  | zero => exact .zero _ L F
  | succ n ih =>
    obtain ⟨uses, rfl⟩ : ∃ k, uses = k + 1 := ⟨uses - 1, by omega⟩
    exact step n _ (by omega) (ih (by omega) (by omega))

/-- While a definition is made its handle recognises the language on the texts that are shorter. -/
theorem recursive {Γ : Scopes} {depth : Nat} {s : Store Unit Γ} {definition : Parser (α :: Γ) α}
    (hn : n ≤ depth + 1)
    (step : ∀ m b, m < n → Recognises m b L F →
      Recognises (m + 1) (definition.behaviour .silent depth (s.push (.alive b))) L F) :
    Recognises n ((Parser.recursive definition).behaviour .silent depth s) L F :=
  unfold step hn (Nat.le_refl n)

/-! ## Chains -/

section

variable {term : Behaviour Unit α} {operator : Behaviour Unit (α → α → Attempt α)} {acc : α}
  {t rest : Text}

theorem foldFrom_of_no_operator (h : operator t = pure []) :
    foldFrom term operator acc t = pure (acc, t) := by
  rw [foldFrom, h]
  rfl

theorem foldFrom_of_no_term {f : α → α → Attempt α} (ho : operator t = pure [(f, rest)])
    (ht : term rest = pure []) : foldFrom term operator acc t = pure (acc, t) := by
  rw [foldFrom, ho, pure_bind, firstFollowed, ht]
  rfl

theorem foldFrom_of_round {f : α → α → Attempt α} {rest' : Text} {a acc' : α}
    (ho : operator t = pure [(f, rest)]) (ht : term rest = pure [(a, rest')])
    (hf : f acc a = .ok acc') (progress : byteLength rest' < byteLength t) :
    foldFrom term operator acc t = foldFrom term operator acc' rest' := by
  rw [foldFrom, ho, pure_bind, firstFollowed, ht, pure_bind, pure_bind]
  simp only [hf, Run.attempt, pure_bind, progress, ↓reduceDIte]

end

/-- A left-recursive rule: a word of the language is an operand, or a word of the language with an
operator and an operand behind it. -/
structure LeftRecursive (C L : Text → α → Prop) (O : Text → (α → α → Attempt α) → Prop) : Prop where
  iff : ∀ u e, C u e ↔ L u e ∨ ∃ v o w a f x,
    u = v ++ o ++ w ∧ C v a ∧ O o f ∧ L w x ∧ f a x = .ok e
  operator : ∀ o f, O o f → o ≠ []
  total : ∀ o f, O o f → ∀ a x, ∃ e, f a x = .ok e

section

variable {C : Text → α → Prop} {O : Text → (α → α → Attempt α) → Prop} {G : Text → Prop}
  {term : Behaviour Unit α} {operator : Behaviour Unit (α → α → Attempt α)}

/-- The operands that are folded in stand behind the word that was read before. The induction is on
the length of the text. -/
theorem foldFrom_sound (rule : LeftRecursive C L O) (ht : Recognises n term L F)
    (ho : Recognises n operator O G) (acc : α) {t : Text} (hn : t.length < n) :
    ∃ e v rest, foldFrom term operator acc t = pure (e, rest) ∧ t = v ++ rest ∧
      ∀ u, C u acc → C (u ++ v) e := by
  induction hl : t.length using Nat.strongRecOn generalizing acc t with
  | ind l ih =>
    -- An operator without an operand behind it is not read either.
    have stop (h : foldFrom term operator acc t = pure (acc, t)) :
        ∃ e v rest, foldFrom term operator acc t = pure (e, rest) ∧ t = v ++ rest ∧
          ∀ u, C u acc → C (u ++ v) e :=
      ⟨acc, [], t, h, rfl, fun u hu => by rwa [List.append_nil]⟩
    rcases ho.cases_single hn with hno | ⟨f, o, r, rfl, hf, hop⟩
    · exact stop (foldFrom_of_no_operator hno)
    · have shorter : r.length < (o ++ r).length := by
        have := List.length_pos_iff.mpr (rule.operator o f hf)
        rw [List.length_append]
        omega
      rcases ht.cases_single (Nat.lt_trans shorter hn) with hno | ⟨x, w, rest, rfl, hx, hterm⟩
      · exact stop (foldFrom_of_no_term hop hno)
      · obtain ⟨acc', hacc⟩ := rule.total o f hf acc x
        have progress : byteLength rest < byteLength (o ++ (w ++ rest)) := by
          obtain ⟨c, o, rfl⟩ := List.exists_cons_of_ne_nil (rule.operator o f hf)
          have := c.utf8Size_pos
          simp only [List.cons_append, byteLength_cons, byteLength_append]
          omega
        have less : rest.length < l := by
          simp only [List.length_append] at hl shorter
          omega
        obtain ⟨e, v, rest', hfold, rfl, hv⟩ := ih _ less acc' (by omega) rfl
        refine ⟨e, o ++ w ++ v, rest', ?_, by simp, ?_⟩
        · rw [foldFrom_of_round hop hterm hacc progress, hfold]
        · intro u hu
          rw [← List.append_assoc, ← List.append_assoc]
          exact hv _ ((rule.iff _ _).mpr (.inr ⟨u, o, w, acc, f, x, rfl, hu, hf, hx, hacc⟩))

/-- A word of the language is read as its first operand, and the others are folded in. The induction
is on the length of the word. -/
theorem foldFrom_complete (rule : LeftRecursive C L O) (ht : Recognises n term L F)
    (ho : Recognises n operator O G) (term_follow : ∀ o f rest, O o f → F (o ++ rest))
    (operator_follow : ∀ u e rest, L u e → F rest → G (u ++ rest)) {u : Text} {e : α}
    (hu : C u e) {rest : Text} (hn : (u ++ rest).length < n) (hrest : F rest) :
    ∃ first r, term (u ++ rest) = pure [(first, r)] ∧
      foldFrom term operator first r = foldFrom term operator e rest := by
  induction hl : u.length using Nat.strongRecOn generalizing u e rest with
  | ind l ih =>
    rcases (rule.iff u e).mp hu with hu | ⟨v, o, w, a, f, x, rfl, hv, hf, hx, he⟩
    · exact ⟨e, rest, ht.complete u e rest hn hu hrest, rfl⟩
    · obtain ⟨c, o, rfl⟩ := List.exists_cons_of_ne_nil (rule.operator o f hf)
      have less : v.length < l := by
        simp only [List.length_append, List.length_cons] at hl
        omega
      simp only [List.append_assoc] at hn ⊢
      obtain ⟨first, r, hfirst, hfold⟩ :=
        ih _ less hv hn (term_follow _ f (w ++ rest) hf) rfl
      have hop := ho.complete (c :: o) f (w ++ rest) (by simp at hn ⊢; omega) hf
        (operator_follow w x rest hx hrest)
      have hterm := ht.complete w x rest (by simp at hn ⊢; omega) hx hrest
      have progress : byteLength rest < byteLength (c :: o ++ (w ++ rest)) := by
        have := c.utf8Size_pos
        simp only [List.cons_append, byteLength_cons, byteLength_append]
        omega
      exact ⟨first, r, hfirst, hfold.trans (foldFrom_of_round hop hterm he progress)⟩

/-- **Chains.** Operands with operators between them are the words of a left-recursive rule. -/
theorem chain (rule : LeftRecursive C L O) (ht : Recognises n term L F)
    (ho : Recognises n operator O G) (term_follow : ∀ o f rest, O o f → F (o ++ rest))
    (operator_follow : ∀ u e rest, L u e → F rest → G (u ++ rest))
    (follow : ∀ rest, F' rest → F rest)
    (stop : ∀ rest, F' rest → ∀ o f r, O o f → rest ≠ o ++ r) :
    Recognises n (term.chain operator) C F' := by
  have after {t r rest : Text} {first e : α} (hterm : term t = pure [(first, r)])
      (hfold : foldFrom term operator first r = pure (e, rest)) :
      term.chain operator t = pure [(e, rest)] := by
    simp only [Behaviour.chain, hterm, pure_bind, List.mapM_cons, List.mapM_nil, hfold]
  apply of_cases
  · intro t hn
    rcases ht.cases_single hn with hno | ⟨first, u, r, rfl, hu, hterm⟩
    · exact .inl (by rw [Behaviour.chain, hno]; rfl)
    · have hr : r.length < n := by
        rw [List.length_append] at hn
        omega
      obtain ⟨e, v, rest, hfold, rfl, hv⟩ := foldFrom_sound rule ht ho first hr
      exact .inr ⟨e, u ++ v, rest, (List.append_assoc _ _ _).symm,
        hv u ((rule.iff u first).mpr (.inl hu)), after hterm hfold⟩
  · intro u e rest hn hu hrest
    have hr : rest.length < n := by
      rw [List.length_append] at hn
      omega
    obtain ⟨first, r, hterm, hfold⟩ :=
      foldFrom_complete rule ht ho term_follow operator_follow hu hn (follow rest hrest)
    apply after hterm
    rw [hfold]
    rcases ho.cases_single hr with hno | ⟨f, o, r, rfl, hf, -⟩
    · exact foldFrom_of_no_operator hno
    · exact absurd rfl (stop _ hrest o f r hf)

end

end Recognises

end Backtrack
