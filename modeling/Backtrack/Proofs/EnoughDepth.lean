import Backtrack.Proofs.Consumption
import Backtrack.Proofs.Depth

/-!
# Enough depth

If a run goes too deep at a depth that is more than the length of the text, then it does so
at every depth: `Parser.behaviour_eq_of_length_lt`. A definition that is used within itself more
often than that is used twice on the same text, and then it never ends.
-/

namespace Backtrack

namespace Correspondence

variable {σ τ α : Type}

/-- On each suffix of the text the behaviours correspond, and they leave suffixes of it. -/
def onSuffixes (C : Correspondence σ τ) (t : Text) (b : Behaviour σ α) (b' : Behaviour τ α) :
    Prop :=
  ∀ u, u <:+ t → C.behaviours {v | v <:+ u} {v | v <:+ u} b b'

variable {C : Correspondence σ τ} {t u : Text} {b : Behaviour σ α} {b' : Behaviour τ α}

theorem onSuffixes.suffix (h : C.onSuffixes t b b') (hu : u <:+ t) : C.onSuffixes u b b' :=
  fun v hv => h v (hv.trans hu)

/-- It is enough to look at one text at a time. -/
theorem onSuffixes_of_runs
    (h : ∀ u, u <:+ t → C.runs (Leaves {v | v <:+ u}) (b u) (b' u)) : C.onSuffixes t b b' := by
  intro u hu v hv
  refine C.mono ?_ (h v (List.IsSuffix.trans hv hu))
  exact fun cs hcs c hc => (hcs c hc).trans hv

/-- A definition that returns does so with as many uses of itself as its text has characters, and
one. The induction is on the length of the text, and then on the uses: with the last use that is too
few, the definition goes too deep when it is used on the same text. -/
theorem deeper_unfold_of_length_lt {f f' : Behaviour Unit α → Behaviour Unit α}
    (hf : ∀ u, u <:+ t → ∀ b b', (deeper Unit).onSuffixes u b b' →
      (deeper Unit).onSuffixes u (f b) (f' b'))
    (mono : ∀ i, (deeper Unit).behaviours Set.univ Set.univ (unfold f i) (unfold f (i + 1)))
    {j : Nat} (hj : t.length < j) (i : Nat) :
    (deeper Unit).onSuffixes t (unfold f i) (unfold f' j) := by
  induction hn : t.length using Nat.strongRecOn generalizing t i j with
  | ind n ih =>
    have shorter (u : Text) (hu : u <:+ t) (hne : u ≠ t) (i : Nat) {j : Nat} (hj : u.length < j) :
        (deeper Unit).runs (Leaves {v | v <:+ u}) (unfold f i u) (unfold f' j u) := by
      have less : u.length < n := by
        have := hu.length_le
        have := mt hu.eq_of_length hne
        omega
      exact ih _ less (fun v hv => hf v (hv.trans hu)) hj i rfl u (List.suffix_refl u) u
        (List.suffix_refl u)
    have here (i : Nat) :
        (deeper Unit).runs (Leaves {v | v <:+ t}) (unfold f i t) (unfold f' j t) := by
      induction i with
      | zero => exact fun _ => .inl rfl
      | succ i ihi =>
        -- If the uses before are too deep on this text, then a use on it cannot return, and those
        -- on shorter suffixes are known. Otherwise one more use changes nothing.
        by_cases deep : ((unfold f i t).outcome ()).1 = .error .tooDeep
        · obtain ⟨j, rfl⟩ : ∃ k, j = k + 1 := ⟨j - 1, by omega⟩
          have uses : (deeper Unit).onSuffixes t (unfold f i) (unfold f' j) := by
            apply onSuffixes_of_runs
            intro u hu
            by_cases same : u = t
            · subst same
              exact fun _ => .inl deep
            · have := hu.length_le
              have := mt hu.eq_of_length same
              exact shorter u hu same i (by omega)
          exact hf t (List.suffix_refl t) _ _ uses t (List.suffix_refl t) t (List.suffix_refl t)
        · intro state
          rcases mono i t trivial state with deep' | ⟨same, -⟩
          · exact absurd deep' deep
          · rw [same]
            exact ihi state
    apply onSuffixes_of_runs
    intro u hu
    by_cases same : u = t
    · subst same
      exact here i
    · have := hu.length_le
      exact shorter u hu same i (by omega)

end Correspondence

namespace Parser

open Correspondence

variable {Γ : Scopes} {α : Type}

/-- What returns at some depth does so at a depth that is more than the length of the text, if the
handles do. -/
theorem deeper_of_length_lt {p : Parser Γ α} (hp : p.Customs Shortens) (m : Nat) {n : Nat}
    {t : Text} (ht : t.length < n) {s s' : Store Unit Γ}
    (hs : ∀ ⦃β : Type⦄ (h : Handle Γ β),
      (deeper Unit).onSuffixes t (s h).behaviour (s' h).behaviour) :
    (deeper Unit).onSuffixes t (p.behaviour .silent m s) (p.behaviour .silent n s') := by
  induction p generalizing t with
  | pure | empty | raise | endOfText | item | grapheme | literal | pattern | custom =>
    intro u _
    have hS := suffixClosed_suffixes u
    exact Primitive.corresponds (hp.mono fun _ _ hf => hf.stays hS) hS s s' trivial
  | tryMap _ f ih => exact fun u hu => (ih hp ht hs u hu).tryMap f
  | bind _ _ ih ihn =>
    exact fun u hu => (ih hp.1 ht hs u hu).bind fun a => ihn a (hp.2 a) ht hs u hu
  | union _ _ ih₁ ih₂ => exact fun u hu => (ih₁ hp.1 ht hs u hu).union (ih₂ hp.2 ht hs u hu)
  | committed _ _ ih₁ ih₂ =>
    exact fun u hu => (ih₁ hp.1 ht hs u hu).committed (ih₂ hp.2 ht hs u hu)
  | orElse _ _ ih₁ ih₂ => exact fun u hu => (ih₁ hp.1 ht hs u hu).orElse (ih₂ hp.2 ht hs u hu)
  | tryFilter _ keep ih => exact fun u hu => (ih hp ht hs u hu).tryFilter keep
  | optional _ ih => exact fun u hu => (ih hp ht hs u hu).optional
  | many _ ih => exact fun u hu => (ih hp ht hs u hu).many
  | some _ ih => exact fun u hu => (ih hp ht hs u hu).some (ih hp ht hs u hu)
  | separatedByAtLeastOne _ _ ih₁ ih₂ =>
    intro u hu
    have first := ih₁ hp.1 ht hs u hu
    exact first.separatedByAtLeastOne first (ih₂ hp.2 ht hs u hu)
  | separatedBy _ _ ih₁ ih₂ =>
    intro u hu
    have first := ih₁ hp.1 ht hs u hu
    exact first.separatedBy first (ih₂ hp.2 ht hs u hu) subset_rfl
  | chain _ _ ih₁ ih₂ =>
    intro u hu
    have term := ih₁ hp.1 ht hs u hu
    exact term.chain term (ih₂ hp.2 ht hs u hu)
  | «then» _ _ ih₁ ih₂ => exact fun u hu => (ih₁ hp.1 ht hs u hu).then (ih₂ hp.2 ht hs u hu)
  | ap _ _ ih₁ ih₂ => exact fun u hu => (ih₁ hp.1 ht hs u hu).ap (ih₂ hp.2 ht hs u hu)
  | token _ ih =>
    exact fun u hu => (ih hp ht hs u hu).token ((suffixClosed_suffixes u).pattern .blanks)
  | debug mark _ ih =>
    exact fun u hu => (deeper_fits _ .silent (Nat.le_refl 0)).debug mark _ _ (ih hp ht hs u hu)
  | handle h => exact hs h
  | define state definition body ih₁ ih₂ =>
    have mono (i : Nat) : (deeper Unit).behaviours Set.univ Set.univ
        (definition.tied m s i) (definition.tied m s (i + 1)) := by
      refine deeper_unfold (fun b b' hb => ?_) (Nat.le_succ i)
      exact behaviour_corresponds (deeper_fits _ .silent (Nat.le_refl m)) suffixClosed_univ
        definition.customs_univ (s.corresponds_deeper.push hb)
    have tied : (deeper Unit).onSuffixes t (definition.tied m s m) (definition.tied n s' n) := by
      refine deeper_unfold_of_length_lt (fun u hu b b' hb => ?_) mono ht m
      apply ih₁ hp.1 (Nat.lt_of_le_of_lt hu.length_le ht)
      rintro β (_ | h)
      · exact hb
      · exact (hs h).suffix hu
    apply ih₂ hp.2 ht
    rintro β (_ | h)
    · exact fun u hu => state.cell_corresponds (tied u hu)
    · exact hs h

/-- At all depths that are more than the length of the text, a parser has the same outcome. -/
theorem behaviour_eq_of_length_lt {p : Parser [] α} (hp : p.Customs Shortens) {t : Text}
    {n m : Nat} (hn : t.length < n) (hm : t.length < m) :
    (p.behaviour .silent n .empty t).outcome () = (p.behaviour .silent m .empty t).outcome () := by
  have returns {n m : Nat} (hn : t.length < n) :
      ((p.behaviour .silent m .empty t).outcome ()).1 = .error .tooDeep ∨
        (p.behaviour .silent n .empty t).outcome () =
          (p.behaviour .silent m .empty t).outcome () :=
    ((deeper_of_length_lt hp m hn nofun t (List.suffix_refl t) t (List.suffix_refl t)) ()).imp id
      And.left
  rcases returns (m := m) hn with deep | same
  · rcases returns (m := n) hm with deep' | same
    · exact Prod.ext (deep'.trans deep.symm) rfl
    · exact same.symm
  · exact same

end Parser

end Backtrack
