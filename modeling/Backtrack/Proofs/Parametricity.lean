import Backtrack.Parser.Basic
import Backtrack.Proofs.Correspondence
import Backtrack.Proofs.Slice

/-!
# Parametricity

What a parser does depends on the debugger, on how often its definitions may be used
within themselves, and on the handles around it. If all of these correspond, then the
parser does alike with the one and with the other: `Parser.behaviour_corresponds`.
Many statements about all parsers are this one for some correspondence.
-/

namespace Backtrack

/-- A condition on the functions that parsers can be made from. -/
abbrev CustomCondition := ⦃α : Type⦄ → (Text → Attempt (Candidates α)) → Prop

namespace Parser

/-- The condition holds of every function that the parser has candidates from, in all the parsers
that it can go on with. -/
def Customs (P : CustomCondition) : {Γ : Scopes} → {α : Type} → Parser Γ α → Prop
  | _, _, pure _ | _, _, empty | _, _, raise _ | _, _, endOfText | _, _, item => True
  | _, _, grapheme | _, _, literal _ | _, _, pattern _ | _, _, handle _ => True
  | _, _, custom f => P f
  | _, _, tryMap p _ | _, _, tryFilter p _ | _, _, optional p | _, _, many p => p.Customs P
  | _, _, some p | _, _, token p | _, _, debug _ p => p.Customs P
  | _, _, bind p next => p.Customs P ∧ ∀ a, (next a).Customs P
  | _, _, union p q | _, _, committed p q | _, _, orElse p q => p.Customs P ∧ q.Customs P
  | _, _, separatedByAtLeastOne p q | _, _, separatedBy p q => p.Customs P ∧ q.Customs P
  | _, _, chain p q | _, _, .then p q | _, _, ap p q => p.Customs P ∧ q.Customs P
  | _, _, define _ definition body => definition.Customs P ∧ body.Customs P

theorem Customs.mono {P Q : CustomCondition}
    (hPQ : ∀ ⦃α : Type⦄ (f : Text → Attempt (Candidates α)), P f → Q f) {Γ : Scopes} {α : Type}
    {p : Parser Γ α} (h : p.Customs P) : p.Customs Q := by
  induction p with
  | pure | empty | raise | endOfText | item | grapheme | literal | pattern | handle => trivial
  | custom f => exact hPQ f h
  | tryMap _ _ ih | tryFilter _ _ ih | optional _ ih | many _ ih | some _ ih | token _ ih
  | debug _ _ ih => exact ih h
  | bind _ _ ih ihn => exact ⟨ih h.1, fun a => ihn a (h.2 a)⟩
  | union _ _ ih₁ ih₂ | committed _ _ ih₁ ih₂ | orElse _ _ ih₁ ih₂
  | separatedByAtLeastOne _ _ ih₁ ih₂ | separatedBy _ _ ih₁ ih₂ | chain _ _ ih₁ ih₂
  | «then» _ _ ih₁ ih₂ | ap _ _ ih₁ ih₂ | define _ _ _ ih₁ ih₂ => exact ⟨ih₁ h.1, ih₂ h.2⟩

theorem customs_true {Γ : Scopes} {α : Type} (p : Parser Γ α) : p.Customs fun _ _ => True := by
  induction p <;> simp_all [Customs]

end Parser

/-- A set of texts from which no suffix leads out. -/
def SuffixClosed (S : Set Text) : Prop := ∀ t ∈ S, ∀ rest, rest <:+ t → rest ∈ S

/-- The function stays in the set. -/
def Stays (S : Set Text) : CustomCondition := fun _ f => ∀ t ∈ S, ∀ cs, f t = .ok cs → Leaves S cs

/-- The function leaves suffixes of its text only, as functions given to parsers must. -/
def Shortens : CustomCondition := fun _ f => ∀ t cs, f t = .ok cs → Leaves {rest | rest <:+ t} cs

theorem Shortens.stays {α : Type} {S : Set Text} (hS : SuffixClosed S)
    {f : Text → Attempt (Candidates α)} (hf : Shortens f) : Stays S f :=
  fun t ht cs hcs c hc => hS t ht c.2 (hf t cs hcs c hc)

theorem suffixClosed_univ : SuffixClosed Set.univ := fun _ _ _ _ => trivial

theorem Parser.customs_univ {Γ : Scopes} {α : Type} (p : Parser Γ α) :
    p.Customs (Stays Set.univ) :=
  p.customs_true.mono fun _ _ _ _ _ _ _ _ _ => trivial

theorem SuffixClosed.of_append {S : Set Text} (hS : SuffixClosed S) {t start rest : Text}
    (ht : t ∈ S) (h : start ++ rest = t) : rest ∈ S :=
  hS t ht rest ⟨start, h⟩

theorem SuffixClosed.pattern {S : Set Text} (hS : SuffixClosed S) (p : Pattern) :
    ∀ t ∈ S, ∀ x ∈ p.split t, x.2 ∈ S :=
  fun _ ht _ hx => hS.of_append ht (Pattern.append_of_split hx)

variable {σ τ : Type}

/-- Every handle does alike in both stores. -/
def Store.Corresponds (C : Correspondence σ τ) (S : Set Text) {Γ : Scopes} (s : Store σ Γ)
    (s' : Store τ Γ) : Prop :=
  ∀ ⦃α : Type⦄ (h : Handle Γ α), C.behaviours S S (s h).behaviour (s' h).behaviour

theorem Store.empty_corresponds (C : Correspondence σ τ) (S : Set Text) :
    (Store.empty : Store σ []).Corresponds C S (Store.empty : Store τ []) := nofun

theorem Store.Corresponds.push {C : Correspondence σ τ} {S : Set Text} {Γ : Scopes} {β : Type}
    {s : Store σ Γ} {s' : Store τ Γ} {c : Cell σ β} {c' : Cell τ β} (hs : s.Corresponds C S s')
    (hc : C.behaviours S S c.behaviour c'.behaviour) :
    (s.push c).Corresponds C S (s'.push c') := by
  intro α h
  cases h with
  | here => exact hc
  | outer h => exact hs h

theorem Lifetime.cell_corresponds {C : Correspondence σ τ} {S : Set Text} {α : Type}
    {b : Behaviour σ α} {b' : Behaviour τ α} (state : Lifetime) (h : C.behaviours S S b b') :
    C.behaviours S S (state.cell b).behaviour (state.cell b').behaviour := by
  cases state with
  | underConstruction => exact .fault .undefined
  | alive => exact h
  | dropped => exact .fault .dropped

/-- What the debuggers and the depths on the two sides have to do alike. -/
structure Correspondence.Fits (C : Correspondence σ τ) (S : Set Text) (d : Debugger σ)
    (d' : Debugger τ) (depth depth' : Nat) : Prop where
  debug : ∀ ⦃α : Type⦄ (mark : Mark) (b : Behaviour σ α) (b' : Behaviour τ α),
    C.behaviours S S b b' → C.behaviours S S (b.debug d mark) (b'.debug d' mark)
  unfold : ∀ ⦃α : Type⦄ (f : Behaviour σ α → Behaviour σ α) (f' : Behaviour τ α → Behaviour τ α),
    (∀ b b', C.behaviours S S b b' → C.behaviours S S (f b) (f' b')) →
      C.behaviours S S (unfold f depth) (unfold f' depth')

/-- Definitions correspond at the same depth if their halts do. -/
theorem Correspondence.unfold_of_halt {C : Correspondence σ τ} {S : Set Text} {α : Type}
    {f : Behaviour σ α → Behaviour σ α} {f' : Behaviour τ α → Behaviour τ α}
    (halt : C.behaviours S S (.halt .tooDeep : Behaviour σ α) (.halt .tooDeep))
    (hf : ∀ b b', C.behaviours S S b b' → C.behaviours S S (f b) (f' b')) (depth : Nat) :
    C.behaviours S S (unfold f depth) (unfold f' depth) := by
  induction depth with
  | zero => exact halt
  | succ depth ih => exact hf _ _ ih

namespace Parser

/-- The parser is not made of other parsers. -/
def Primitive {Γ : Scopes} {α : Type} : Parser Γ α → Prop
  | pure _ | empty | raise _ | endOfText | item => True
  | grapheme | literal _ | pattern _ | custom _ => True
  | _ => False

variable {C : Correspondence σ τ} {S : Set Text} {d : Debugger σ} {d' : Debugger τ}
  {depth depth' : Nat} {Γ : Scopes} {α : Type}

/-- What a parser does that is not made of others is the same on both sides. -/
theorem Primitive.corresponds {p : Parser Γ α} (hp : p.Customs (Stays S)) (hS : SuffixClosed S)
    (s : Store σ Γ) (s' : Store τ Γ) (h : p.Primitive) :
    C.behaviours S S (p.behaviour d depth s) (p.behaviour d' depth' s') := by
  cases p with
  | pure value => exact .pure value
  | empty => exact .split (fun _ _ _ hx => by cases hx)
  | raise f => exact .fault f
  | endOfText =>
    apply Correspondence.behaviours.split
    intro t ht x hx
    split at hx <;> cases hx
    exact ht
  | item =>
    apply Correspondence.behaviours.split
    intro t ht x hx
    cases t with
    | nil => cases hx
    | cons c t => cases hx; exact hS _ ht t (List.suffix_cons c t)
  | grapheme =>
    exact .split fun _ ht _ hx => hS.of_append ht (Grapheme.append_of_splitFirst hx)
  | literal text =>
    apply Correspondence.behaviours.split
    intro t ht x hx
    obtain ⟨rest, hrest, rfl⟩ := Option.map_eq_some_iff.mp hx
    exact hS.of_append ht (append_of_stripStart hrest)
  | pattern p => exact .split (hS.pattern p)
  | custom f => exact .custom hp
  | _ => exact h.elim

/-- **Parametricity.** If the debuggers, the depths and the handles correspond on a set of texts
that contains the suffixes of its texts, then so does what a parser does with them. -/
theorem behaviour_corresponds (fits : C.Fits S d d' depth depth') (hS : SuffixClosed S)
    {p : Parser Γ α} (hp : p.Customs (Stays S)) {s : Store σ Γ} {s' : Store τ Γ}
    (hs : s.Corresponds C S s') :
    C.behaviours S S (p.behaviour d depth s) (p.behaviour d' depth' s') := by
  induction p with
  | pure | empty | raise | endOfText | item | grapheme | literal | pattern | custom =>
    exact Primitive.corresponds hp hS s s' trivial
  | tryMap _ f ih => exact (ih hp hs).tryMap f
  | bind _ _ ih ihn => exact (ih hp.1 hs).bind fun a => ihn a (hp.2 a) hs
  | union _ _ ih₁ ih₂ => exact (ih₁ hp.1 hs).union (ih₂ hp.2 hs)
  | committed _ _ ih₁ ih₂ => exact (ih₁ hp.1 hs).committed (ih₂ hp.2 hs)
  | orElse _ _ ih₁ ih₂ => exact (ih₁ hp.1 hs).orElse (ih₂ hp.2 hs)
  | tryFilter _ keep ih => exact (ih hp hs).tryFilter keep
  | optional _ ih => exact (ih hp hs).optional
  | many _ ih => exact (ih hp hs).many
  | some _ ih => exact (ih hp hs).some (ih hp hs)
  | separatedByAtLeastOne _ _ ih₁ ih₂ =>
    exact (ih₁ hp.1 hs).separatedByAtLeastOne (ih₁ hp.1 hs) (ih₂ hp.2 hs)
  | separatedBy _ _ ih₁ ih₂ =>
    exact (ih₁ hp.1 hs).separatedBy (ih₁ hp.1 hs) (ih₂ hp.2 hs) subset_rfl
  | chain _ _ ih₁ ih₂ => exact (ih₁ hp.1 hs).chain (ih₁ hp.1 hs) (ih₂ hp.2 hs)
  | «then» _ _ ih₁ ih₂ => exact (ih₁ hp.1 hs).then (ih₂ hp.2 hs)
  | ap _ _ ih₁ ih₂ => exact (ih₁ hp.1 hs).ap (ih₂ hp.2 hs)
  | token _ ih => exact (ih hp hs).token (hS.pattern .blanks)
  | debug mark _ ih => exact fits.debug mark _ _ (ih hp hs)
  | handle h => exact hs h
  | define state _ _ ih₁ ih₂ =>
    apply ih₂ hp.2
    apply hs.push
    apply state.cell_corresponds
    apply fits.unfold
    intro b b' hb
    exact ih₁ hp.1 (hs.push hb)

end Parser

end Backtrack
