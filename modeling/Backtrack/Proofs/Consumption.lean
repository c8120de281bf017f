import Backtrack.Proofs.Remainder

/-!
# Parsers that read

A parser reads if it never succeeds without reading something. Whether it does can depend
on what its handles do, so it is said for the stores that the parser is run with. Often
the form of a parser is enough to see that it reads: `Consumes.reads`.
-/

namespace Backtrack

def shorterThan (n : Nat) : Set Text := {t | t.length < n}

theorem shorterThan_mono {n m : Nat} (h : n ≤ m) : shorterThan n ⊆ shorterThan m :=
  fun _ ht => Nat.lt_of_lt_of_le ht h

theorem suffixClosed_shorterThan (n : Nat) : SuffixClosed (shorterThan n) :=
  fun _ ht _ hr => Nat.lt_of_le_of_lt hr.length_le ht

/-- What is left behind a start that is not empty is shorter. -/
theorem mem_shorterThan_of_append {t start rest : Text} {n : Nat} (ht : t ∈ shorterThan (n + 1))
    (h : start ++ rest = t) (hs : start ≠ []) : rest ∈ shorterThan n := by
  have length : start.length + rest.length < n + 1 := by
    rw [← List.length_append, h]
    exact ht
  have := List.length_pos_iff.mpr hs
  change rest.length < n
  omega

/-- No handle leaves more than it is given. -/
def Store.Keeps {Γ : Scopes} (s : Store Unit Γ) : Prop :=
  ∀ n, s.Corresponds (.equal Unit) (shorterThan n) s

namespace Parser

variable {Γ : Scopes} {α β : Type} (depth : Nat)

/-- What the parser does without a debugger. -/
abbrev silently (p : Parser Γ α) (s : Store Unit Γ) : Behaviour Unit α :=
  p.behaviour .silent depth s

/-- What a definition does that may be used within itself `n` times. -/
def tied (definition : Parser (β :: Γ) β) (s : Store Unit Γ) (n : Nat) : Behaviour Unit β :=
  unfold (fun b => definition.silently depth (s.push (.alive b))) n

/-- In the given stores the parser never has this result without reading something. -/
def ReadsFor (E : Set (Store Unit Γ)) (p : Parser Γ α) (a : α) : Prop :=
  ∀ s ∈ E, ∀ t cs, ((p.silently depth s t).outcome ()).1 = .ok cs →
    ∀ rest, (a, rest) ∈ cs → rest.length < t.length

/-- In the given stores the parser never succeeds without reading something. -/
def Reads (E : Set (Store Unit Γ)) (p : Parser Γ α) : Prop := ∀ a, p.ReadsFor depth E a

/-- The form of the parser shows that it reads something when it succeeds. -/
def Consumes : {Γ : Scopes} → {α : Type} → Parser Γ α → Prop
  | _, _, pure _ | _, _, endOfText | _, _, optional _ | _, _, many _ => False
  | _, _, separatedBy _ _ | _, _, handle _ => False
  | _, _, empty | _, _, raise _ | _, _, item | _, _, grapheme => True
  | _, _, literal text => text ≠ []
  | _, _, pattern p => ∀ t x, p.split t = Option.some x → x.1 ≠ []
  | _, _, custom f => ∀ t cs, f t = .ok cs → Leaves (shorterThan t.length) cs
  | _, _, tryMap p _ | _, _, tryFilter p _ | _, _, some p | _, _, token p => p.Consumes
  | _, _, debug _ p | _, _, separatedByAtLeastOne p _ | _, _, chain p _ => p.Consumes
  | _, _, union p q | _, _, committed p q | _, _, orElse p q => p.Consumes ∧ q.Consumes
  | _, _, bind p next => p.Consumes ∨ ∀ a, (next a).Consumes
  | _, _, .then p q | _, _, ap p q => p.Consumes ∨ q.Consumes
  | _, _, define _ _ body => body.Consumes

variable {depth}

/-- In a store that keeps, no parser leaves more than it is given. -/
theorem silently_keeps {p : Parser Γ α} (hp : p.Customs Shortens) {s : Store Unit Γ} (hs : s.Keeps)
    (n : Nat) :
    (Correspondence.equal Unit).behaviours (shorterThan n) (shorterThan n) (p.silently depth s)
      (p.silently depth s) := by
  have hS := suffixClosed_shorterThan n
  exact behaviour_corresponds (Correspondence.equal_fits _ _ depth) hS
    (hp.mono fun _ _ hf => hf.stays hS) (hs n)

theorem tied_keeps {definition : Parser (β :: Γ) β} (hd : definition.Customs Shortens)
    {s : Store Unit Γ} (hs : s.Keeps) (m n : Nat) :
    (Correspondence.equal Unit).behaviours (shorterThan n) (shorterThan n)
      (definition.tied depth s m) (definition.tied depth s m) := by
  have hS := suffixClosed_shorterThan n
  apply Correspondence.unfold_of_halt (Correspondence.equal_halt _ _ _)
  intro b b' hb
  exact behaviour_corresponds (Correspondence.equal_fits _ _ depth) hS
    (hd.mono fun _ _ hf => hf.stays hS) ((hs n).push hb)

end Parser

namespace Store.Keeps

variable {Γ : Scopes} {β : Type} {depth : Nat} {s : Store Unit Γ}

theorem tied (hs : s.Keeps) {definition : Parser (β :: Γ) β} (hd : definition.Customs Shortens)
    (m : Nat) : (s.push (.alive (definition.tied depth s m))).Keeps :=
  fun n => (hs n).push (Parser.tied_keeps hd hs m n)

theorem define (hs : s.Keeps) {definition : Parser (β :: Γ) β} (hd : definition.Customs Shortens)
    (state : Lifetime) : (s.push (state.cell (definition.tied depth s depth))).Keeps :=
  fun n => (hs n).push (state.cell_corresponds (Parser.tied_keeps hd hs depth n))

end Store.Keeps

namespace Parser

variable {Γ : Scopes} {α : Type} {depth : Nat}

/-- A parser whose form shows that it reads leaves less than it is given. -/
theorem Consumes.shortens {p : Parser Γ α} (h : p.Consumes) (hp : p.Customs Shortens)
    {s : Store Unit Γ} (hs : s.Keeps) (n : Nat) :
    (Correspondence.equal Unit).behaviours (shorterThan (n + 1)) (shorterThan n)
      (p.silently depth s) (p.silently depth s) := by
  induction p with
  | pure | endOfText | optional | many | separatedBy | handle => exact h.elim
  | empty => exact .split (fun _ _ _ hx => by cases hx)
  | raise f => exact .fault f
  | item =>
    apply Correspondence.behaviours.split
    rintro (_ | ⟨c, t⟩) ht x ⟨⟩
    exact Nat.lt_of_succ_lt_succ ht
  | grapheme =>
    apply Correspondence.behaviours.split
    rintro (_ | ⟨c, t⟩) ht x hx
    · cases hx
    · have cluster : x.1 ≠ [] := by
        cases hx
        exact nofun
      exact mem_shorterThan_of_append ht (Grapheme.append_of_splitFirst hx) cluster
  | literal text =>
    apply Correspondence.behaviours.split
    intro t ht x hx
    obtain ⟨rest, hrest, rfl⟩ := Option.map_eq_some_iff.mp hx
    exact mem_shorterThan_of_append ht (append_of_stripStart hrest) h
  | pattern p =>
    apply Correspondence.behaviours.split
    exact fun t ht x hx => mem_shorterThan_of_append ht (Pattern.append_of_split hx) (h t x hx)
  | custom f =>
    apply Correspondence.behaviours.custom
    intro t ht cs hcs c hc
    exact Nat.lt_of_lt_of_le (h t cs hcs c hc) (Nat.le_of_lt_succ ht)
  | tryMap _ f ih => exact (ih h hp hs).tryMap f
  | tryFilter _ keep ih => exact (ih h hp hs).tryFilter keep
  | token _ ih => exact (ih h hp hs).token ((suffixClosed_shorterThan n).pattern .blanks)
  | debug mark _ ih => exact Correspondence.equal_debug .silent mark (ih h hp hs)
  | some p ih =>
    have keeps : p.Customs Shortens := hp
    exact (ih h hp hs).some (silently_keeps keeps hs n)
  | separatedByAtLeastOne p q ih _ =>
    exact (ih h hp.1 hs).separatedByAtLeastOne (silently_keeps hp.1 hs n) (silently_keeps hp.2 hs n)
  | chain p q ih _ =>
    exact (ih h hp.1 hs).chain (silently_keeps hp.1 hs n) (silently_keeps hp.2 hs n)
  | union _ _ ih₁ ih₂ => exact (ih₁ h.1 hp.1 hs).union (ih₂ h.2 hp.2 hs)
  | committed _ _ ih₁ ih₂ => exact (ih₁ h.1 hp.1 hs).committed (ih₂ h.2 hp.2 hs)
  | orElse _ _ ih₁ ih₂ => exact (ih₁ h.1 hp.1 hs).orElse (ih₂ h.2 hp.2 hs)
  | bind p next ih ihn =>
    rcases h with h | h
    · exact (ih h hp.1 hs).bind fun a => silently_keeps (hp.2 a) hs n
    · exact (silently_keeps hp.1 hs (n + 1)).bind fun a => ihn a (h a) (hp.2 a) hs
  | «then» p q ih₁ ih₂ =>
    rcases h with h | h
    · exact (ih₁ h hp.1 hs).then (silently_keeps hp.2 hs n)
    · exact (silently_keeps hp.1 hs (n + 1)).then (ih₂ h hp.2 hs)
  | ap p q ih₁ ih₂ =>
    rcases h with h | h
    · exact (ih₁ h hp.1 hs).ap (silently_keeps hp.2 hs n)
    · exact (silently_keeps hp.1 hs (n + 1)).ap (ih₂ h hp.2 hs)
  | define state _ _ _ ih => exact ih h hp.2 (hs.define hp.1 state)

/-- A parser whose form shows that it reads does so, with handles that leave no more than they
are given. -/
theorem Consumes.reads {p : Parser Γ α} (h : p.Consumes) (hp : p.Customs Shortens)
    {E : Set (Store Unit Γ)} (hE : ∀ s ∈ E, s.Keeps) : p.Reads depth E := by
  intro a s hs t cs hcs rest hrest
  have shortens : (Correspondence.equal Unit).behaviours (shorterThan (t.length + 1))
      (shorterThan t.length) (p.silently depth s) (p.silently depth s) :=
    h.shortens hp (hE s hs) t.length
  exact (shortens t (Nat.lt_succ_self _) ()).2 cs hcs (a, rest) hrest

end Parser

end Backtrack
