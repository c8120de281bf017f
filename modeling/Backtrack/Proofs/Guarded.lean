import Backtrack.Proofs.Consumption

/-!
# Guarded recursion

A grammar is guarded if each use of a handle inside of its own definition stands behind a
parser that never succeeds without reading something. A parser of a guarded grammar ends
wherever the handles end that it can use at once: `GuardedIn.ends`.
-/

namespace Backtrack

/-- Handles of a scope, of any types. -/
abbrev Handles (Γ : Scopes) := Set (Σ α : Type, Handle Γ α)

/-- The stores that the inside of a definition is run with. -/
def inside (depth : Nat) {Γ : Scopes} {β : Type} (definition : Parser (β :: Γ) β)
    (E : Set (Store Unit Γ)) : Set (Store Unit (β :: Γ)) :=
  {s' | ∃ s ∈ E, ∃ n < depth, s' = s.push (.alive (definition.tied depth s n))}

/-- The stores that a parser is run with after a definition was made for it. -/
def around (depth : Nat) {Γ : Scopes} {β : Type} (state : Lifetime)
    (definition : Parser (β :: Γ) β) (E : Set (Store Unit Γ)) : Set (Store Unit (β :: Γ)) :=
  {s' | ∃ s ∈ E, s' = s.push (state.cell (definition.tied depth s depth))}

namespace Parser

variable (depth : Nat)

/-- The handles that the parser can use, in the given stores, before a parser that never succeeds
without reading has succeeded. A definition is used where its handle is. -/
def atOnce : {Γ : Scopes} → {α : Type} → Parser Γ α → Set (Store Unit Γ) → Handles Γ
  | _, _, pure _, _ | _, _, empty, _ | _, _, raise _, _ | _, _, endOfText, _ | _, _, item, _ => ∅
  | _, _, grapheme, _ | _, _, literal _, _ | _, _, pattern _, _ | _, _, custom _, _ => ∅
  | _, _, handle h, _ => {⟨_, h⟩}
  | _, _, tryMap p _, E | _, _, tryFilter p _, E | _, _, optional p, E => p.atOnce E
  | _, _, many p, E | _, _, some p, E | _, _, token p, E | _, _, debug _ p, E => p.atOnce E
  | _, _, union p q, E | _, _, committed p q, E | _, _, orElse p q, E => p.atOnce E ∪ q.atOnce E
  | _, _, bind p next, E => p.atOnce E ∪ {h | ∃ a, ¬ p.ReadsFor depth E a ∧ h ∈ (next a).atOnce E}
  | _, _, separatedByAtLeastOne p q, E | _, _, separatedBy p q, E =>
    p.atOnce E ∪ {h | ¬ p.Reads depth E ∧ h ∈ q.atOnce E}
  | _, _, chain p q, E => p.atOnce E ∪ {h | ¬ p.Reads depth E ∧ h ∈ q.atOnce E}
  | _, _, .then p q, E => p.atOnce E ∪ {h | ¬ p.Reads depth E ∧ h ∈ q.atOnce E}
  | _, _, ap p q, E => p.atOnce E ∪ {h | ¬ p.Reads depth E ∧ h ∈ q.atOnce E}
  | _, _, define state definition body, E =>
    {h | ⟨_, .outer h.2⟩ ∈ body.atOnce (around depth state definition E) ∨
      ⟨_, .here⟩ ∈ body.atOnce (around depth state definition E) ∧
        ⟨_, .outer h.2⟩ ∈ definition.atOnce (inside depth definition E)}

/-- In the given stores, no definition of the parser can use its own handle before a parser that
never succeeds without reading has succeeded since the definition was entered. -/
def GuardedIn : {Γ : Scopes} → {α : Type} → Parser Γ α → Set (Store Unit Γ) → Prop
  | _, _, pure _, _ | _, _, empty, _ | _, _, raise _, _ | _, _, endOfText, _ | _, _, item, _ => True
  | _, _, grapheme, _ | _, _, literal _, _ | _, _, pattern _, _ | _, _, custom _, _ => True
  | _, _, handle _, _ => True
  | _, _, tryMap p _, E | _, _, tryFilter p _, E | _, _, optional p, E => p.GuardedIn E
  | _, _, many p, E | _, _, some p, E | _, _, token p, E | _, _, debug _ p, E => p.GuardedIn E
  | _, _, union p q, E | _, _, committed p q, E => p.GuardedIn E ∧ q.GuardedIn E
  | _, _, orElse p q, E | _, _, separatedByAtLeastOne p q, E => p.GuardedIn E ∧ q.GuardedIn E
  | _, _, separatedBy p q, E | _, _, chain p q, E => p.GuardedIn E ∧ q.GuardedIn E
  | _, _, .then p q, E | _, _, ap p q, E => p.GuardedIn E ∧ q.GuardedIn E
  | _, _, bind p next, E => p.GuardedIn E ∧ ∀ a, (next a).GuardedIn E
  | _, _, define state definition body, E =>
    ⟨_, .here⟩ ∉ definition.atOnce depth (inside depth definition E) ∧
      definition.GuardedIn (inside depth definition E) ∧
      body.GuardedIn (around depth state definition E)

end Parser

theorem keeps_of_inside {depth : Nat} {Γ : Scopes} {β : Type} {definition : Parser (β :: Γ) β}
    {E : Set (Store Unit Γ)} (hd : definition.Customs Shortens) (hE : ∀ s ∈ E, s.Keeps) :
    ∀ s ∈ inside depth definition E, s.Keeps := by
  rintro _ ⟨s, hs, n, -, rfl⟩
  exact (hE s hs).tied hd n

theorem keeps_of_around {depth : Nat} {Γ : Scopes} {β : Type} {state : Lifetime}
    {definition : Parser (β :: Γ) β} {E : Set (Store Unit Γ)} (hd : definition.Customs Shortens)
    (hE : ∀ s ∈ E, s.Keeps) : ∀ s ∈ around depth state definition E, s.Keeps := by
  rintro _ ⟨s, hs, rfl⟩
  exact (hE s hs).define hd state

/-- Runs that do not go too deep and whose results satisfy the predicate. The second run plays no
part. -/
def Correspondence.ending : Correspondence Unit Unit where
  runs P r _ := (r.outcome ()).1 ≠ .error .tooDeep ∧ ∀ a, (r.outcome ()).1 = .ok a → P a
  pure hP := by
    refine ⟨nofun, ?_⟩
    rintro _ ⟨⟩
    exact hP
  bind {α β P Q r r' next next'} hr hnext := by
    rcases h : r.outcome () with ⟨e | a, u⟩
    · rw [Run.outcome_bind_of_error h]
      rw [h] at hr
      exact ⟨fun deep => hr.1 (by cases deep; rfl), nofun⟩
    · rw [Run.outcome_bind_of_ok h]
      exact hnext a (hr.2 a (by rw [h]))
  fault f := ⟨nofun, nofun⟩

theorem Correspondence.ending_and {α : Type} {P Q : α → Prop} {r r' : Run Unit α}
    (hP : ending.runs P r r') (hQ : ∀ a, (r.outcome ()).1 = .ok a → P a → Q a) :
    ending.runs Q r r' :=
  ⟨hP.1, fun a ha => hQ a ha (hP.2 a ha)⟩

/-- The behaviour does not go too deep on texts with fewer than `n` characters, and leaves no more
than it is given. -/
def Ends {α : Type} (n : Nat) (b : Behaviour Unit α) : Prop :=
  ∀ m ≤ n, Correspondence.ending.behaviours (shorterThan m) (shorterThan m) b b

namespace Ends

variable {α : Type} {n m : Nat} {b : Behaviour Unit α}

theorem zero : Ends 0 b := by
  intro m hm t ht
  have : t.length < m := ht
  omega

theorem mono (h : Ends n b) (hm : m ≤ n) : Ends m b := fun k hk => h k (Nat.le_trans hk hm)

theorem cell (h : Ends n b) (state : Lifetime) : Ends n (state.cell b).behaviour :=
  fun m hm => state.cell_corresponds (h m hm)

end Ends

/-- What is known of the handles when a parser is run on a text of at most `n` characters: all of
them end on shorter texts, and those of `U` on this text too. -/
structure Store.Allows {Γ : Scopes} (s : Store Unit Γ) (U : Handles Γ) (n : Nat) : Prop where
  short : ∀ ⦃α : Type⦄ (h : Handle Γ α), Ends n (s h).behaviour
  atOnce : ∀ ⦃α : Type⦄ (h : Handle Γ α), ⟨α, h⟩ ∈ U → Ends (n + 1) (s h).behaviour

namespace Store.Allows

variable {Γ : Scopes} {α β : Type} {s : Store Unit Γ} {U V : Handles Γ} {n : Nat}

theorem mono (hs : s.Allows U n) (h : V ⊆ U) : s.Allows V n :=
  ⟨hs.short, fun _ h' hV => hs.atOnce h' (h hV)⟩

/-- On shorter texts all handles may be used at once. -/
theorem shorter (hs : s.Allows U (n + 1)) : s.Allows V n :=
  ⟨fun _ h => (hs.short h).mono (Nat.le_succ n), fun _ h _ => hs.short h⟩

/-- What follows a parser ends: if the parser reads, then the text is shorter, and else the handles
that are used at once were allowed before. -/
theorem after (hs : s.Allows U n) {reads : Prop} (hV : ¬ reads → V ⊆ U) {b : Behaviour Unit β}
    (hb : ∀ m ≤ n, s.Allows V m → Ends (m + 1) b) {k : Nat} (hk : k ≤ n + 1)
    (hread : reads → k ≤ n) :
    Correspondence.ending.behaviours (shorterThan k) (shorterThan k) b b := by
  by_cases h : reads
  · cases n with
    | zero => exact Ends.zero k (hread h)
    | succ n => exact hb n (Nat.le_succ n) hs.shorter k (hread h)
  · exact hb n (Nat.le_refl n) (hs.mono (hV h)) k hk

/-- A parser hands over texts on which what follows it ends. -/
theorem handOver {depth : Nat} {E : Set (Store Unit Γ)} (hE : s ∈ E) {p : Parser Γ α}
    (hs : s.Allows U n) (hp : Ends (n + 1) (p.silently depth s)) {m : Nat} (hm : m ≤ n + 1) :
    ∃ k ≤ m,
      Correspondence.ending.behaviours (shorterThan m) (shorterThan k) (p.silently depth s)
        (p.silently depth s) ∧
      Correspondence.ending.behaviours (shorterThan k) (shorterThan k) (p.silently depth s)
        (p.silently depth s) ∧
      ∀ ⦃β : Type⦄ ⦃b : Behaviour Unit β⦄ ⦃V : Handles Γ⦄, {h | ¬ p.Reads depth E ∧ h ∈ V} ⊆ U →
        (∀ m ≤ n, s.Allows V m → Ends (m + 1) b) →
          Correspondence.ending.behaviours (shorterThan k) (shorterThan k) b b := by
  cases m with
  | zero => exact ⟨0, Nat.le_refl 0, nofun, nofun, nofun⟩
  | succ m =>
    by_cases reads : p.Reads depth E
    · refine ⟨m, Nat.le_succ m, ?_, hp m (Nat.le_of_succ_le hm), ?_⟩
      · intro t ht
        apply Correspondence.ending_and (hp (m + 1) hm t ht)
        intro cs hcs _ c hc
        exact Nat.lt_of_lt_of_le (reads c.1 s hE t cs hcs c.2 hc) (Nat.le_of_lt_succ ht)
      · intro β b V hV hb
        exact hs.after (absurd reads) hb (Nat.le_of_succ_le hm) fun _ => Nat.le_of_succ_le_succ hm
    · refine ⟨m + 1, Nat.le_refl _, hp _ hm, hp _ hm, ?_⟩
      intro β b V hV hb
      exact hs.after (fun _ h hh => hV ⟨reads, hh⟩) hb hm fun h => absurd h reads

/-- A definition that does not use itself at once ends, if it may be used within itself more often
than the text has characters. -/
theorem tied {depth : Nat} {E : Set (Store Unit Γ)} (hE : s ∈ E) {definition : Parser (β :: Γ) β}
    (own : ⟨_, .here⟩ ∉ definition.atOnce depth (inside depth definition E))
    (ih : ∀ s' ∈ inside depth definition E, ∀ n < depth,
      s'.Allows (definition.atOnce depth (inside depth definition E)) n →
        Ends (n + 1) (definition.silently depth s'))
    (hs : s.Allows {h | ⟨_, .outer h.2⟩ ∈ definition.atOnce depth (inside depth definition E)} n)
    {uses : Nat} (hn : n < uses) (huses : uses ≤ depth) :
    Ends (n + 1) (definition.tied depth s uses) := by
  -- One use fewer is left for the texts that the definition is used on within itself, and these are
  -- shorter by one character at least.
  induction uses generalizing n with
  | zero => omega
  | succ uses ihu =>
    apply ih (s.push (.alive (definition.tied depth s uses))) ⟨s, hE, uses, huses, rfl⟩ n
      (Nat.lt_of_lt_of_le hn huses)
    constructor
    · intro γ h
      cases h with
      | here =>
        cases n with
        | zero => exact Ends.zero
        | succ n => exact ihu hs.shorter (Nat.lt_of_succ_lt_succ hn) (Nat.le_of_succ_le huses)
      | outer h => exact hs.short h
    · intro γ h hU
      cases h with
      | here => exact absurd hU own
      | outer h => exact hs.atOnce h hU

/-- A parser that depends on a result ends, if it ends behind those results that something was read
for and uses no more handles behind the others. -/
theorem bind {depth : Nat} {E : Set (Store Unit Γ)} (hE : s ∈ E) {p : Parser Γ α}
    (hs : s.Allows U n) (hp : Ends (n + 1) (p.silently depth s)) {next : α → Behaviour Unit β}
    {V : α → Handles Γ} (hV : ∀ a, ¬ p.ReadsFor depth E a → V a ⊆ U)
    (hnext : ∀ a, ∀ m ≤ n, s.Allows (V a) m → Ends (m + 1) (next a)) :
    Ends (n + 1) ((p.silently depth s).bind next) := by
  intro m hm t ht
  have first := hp m hm t ht
  apply Correspondence.ending.bind
    (Correspondence.ending_and first fun cs hcs leaves => And.intro leaves hcs)
  rintro cs ⟨leaves, hcs⟩
  apply Correspondence.fromEach
  intro c hc
  have length : t.length < m := ht
  by_cases reads : p.ReadsFor depth E c.1
  · have shorter : c.2.length < t.length := reads s hE t cs hcs c.2 hc
    have behind := hs.after (hV c.1) (hnext c.1) (k := t.length) (by omega) fun _ => by omega
    apply Correspondence.ending.mono _ (behind c.2 shorter)
    exact fun _ hl e he => shorterThan_mono length.le (hl e he)
  · exact hs.after (hV c.1) (hnext c.1) hm (fun h => absurd h reads) c.2 (leaves c hc)

/-- The handles around a parser for which a definition was made. -/
theorem define {depth : Nat} {E : Set (Store Unit Γ)} {state : Lifetime}
    {definition : Parser (β :: Γ) β} {body : Parser (β :: Γ) α}
    (hs : s.Allows ((Parser.define state definition body).atOnce depth E) n)
    (ends : ∀ m ≤ n,
      s.Allows {h | ⟨_, .outer h.2⟩ ∈ definition.atOnce depth (inside depth definition E)} m →
        Ends (m + 1) (definition.tied depth s depth)) :
    (s.push (state.cell (definition.tied depth s depth))).Allows
      (body.atOnce depth (around depth state definition E)) n := by
  constructor
  · intro γ h
    cases h with
    | here =>
      cases n with
      | zero => exact Ends.zero
      | succ n => exact (ends n (Nat.le_succ n) hs.shorter).cell state
    | outer h => exact hs.short h
  · intro γ h hU
    cases h with
    | here => exact (ends n (Nat.le_refl n) (hs.mono fun _ hh => .inr ⟨hU, hh⟩)).cell state
    | outer h => exact hs.atOnce h (.inl hU)

end Store.Allows

namespace Parser

open Correspondence

variable {Γ : Scopes} {α : Type} {depth : Nat}

/-- A guarded parser ends on a text on which the handles end that it can use at once, if the others
do so on shorter texts. -/
theorem GuardedIn.ends {p : Parser Γ α} {E : Set (Store Unit Γ)} (hg : p.GuardedIn depth E)
    (hp : p.Customs Shortens) {s : Store Unit Γ} (hE : s ∈ E) {n : Nat} (hn : n < depth)
    (hs : s.Allows (p.atOnce depth E) n) : Ends (n + 1) (p.silently depth s) := by
  -- The length of the text is general: what stands behind a parser that reads has less to read, and
  -- there every handle may be used.
  induction p generalizing n with
  | pure | empty | raise | endOfText | item | grapheme | literal | pattern | custom =>
    intro m _
    have hS := suffixClosed_shorterThan m
    exact Primitive.corresponds (hp.mono fun _ _ hf => hf.stays hS) hS s s trivial
  | tryMap _ f ih => exact fun m hm => (ih hg hp hE hn hs m hm).tryMap f
  | tryFilter _ keep ih => exact fun m hm => (ih hg hp hE hn hs m hm).tryFilter keep
  | optional _ ih => exact fun m hm => (ih hg hp hE hn hs m hm).optional
  | many _ ih => exact fun m hm => (ih hg hp hE hn hs m hm).many
  | some _ ih =>
    exact fun m hm => (ih hg hp hE hn hs m hm).some (ih hg hp hE hn hs m hm)
  | token _ ih =>
    exact fun m hm => (ih hg hp hE hn hs m hm).token ((suffixClosed_shorterThan m).pattern .blanks)
  | debug mark _ ih =>
    exact fun m hm => (ih hg hp hE hn hs m hm).debug (fun _ => ending.pure trivial)
      (fun _ => ending.pure trivial)
  | union _ _ ih₁ ih₂ =>
    intro m hm
    have first := ih₁ hg.1 hp.1 hE hn (hs.mono Set.subset_union_left) m hm
    exact first.union (ih₂ hg.2 hp.2 hE hn (hs.mono Set.subset_union_right) m hm)
  | committed _ _ ih₁ ih₂ =>
    intro m hm
    have first := ih₁ hg.1 hp.1 hE hn (hs.mono Set.subset_union_left) m hm
    exact first.committed (ih₂ hg.2 hp.2 hE hn (hs.mono Set.subset_union_right) m hm)
  | orElse _ _ ih₁ ih₂ =>
    intro m hm
    have first := ih₁ hg.1 hp.1 hE hn (hs.mono Set.subset_union_left) m hm
    exact first.orElse (ih₂ hg.2 hp.2 hE hn (hs.mono Set.subset_union_right) m hm)
  | bind p next ih ihn =>
    apply hs.bind hE (ih hg.1 hp.1 hE hn (hs.mono Set.subset_union_left))
      (fun a reads _ hh => .inr ⟨a, reads, hh⟩)
    exact fun a m hm => ihn a (hg.2 a) (hp.2 a) hE (Nat.lt_of_le_of_lt hm hn)
  | separatedByAtLeastOne p q ih₁ ih₂ =>
    intro m hm
    obtain ⟨k, hk, first, again, behind⟩ :=
      hs.handOver hE (ih₁ hg.1 hp.1 hE hn (hs.mono Set.subset_union_left)) hm
    have separators := behind Set.subset_union_right fun _ hl => ih₂ hg.2 hp.2 hE (by omega)
    exact (first.separatedByAtLeastOne again separators).widen (shorterThan_mono hk)
  | separatedBy p q ih₁ ih₂ =>
    intro m hm
    obtain ⟨k, hk, first, again, behind⟩ :=
      hs.handOver hE (ih₁ hg.1 hp.1 hE hn (hs.mono Set.subset_union_left)) hm
    have separators := behind Set.subset_union_right fun _ hl => ih₂ hg.2 hp.2 hE (by omega)
    exact first.separatedBy again separators (shorterThan_mono hk)
  | chain p q ih₁ ih₂ =>
    intro m hm
    obtain ⟨k, hk, first, again, behind⟩ :=
      hs.handOver hE (ih₁ hg.1 hp.1 hE hn (hs.mono Set.subset_union_left)) hm
    have operators := behind Set.subset_union_right fun _ hl => ih₂ hg.2 hp.2 hE (by omega)
    exact (first.chain again operators).widen (shorterThan_mono hk)
  | «then» p q ih₁ ih₂ =>
    intro m hm
    obtain ⟨k, hk, first, -, behind⟩ :=
      hs.handOver hE (ih₁ hg.1 hp.1 hE hn (hs.mono Set.subset_union_left)) hm
    have second := behind Set.subset_union_right fun _ hl => ih₂ hg.2 hp.2 hE (by omega)
    exact (first.then second).widen (shorterThan_mono hk)
  | ap p q ih₁ ih₂ =>
    intro m hm
    obtain ⟨k, hk, first, -, behind⟩ :=
      hs.handOver hE (ih₁ hg.1 hp.1 hE hn (hs.mono Set.subset_union_left)) hm
    have second := behind Set.subset_union_right fun _ hl => ih₂ hg.2 hp.2 hE (by omega)
    exact (first.ap second).widen (shorterThan_mono hk)
  | handle h => exact hs.atOnce h rfl
  | define state definition body ih₁ ih₂ =>
    obtain ⟨own, hd, hb⟩ := hg
    apply ih₂ hb hp.2 ⟨s, hE, rfl⟩ hn
    apply hs.define
    intro m hm hs
    exact hs.tied hE own (fun s' hs' n hn => ih₁ hd hp.1 hs' hn) (Nat.lt_of_le_of_lt hm hn)
      (Nat.le_refl depth)

end Parser

end Backtrack
