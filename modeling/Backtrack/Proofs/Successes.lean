import Backtrack.Parser.Apply
import Backtrack.Proofs.Derivation
import Backtrack.Proofs.Listing
import Backtrack.Proofs.Parametricity
import Mathlib.Data.Fintype.EquivFin

/-!
# Lists of successes

An exhaustive parser has one candidate for each derivation, in the order of their choices:
`candidates_are_derivations`. None is lost, invented, merged or moved, also where a grammar
is ambiguous or refers to itself.
-/

namespace Backtrack

/-- The parser tries every alternative: no part of it is cut down to its first candidate, and none
depends on the failure of another one. -/
def Parser.Exhaustive : {Γ : Scopes} → {α : Type} → Parser Γ α → Prop
  | _, _, pure _ | _, _, empty | _, _, raise _ | _, _, endOfText | _, _, item => True
  | _, _, grapheme | _, _, literal _ | _, _, pattern _ | _, _, custom _ | _, _, handle _ => True
  | _, _, tryMap p _ | _, _, tryFilter p _ | _, _, optional p => p.Exhaustive
  | _, _, token p | _, _, debug _ p => p.Exhaustive
  | _, _, bind p next => p.Exhaustive ∧ ∀ a, (next a).Exhaustive
  | _, _, union p q | _, _, .then p q | _, _, ap p q => p.Exhaustive ∧ q.Exhaustive
  | _, _, define _ definition body => definition.Exhaustive ∧ body.Exhaustive
  | _, _, committed _ _ | _, _, orElse _ _ | _, _, many _ | _, _, some _ => False
  | _, _, separatedByAtLeastOne _ _ | _, _, separatedBy _ _ | _, _, chain _ _ => False

/-- The candidates of the run are those of all readings of the parser on the text. -/
abbrev ListsReadings {σ α : Type} {Γ : Scopes} (r : Run σ (Candidates α)) (D : Definitions Γ)
    (p : Parser Γ α) (t : Text) : Prop :=
  Lists r (Reading.candidate : Reading D p t → _) Reading.choices

/-- Each handle lists the readings of its definition. -/
def Store.Follows {σ : Type} {Γ : Scopes} (s : Store σ Γ) (D : Definitions Γ) : Prop :=
  ∀ ⦃α : Type⦄ (h : Handle Γ α) (t : Text), ListsReadings ((s h).behaviour t) D (.handle h) t

theorem Store.Follows.push {σ : Type} {Γ : Scopes} {β : Type} {s : Store σ Γ} {D : Definitions Γ}
    (hs : s.Follows D) (state : Lifetime) {definition : Parser (β :: Γ) β} {b : Behaviour σ β}
    (hb : ∀ t, ListsReadings (b t) (D.with .alive definition) definition t) :
    (s.push (state.cell b)).Follows (D.with state definition) := by
  intro α h t
  cases h with
  | here =>
    cases state with
    | underConstruction => exact Lists.halt _
    | alive =>
      exact (hb t).image (fun y => ⟨_, _, .here y.derivation⟩) (fun _ => rfl) (fun _ => rfl)
        fun x => x.made
    | dropped => exact Lists.halt _
  | outer h =>
    exact (hs h t).image (fun y => ⟨_, _, .outer y.derivation⟩) (fun _ => rfl) (fun _ => rfl)
      fun x => x.made

namespace Parser

variable {σ : Type} {d : Debugger σ} {depth : Nat} {Γ : Scopes} {α : Type} {D : Definitions Γ}

theorem listsReadings_custom (f : Text → Attempt (Candidates α)) (t : Text) :
    ListsReadings (Behaviour.custom f t : Run σ _) D (custom f) t := by
  rw [Behaviour.custom]
  cases h : f t with
  | error e => exact Lists.halt _
  | ok cs =>
    refine (Lists.given cs).image
      (fun i => ⟨(cs.get i).1, (cs.get i).2, .custom h i (List.getElem?_eq_getElem i.2)⟩)
      (fun _ => rfl) (fun _ => rfl) fun x => ?_
    obtain ⟨a, rest, cs', h', i, hi, rfl⟩ := x.made
    cases h.symm.trans h'
    obtain ⟨hlt, hc⟩ := List.getElem?_eq_some_iff.mp hi
    obtain rfl : a = cs[i].1 := by rw [hc]
    obtain rfl : rest = cs[i].2 := by rw [hc]
    exact ⟨⟨i, hlt⟩, rfl⟩

/-- A parser that is not made of others has one reading at most, but for a custom one. -/
theorem Primitive.listsReadings {p : Parser Γ α} (h : p.Primitive) (s : Store σ Γ) (t : Text) :
    ListsReadings (p.behaviour d depth s t) D p t := by
  cases p with
  | pure a =>
    refine (Lists.split (fun t => Option.some (a, t)) t).image (fun _ => ⟨a, t, .pure⟩) ?_
      (fun _ => rfl) fun x => ⟨⟨_, rfl⟩, x.made⟩
    rintro ⟨_, ⟨⟩⟩
    rfl
  | empty => exact (Lists.split _ t).image nofun nofun nofun fun x => x.made.elim
  | raise f => exact Lists.halt _
  | endOfText =>
    cases t with
    | nil =>
      refine (Lists.split _ []).image (fun _ => ⟨(), [], .endOfText rfl⟩) ?_ (fun _ => rfl)
        fun x => ?_
      · rintro ⟨_, ⟨⟩⟩
        rfl
      · obtain ⟨h, rfl⟩ := x.made
        exact ⟨⟨_, rfl⟩, rfl⟩
    | cons c t => exact (Lists.split _ (c :: t)).image nofun nofun nofun fun x => nomatch x.made
  | item =>
    cases t with
    | nil => exact (Lists.split _ []).image nofun nofun nofun fun x => nomatch x.made
    | cons c t =>
      refine (Lists.split _ (c :: t)).image (fun _ => ⟨c, t, .item rfl⟩) ?_ (fun _ => rfl)
        fun x => ?_
      · rintro ⟨_, ⟨⟩⟩
        rfl
      · obtain ⟨_, _, ⟨⟩, rfl⟩ := x.made
        exact ⟨⟨_, rfl⟩, rfl⟩
  | grapheme =>
    refine (Lists.split _ t).image (fun y => ⟨_, _, .grapheme y.2⟩) (fun _ => rfl) (fun _ => rfl)
      fun x => ?_
    obtain ⟨g, rest, h, rfl⟩ := x.made
    exact ⟨⟨_, h⟩, rfl⟩
  | literal text =>
    have cut (y : Text × Text) (h : (stripStart text t).map (text, ·) = Option.some y) :
        y.1 = text ∧ t = text ++ y.2 := by
      obtain ⟨rest, hrest, rfl⟩ := Option.map_eq_some_iff.mp h
      exact ⟨rfl, (append_of_stripStart hrest).symm⟩
    refine (Lists.split _ t).image (fun y => ⟨text, y.1.2, .literal (cut y.1 y.2).2⟩)
      (fun y => Prod.ext (cut y.1 y.2).1.symm rfl) (fun _ => rfl) fun x => ?_
    obtain ⟨rest, rfl, rfl⟩ := x.made
    exact ⟨⟨(text, rest), by rw [stripStart_append]; rfl⟩, rfl⟩
  | pattern p =>
    refine (Lists.split _ t).image (fun y => ⟨_, _, .pattern y.2⟩) (fun _ => rfl) (fun _ => rfl)
      fun x => ?_
    obtain ⟨slice, rest, h, rfl⟩ := x.made
    exact ⟨⟨_, h⟩, rfl⟩
  | custom f => exact listsReadings_custom f t
  | _ => exact h.elim

/-- A definition lists its readings, if it does so as far as it lists those of its own handle. A run
that is cut short has no result, so the number of uses plays no part in what is listed. -/
theorem listsReadings_unfold {s : Store σ Γ} (hs : s.Follows D) {definition : Parser (α :: Γ) α}
    (ih : ∀ s' : Store σ (α :: Γ), s'.Follows (D.with .alive definition) → ∀ t,
      ListsReadings (definition.behaviour d depth s' t) (D.with .alive definition) definition t)
    (uses : Nat) (t : Text) :
    ListsReadings (unfold (fun b => definition.behaviour d depth (s.push (.alive b))) uses t)
      (D.with .alive definition) definition t := by
  induction uses generalizing t with
  | zero => exact Lists.halt _
  | succ uses ihu => exact ih _ (hs.push .alive ihu) t

/-- An exhaustive parser lists its readings, if the handles around it list theirs. -/
theorem Exhaustive.listsReadings {p : Parser Γ α} (hp : p.Exhaustive) {s : Store σ Γ}
    (hs : s.Follows D) (t : Text) : ListsReadings (p.behaviour d depth s t) D p t := by
  induction p generalizing t with
  | pure | empty | raise | endOfText | item | grapheme | literal | pattern | custom =>
    apply Primitive.listsReadings
    trivial
  | tryMap p f ih =>
    refine ((ih hp hs t).mapEach f).image (fun z => ⟨z.2.1, z.1.rest, .tryMap z.1.derivation z.2.2⟩)
      (fun _ => rfl) (fun _ => rfl) fun x => ?_
    obtain ⟨y, b, h, rfl⟩ := x.made
    exact ⟨⟨y, b, h⟩, rfl⟩
  | bind p next ih ihn =>
    refine (ih hp.1 hs t).fromEach (fun y => ihn y.value (hp.2 y.value) hs y.rest)
      (fun y z => ⟨z.value, z.rest, .bind y.derivation z.derivation⟩) (fun _ _ => rfl)
      (fun _ _ => rfl) fun x => ?_
    obtain ⟨y, z, rfl⟩ := x.made
    exact ⟨y, z, rfl⟩
  | union p q ih₁ ih₂ =>
    exact (ih₁ hp.1 hs t).append (ih₂ hp.2 hs t) (fun y => ⟨y.value, y.rest, .left y.derivation⟩)
      (fun y => ⟨y.value, y.rest, .right y.derivation⟩) (fun _ => rfl) (fun _ => rfl) (fun _ => rfl)
      (fun _ => rfl) fun x => x.made
  | tryFilter p keep ih =>
    refine ((ih hp hs t).filterEach keep).image
      (fun z => ⟨z.1.value, z.1.rest, .tryFilter z.1.derivation z.2⟩) (fun _ => rfl) (fun _ => rfl)
      fun x => ?_
    obtain ⟨y, h, rfl⟩ := x.made
    exact ⟨⟨y, h⟩, rfl⟩
  | optional p ih =>
    refine (ih hp hs t).optional.image
      (fun z => z.elim ⟨.none, t, .absent⟩ fun y => ⟨.some y.value, y.rest, .present y.derivation⟩)
      ?_ ?_ fun x => ?_
    · rintro (_ | y) <;> rfl
    · rintro (_ | y) <;> rfl
    · rcases x.made with ⟨y, rfl⟩ | rfl
      · exact ⟨.some y, rfl⟩
      · exact ⟨.none, rfl⟩
  | «then» p q ih₁ ih₂ =>
    refine (ih₁ hp.1 hs t).fromEach
      (fun y => (ih₂ hp.2 hs y.rest).map fun c => ((y.value, c.1), c.2))
      (fun y z => ⟨(y.value, z.value), z.rest, .then y.derivation z.derivation⟩) (fun _ _ => rfl)
      (fun _ _ => rfl) fun x => ?_
    obtain ⟨y, z, rfl⟩ := x.made
    exact ⟨y, z, rfl⟩
  | ap p q ih₁ ih₂ =>
    refine (ih₁ hp.1 hs t).fromEach (fun y => (ih₂ hp.2 hs y.rest).mapEach y.value)
      (fun y z => ⟨z.2.1, z.1.rest, .ap y.derivation z.1.derivation z.2.2⟩) (fun _ _ => rfl)
      (fun _ _ => rfl) fun x => ?_
    obtain ⟨y, z, b, h, rfl⟩ := x.made
    exact ⟨y, ⟨z, b, h⟩, rfl⟩
  | token p ih =>
    refine (ih hp hs t).fromEach (fun y => Lists.blanks y.value y.rest)
      (fun y z => ⟨y.value, z.1.2, .token y.derivation z.2⟩)
      (fun _ _ => rfl) (fun _ _ => (List.append_nil _).symm) fun x => ?_
    obtain ⟨y, skipped, rest, h, rfl⟩ := x.made
    exact ⟨y, ⟨_, h⟩, rfl⟩
  | debug mark p ih =>
    exact ((ih hp hs t).debug d mark).image (fun y => ⟨_, _, .debug y.derivation⟩) (fun _ => rfl)
      (fun _ => rfl) fun x => x.made
  | handle h => exact hs h t
  | define state definition body ih₁ ih₂ =>
    have tied := listsReadings_unfold hs (fun _ h t => ih₁ hp.1 h t) depth
    exact (ih₂ hp.2 (hs.push state tied) t).image (fun y => ⟨_, _, .define y.derivation⟩)
      (fun _ => rfl) (fun _ => rfl) fun x => x.made
  | committed | orElse | many | some | separatedByAtLeastOne | separatedBy | chain => exact hp.elim

end Parser

/-- The readings with one result and one rest are the derivations of these. -/
def Reading.withCandidate {Γ : Scopes} {α : Type} {D : Definitions Γ} {p : Parser Γ α} {t : Text}
    (a : α) (rest : Text) :
    {x : Reading D p t // (x.value, x.rest) = (a, rest)} ≃ Derivation D p t a rest where
  toFun
    | ⟨⟨_, _, derivation⟩, h⟩ => by cases h; exact derivation
  invFun derivation := ⟨⟨a, rest, derivation⟩, rfl⟩
  left_inv := by
    rintro ⟨⟨_, _, derivation⟩, ⟨⟩⟩
    rfl
  right_inv _ := rfl

/-- **One candidate for each derivation.** If a run of an exhaustive parser has a result, then its
candidates are numbered by the derivations on the text, in the lexicographic order of their
choices. So each candidate occurs as often as there are derivations of it. -/
theorem candidates_are_derivations {σ α : Type} {p : Parser [] α} (hp : p.Exhaustive)
    {d : Debugger σ} {depth : Nat} {t : Text} {state state' : σ} {cs : Candidates α}
    (h : (p.behaviour d depth .empty t).outcome state = (.ok cs, state')) :
    ∃ e : Fin cs.length ≃ Reading .none p t,
      (∀ i, cs.get i = ((e i).value, (e i).rest)) ∧
      (∀ i j, i < j ↔ List.Lex (· < ·) (e i).choices (e j).choices) ∧
      ∀ a rest,
        Nonempty ({i : Fin cs.length // cs.get i = (a, rest)} ≃ Derivation .none p t a rest) := by
  have empty : (Store.empty : Store σ []).Follows .none := nofun
  obtain ⟨e, candidates, order⟩ := (hp.listsReadings empty t).numbering h
  refine ⟨e, candidates, order, fun a rest => ⟨?_⟩⟩
  have same (i : Fin cs.length) : cs.get i = (a, rest) ↔ ((e i).value, (e i).rest) = (a, rest) := by
    rw [candidates i]
    rfl
  exact (e.subtypeEquiv same).trans (Reading.withCandidate a rest)

/-- A piece of one or two characters, with its length. -/
def piece {Γ : Scopes} : Parser Γ Nat :=
  ((Parser.literal ['a']).replace 1).union ((Parser.literal ['a', 'a']).replace 2)

/-- Any number of pieces, with the sum of their lengths. -/
def pieces : Parser [] Nat :=
  .recursive ((piece.bind fun n => Parser.self.map (n + ·)).union (.pure 0))

/-- Three pieces, or two in either order: the sum has three derivations, and it is there thrice. -/
theorem candidates_are_derivations_pieces :
    pieces.Exhaustive ∧
    (pieces.behaviour .silent 4 .empty ['a', 'a', 'a']).outcome () =
      (.ok [(3, []), (2, ['a']), (3, []), (1, ['a', 'a']), (3, []), (2, ['a']),
        (0, ['a', 'a', 'a'])], ()) ∧
    Nonempty (Fin 7 ≃ Reading .none pieces ['a', 'a', 'a']) ∧
    Nonempty (Fin 3 ≃ Derivation .none pieces ['a', 'a', 'a'] 3 []) := by
  have exhaustive : pieces.Exhaustive := by
    simp [pieces, piece, Parser.recursive, Parser.Exhaustive, Parser.replace, Parser.map,
      Parser.self]
  refine ⟨exhaustive, rfl, ?_⟩
  have run : (pieces.behaviour .silent 4 .empty ['a', 'a', 'a']).outcome () = (.ok [(3, []),
    (2, ['a']), (3, []), (1, ['a', 'a']), (3, []), (2, ['a']), (0, ['a', 'a', 'a'])], ()) := rfl
  obtain ⟨e, -, -, derivations⟩ := candidates_are_derivations exhaustive run
  obtain ⟨f⟩ := derivations 3 []
  exact ⟨⟨e⟩, ⟨(Fintype.equivFinOfCardEq (by decide)).symm.trans f⟩⟩

end Backtrack
