import Backtrack.Calculator.Grammar
import Backtrack.Parser.Apply
import Backtrack.Proofs.Guarded

/-!
# Determinism

A class of parsers, closed under most combinators, that have at most one candidate on every
text: `deterministic_has_one_candidate`. A repetition, a chain and a list with separators are
ambiguous in their first item only, and have as many candidates as it has.
-/

namespace Backtrack

variable {σ α β γ : Type}

/-! ## What the result of a run satisfies -/

/-- If the run has a result, it satisfies the predicate. -/
def Run.Ensures (P : α → Prop) (r : Run σ α) : Prop :=
  ∀ state a state', r.outcome state = (.ok a, state') → P a

namespace Run.Ensures

variable {P : α → Prop} {Q : β → Prop} {r : Run σ α}

theorem pure {a : α} (h : P a) : (Pure.pure a : Run σ α).Ensures P := by
  rintro _ _ _ ⟨⟩
  exact h

theorem halt (e : Halt) : (Run.halt e : Run σ α).Ensures P := nofun

theorem bind {next : α → Run σ β} (h : r.Ensures P) (hn : ∀ a, P a → (next a).Ensures Q) :
    (r >>= next).Ensures Q := by
  intro state b state₂ hb
  obtain ⟨a, state₁, ha, hb⟩ := Run.outcome_bind_eq_ok hb
  exact hn a (h state a state₁ ha) state₁ b state₂ hb

theorem of_any (r : Run σ α) : r.Ensures fun _ => True := fun _ _ _ _ => trivial

/-- What comes after a run of which nothing is known. -/
theorem after (r : Run σ α) {next : α → Run σ β} (hn : ∀ a, (next a).Ensures Q) :
    (r >>= next).Ensures Q :=
  (of_any r).bind fun a _ => hn a

end Run.Ensures

open Run

/-! ## The number of candidates -/

/-- Functions on results change no number of candidates. -/
theorem length_mapEach (f : α → Attempt β) (cs : Candidates α) :
    (mapEach f cs : Run σ _).Ensures fun ds => ds.length = cs.length := by
  induction cs with
  | nil => exact .pure rfl
  | cons c cs ih =>
    refine .after _ fun b => ?_
    refine ih.bind fun ds hds => ?_
    refine .pure ?_
    rw [List.length_cons, List.length_cons, hds]

theorem length_filterEach (keep : α → Attempt Bool) (cs : Candidates α) :
    (filterEach keep cs : Run σ _).Ensures fun ds => ds.length ≤ cs.length := by
  induction cs with
  | nil => exact .pure (Nat.le_refl 0)
  | cons c cs ih =>
    refine .after _ fun kept => ?_
    refine ih.bind fun ds hds => ?_
    refine .pure ?_
    rw [List.length_cons]
    split
    · exact Nat.succ_le_succ hds
    · exact Nat.le_succ_of_le hds

/-- One run for each candidate gives as many results. -/
theorem length_mapM (f : α × Text → Run σ β) (cs : Candidates α) :
    (cs.mapM f).Ensures fun ds => ds.length = cs.length := by
  induction cs with
  | nil => exact .pure rfl
  | cons c cs ih =>
    rw [List.mapM_cons]
    refine .after _ fun b => ?_
    refine ih.bind fun ds hds => ?_
    refine .pure ?_
    rw [List.length_cons, List.length_cons, hds]

/-- Going on from one candidate, in one way, leaves one candidate. -/
theorem length_fromEach {next : α → Behaviour σ β} {cs : Candidates α} (h : cs.length ≤ 1)
    (hn : ∀ a rest, (next a rest).Ensures fun ds => ds.length ≤ 1) :
    (fromEach next cs).Ensures fun ds => ds.length ≤ 1 := by
  match cs with
  | [] => exact .pure (Nat.zero_le 1)
  | [(a, rest)] =>
    refine (hn a rest).bind fun here hhere => ?_
    refine .pure ?_
    rwa [List.append_nil]
  | _ :: _ :: _ => simp at h

namespace Behaviour

/-- The behaviour never has more than one candidate. -/
def AtMostOne (b : Behaviour σ α) : Prop := ∀ t, (b t).Ensures fun cs => cs.length ≤ 1

namespace AtMostOne

variable {b : Behaviour σ α} {c : Behaviour σ β}

theorem halt (e : Halt) : (Behaviour.halt e : Behaviour σ α).AtMostOne := fun _ => .halt e

theorem pure (value : α) : (Behaviour.pure value : Behaviour σ α).AtMostOne :=
  fun _ => .pure (Nat.le_refl 1)

theorem split (f : Text → Option (α × Text)) : (Behaviour.split f : Behaviour σ α).AtMostOne := by
  intro t
  refine .pure ?_
  cases f t with
  | none => exact Nat.zero_le 1
  | some c => exact Nat.le_refl 1

theorem tryMap (h : b.AtMostOne) (f : α → Attempt β) : (b.tryMap f).AtMostOne := by
  intro t
  refine (h t).bind fun cs hcs => ?_
  intro state ds state' hds
  exact (length_mapEach f cs state ds state' hds).trans_le hcs

theorem tryFilter (h : b.AtMostOne) (keep : α → Attempt Bool) : (b.tryFilter keep).AtMostOne := by
  intro t
  refine (h t).bind fun cs hcs => ?_
  intro state ds state' hds
  exact (length_filterEach keep cs state ds state' hds).trans hcs

theorem bind {next : α → Behaviour σ β} (h : b.AtMostOne) (hn : ∀ a, (next a).AtMostOne) :
    (b.bind next).AtMostOne :=
  fun t => (h t).bind fun _ hcs => length_fromEach hcs hn

theorem orElse {e : Behaviour σ α} (h : b.AtMostOne) (he : e.AtMostOne) :
    (b.orElse e).AtMostOne := by
  intro t
  refine (h t).bind fun found hfound => ?_
  cases found with
  | nil => exact he t
  | cons _ _ => exact .pure hfound

theorem committed (b e : Behaviour σ α) : (b.committed e).AtMostOne := by
  intro t
  refine .after _ fun found => ?_
  cases found with
  | nil => exact .after _ fun _ => .pure (List.length_take_le 1 _)
  | cons _ _ => exact .pure (List.length_take_le 1 _)

theorem many (b : Behaviour σ α) : b.many.AtMostOne :=
  fun _ => .after _ fun _ => .pure (Nat.le_refl 1)

theorem separatedBy (b : Behaviour σ α) (c : Behaviour σ β) : (b.separatedBy c).AtMostOne := by
  intro t
  refine .after _ fun found => ?_
  cases found with
  | nil => exact .pure (Nat.le_refl 1)
  | cons _ _ => exact .pure (List.length_take_le 1 _)

theorem «then» (h : b.AtMostOne) (hc : c.AtMostOne) : (b.then c).AtMostOne := by
  intro t
  refine (h t).bind fun cs hcs => ?_
  apply length_fromEach hcs
  intro a rest
  refine (hc rest).bind fun ds hds => ?_
  refine .pure ?_
  rwa [List.length_map]

theorem ap {f : Behaviour σ (α → Attempt β)} (h : f.AtMostOne) (hb : b.AtMostOne) :
    (f.ap b).AtMostOne := by
  intro t
  refine (h t).bind fun cs hcs => ?_
  apply length_fromEach hcs
  intro f rest
  exact hb.tryMap f rest

theorem token (h : b.AtMostOne) : b.token.AtMostOne := by
  intro t
  refine (h t).bind fun cs hcs => ?_
  apply length_fromEach hcs
  intro a rest
  refine .after _ fun found => ?_
  refine .pure ?_
  rw [List.length_map]
  exact List.length_take_le 1 found

theorem debug (d : Debugger σ) (mark : Mark) (h : b.AtMostOne) : (b.debug d mark).AtMostOne := by
  intro t
  refine .after _ fun _ => ?_
  refine (h t).bind fun found hfound => ?_
  refine .after _ fun _ => ?_
  exact .pure hfound

/-- A definition that has one candidate if its uses within itself have. -/
theorem unfold {f : Behaviour σ α → Behaviour σ α} (hf : ∀ b, b.AtMostOne → (f b).AtMostOne)
    (depth : Nat) : (unfold f depth).AtMostOne := by
  induction depth with
  | zero => exact halt .tooDeep
  | succ depth ih => exact hf _ ih

theorem cell (h : b.AtMostOne) (state : Lifetime) : (state.cell b).behaviour.AtMostOne := by
  cases state with
  | underConstruction => exact halt _
  | alive => exact h
  | dropped => exact halt _

end AtMostOne

/-- The behaviour has as many candidates as the one that it starts with. -/
def CountsAs (c : Behaviour σ β) (b : Behaviour σ α) : Prop :=
  ∀ t state cs state', (c t).outcome state = (.ok cs, state') →
    ∃ ds state₁, (b t).outcome state = (.ok ds, state₁) ∧ cs.length = ds.length

/-- Whatever comes after each candidate, as long as it leaves one result for it. -/
theorem CountsAs.of_mapM (b : Behaviour σ α) (f : α × Text → Run σ (β × Text)) :
    CountsAs (fun t => do (← b t).mapM f) b := by
  intro t state cs state' h
  obtain ⟨ds, state₁, hds, hcs⟩ := Run.outcome_bind_eq_ok h
  exact ⟨ds, state₁, hds, length_mapM f ds state₁ cs state' hcs⟩

theorem countsAs_followedByMany (b next : Behaviour σ α) : (b.followedByMany next).CountsAs b :=
  .of_mapM b _

theorem countsAs_chain (term : Behaviour σ α) (operator : Behaviour σ (α → α → Attempt α)) :
    (term.chain operator).CountsAs term :=
  .of_mapM term _

theorem CountsAs.atMostOne {b : Behaviour σ α} {c : Behaviour σ β} (h : c.CountsAs b)
    (hb : b.AtMostOne) : c.AtMostOne := by
  intro t state cs state' hcs
  obtain ⟨ds, state₁, hds, same⟩ := h t state cs state' hcs
  exact same.trans_le (hb t state ds state₁ hds)

end Behaviour

/-! ## The class -/

/-- The handles, and the one of the definition that is made. -/
def Handles.withSelf {Γ : Scopes} (H : Handles Γ) : Handles (β :: Γ) :=
  {h | match h with
    | ⟨_, .here⟩ => True
    | ⟨_, .outer g⟩ => ⟨_, g⟩ ∈ H}

namespace Parser

/-- The least class of parsers that is closed under the combinators that make no choice of their
own, where the handles of `H` are taken to be of the class. What comes after the first item of a
list or a chain, and what is committed to, may be any parser. -/
inductive Deterministic : {Γ : Scopes} → Handles Γ → {α : Type} → Parser Γ α → Prop
  | pure {Γ : Scopes} {H : Handles Γ} {α : Type} (value : α) : Deterministic H (pure value)
  | empty {Γ : Scopes} {H : Handles Γ} {α : Type} : Deterministic H (empty : Parser Γ α)
  | endOfText {Γ : Scopes} {H : Handles Γ} : Deterministic H endOfText
  | item {Γ : Scopes} {H : Handles Γ} : Deterministic H item
  | grapheme {Γ : Scopes} {H : Handles Γ} : Deterministic H grapheme
  | literal {Γ : Scopes} {H : Handles Γ} (text : Text) : Deterministic H (literal text)
  | pattern {Γ : Scopes} {H : Handles Γ} (p : Pattern) : Deterministic H (pattern p)
  | many {Γ : Scopes} {H : Handles Γ} {α : Type} (p : Parser Γ α) : Deterministic H p.many
  | separatedBy {Γ : Scopes} {H : Handles Γ} {α β : Type} (p : Parser Γ α) (q : Parser Γ β) :
    Deterministic H (p.separatedBy q)
  | committed {Γ : Scopes} {H : Handles Γ} {α : Type} (p q : Parser Γ α) :
    Deterministic H (p.committed q)
  | tryMap {Γ : Scopes} {H : Handles Γ} {α β : Type} {p : Parser Γ α} (hp : Deterministic H p)
    (f : α → Attempt β) : Deterministic H (p.tryMap f)
  | tryFilter {Γ : Scopes} {H : Handles Γ} {α : Type} {p : Parser Γ α} (hp : Deterministic H p)
    (keep : α → Attempt Bool) : Deterministic H (p.tryFilter keep)
  | token {Γ : Scopes} {H : Handles Γ} {α : Type} {p : Parser Γ α} (hp : Deterministic H p) :
    Deterministic H p.token
  | debug {Γ : Scopes} {H : Handles Γ} {α : Type} (mark : Mark) {p : Parser Γ α}
    (hp : Deterministic H p) : Deterministic H (debug mark p)
  | «then» {Γ : Scopes} {H : Handles Γ} {α β : Type} {p : Parser Γ α} {q : Parser Γ β}
    (hp : Deterministic H p) (hq : Deterministic H q) : Deterministic H (p.then q)
  | ap {Γ : Scopes} {H : Handles Γ} {α β : Type} {p : Parser Γ (α → Attempt β)} {q : Parser Γ α}
    (hp : Deterministic H p) (hq : Deterministic H q) : Deterministic H (p.ap q)
  | orElse {Γ : Scopes} {H : Handles Γ} {α : Type} {p q : Parser Γ α} (hp : Deterministic H p)
    (hq : Deterministic H q) : Deterministic H (p.orElse q)
  | bind {Γ : Scopes} {H : Handles Γ} {α β : Type} {p : Parser Γ α} {next : α → Parser Γ β}
    (hp : Deterministic H p) (hn : ∀ a, Deterministic H (next a)) : Deterministic H (p.bind next)
  | some {Γ : Scopes} {H : Handles Γ} {α : Type} {p : Parser Γ α} (hp : Deterministic H p) :
    Deterministic H p.some
  | separatedByAtLeastOne {Γ : Scopes} {H : Handles Γ} {α β : Type} {p : Parser Γ α}
    (hp : Deterministic H p) (q : Parser Γ β) : Deterministic H (p.separatedByAtLeastOne q)
  | chain {Γ : Scopes} {H : Handles Γ} {α : Type} {p : Parser Γ α} (hp : Deterministic H p)
    (q : Parser Γ (α → α → Attempt α)) : Deterministic H (p.chain q)
  | handle {Γ : Scopes} {H : Handles Γ} {α : Type} {h : Handle Γ α} (hh : ⟨α, h⟩ ∈ H) :
    Deterministic H (handle h)
  | define {Γ : Scopes} {H : Handles Γ} {α β : Type} (state : Lifetime)
    {definition : Parser (β :: Γ) β} {body : Parser (β :: Γ) α}
    (hd : Deterministic H.withSelf definition) (hb : Deterministic H.withSelf body) :
    Deterministic H (define state definition body)

namespace Deterministic

variable {Γ : Scopes} {H : Handles Γ} {p : Parser Γ α} {q : Parser Γ β} {r : Parser Γ γ}

theorem map (hp : p.Deterministic H) (f : α → β) : (p.map f).Deterministic H := hp.tryMap _

theorem filter (hp : p.Deterministic H) (keep : α → Bool) : (p.filter keep).Deterministic H :=
  hp.tryFilter _

theorem satisfy (keep : Char → Bool) : (satisfy keep : Parser Γ Char).Deterministic H :=
  item.filter keep

theorem oneOf (chars : Text) : (oneOf chars : Parser Γ Char).Deterministic H := satisfy _

theorem blanks : (blanks : Parser Γ Text).Deterministic H := pattern _

theorem symbol (text : Text) : (symbol text : Parser Γ Text).Deterministic H := (literal text).token

theorem replace (hp : p.Deterministic H) (value : β) : (p.replace value).Deterministic H := hp.map _

theorem ignored (hp : p.Deterministic H) : p.ignored.Deterministic H := hp.replace ()

theorem collect {p : Parser Γ (List α)} (hp : p.Deterministic H) (f : List α → β) :
    (p.collect f).Deterministic H :=
  hp.map f

theorem chainSeeded (p : Parser Γ α) (op : Parser Γ (α → α → Attempt α)) (seed : α) :
    (p.chainSeeded op seed).Deterministic H :=
  committed _ _

theorem ignoreThen (hp : p.Deterministic H) (hq : q.Deterministic H) :
    (p.ignoreThen q).Deterministic H :=
  hp.bind fun _ => hq

theorem thenIgnore (hp : p.Deterministic H) (hq : q.Deterministic H) :
    (p.thenIgnore q).Deterministic H :=
  (hp.then hq).map _

theorem delimitedBy (hp : p.Deterministic H) (hq : q.Deterministic H) (hr : r.Deterministic H) :
    (p.delimitedBy q r).Deterministic H :=
  (hq.ignoreThen hp).thenIgnore hr

theorem self : (self : Parser (α :: Γ) α).Deterministic H.withSelf := handle trivial

theorem recursive {definition : Parser (α :: Γ) α} (h : definition.Deterministic H.withSelf) :
    (recursive definition).Deterministic H :=
  define .alive h h

end Deterministic

end Parser

/-- The handles of `H` have at most one candidate in the store. -/
def Store.AtMostOne {Γ : Scopes} (H : Handles Γ) (s : Store σ Γ) : Prop :=
  ∀ ⦃α : Type⦄ (h : Handle Γ α), ⟨α, h⟩ ∈ H → (s h).behaviour.AtMostOne

theorem Store.AtMostOne.push {Γ : Scopes} {H : Handles Γ} {s : Store σ Γ} {c : Cell σ β}
    (hs : s.AtMostOne H) (hc : c.behaviour.AtMostOne) : (s.push c).AtMostOne H.withSelf := by
  intro α h hh
  cases h with
  | here => exact hc
  | outer g => exact hs g hh

theorem Store.empty_atMostOne : (Store.empty : Store σ []).AtMostOne ∅ := nofun

namespace Parser

/-- The induction is on how the parser is made. A definition has one candidate if it has one with
its own handle, whose uses are fewer. -/
theorem Deterministic.atMostOne {Γ : Scopes} {H : Handles Γ} {p : Parser Γ α}
    (hp : p.Deterministic H) (d : Debugger σ) (depth : Nat) {s : Store σ Γ} (hs : s.AtMostOne H) :
    (p.behaviour d depth s).AtMostOne := by
  induction hp with
  | pure value => exact .pure value
  | empty | endOfText | item | grapheme | literal | pattern => exact .split _
  | many p => exact .many _
  | separatedBy p q => exact .separatedBy _ _
  | committed p q => exact .committed _ _
  | tryMap _ f ih => exact (ih hs).tryMap f
  | tryFilter _ keep ih => exact (ih hs).tryFilter keep
  | token _ ih => exact (ih hs).token
  | debug mark _ ih => exact (ih hs).debug d mark
  | «then» _ _ ih₁ ih₂ => exact (ih₁ hs).then (ih₂ hs)
  | ap _ _ ih₁ ih₂ => exact (ih₁ hs).ap (ih₂ hs)
  | orElse _ _ ih₁ ih₂ => exact (ih₁ hs).orElse (ih₂ hs)
  | bind _ _ ih ihn => exact (ih hs).bind fun a => ihn a hs
  | some _ ih => exact (Behaviour.countsAs_followedByMany _ _).atMostOne (ih hs)
  | separatedByAtLeastOne _ _ ih => exact (Behaviour.countsAs_followedByMany _ _).atMostOne (ih hs)
  | chain _ _ ih => exact (Behaviour.countsAs_chain _ _).atMostOne (ih hs)
  | handle hh => exact hs _ hh
  | define state _ _ ih₁ ih₂ =>
    apply ih₂
    apply hs.push
    apply Behaviour.AtMostOne.cell
    apply Behaviour.AtMostOne.unfold
    intro b hb
    exact ih₁ (hs.push hb)

end Parser

/-! ## Ambiguity -/

/-- One candidate is not ambiguous. -/
theorem verdict_ne_ambiguous {cs : Candidates α} (h : cs.length ≤ 1) (n : Nat) :
    verdict cs ≠ .error (.ambiguous n) := by
  match cs with
  | [] => exact nofun
  | [(a, [])] => exact nofun
  | [(a, c :: rest)] => exact nofun
  | _ :: _ :: _ => simp at h

theorem Behaviour.AtMostOne.applyWith {p : Parser [] α} {d : Debugger σ}
    (h : ∀ depth, (p.behaviour d depth .empty).AtMostOne) (t : Text) :
    (p.applyWith d t).Ensures fun cs => cs.length ≤ 1 := by
  refine (split _ t).bind fun cs hcs => ?_
  exact length_fromEach hcs fun _ => h (Parser.depthFor t)

theorem Parser.parse_ne_ambiguous {p : Parser [] α}
    (h : ∀ depth, (p.behaviour .silent depth .empty).AtMostOne) (t : Text) (n : Nat) :
    p.parse t ≠ .ok (.error (.ambiguous n)) := by
  rw [parse]
  cases hcs : p.apply t with
  | error e => exact nofun
  | ok cs =>
    intro ambiguous
    have single := Behaviour.AtMostOne.applyWith h t () cs () (Prod.ext hcs rfl)
    exact verdict_ne_ambiguous single n (Except.ok.inj ambiguous)

end Backtrack

open Backtrack.Parser

namespace Backtrack.Calculator

variable {Γ : Scopes} {H : Handles Γ} {ν : Type} (number : Text → ν)

theorem identifier_deterministic : (identifier : Parser Γ Text).Deterministic H :=
  ((Deterministic.pattern _).filter _).token

theorem unary_deterministic {sum : Handle Γ (Expr ν)} (h : ⟨_, sum⟩ ∈ H) :
    (unary number sum).Deterministic H := by
  have numeral : (numeral number : Parser (Expr ν :: Γ) _).Deterministic H.withSelf :=
    ((Deterministic.pattern _).map _).token
  have inner : (Parser.handle sum.outer).Deterministic (H.withSelf (β := Expr ν)) := .handle h
  have parenthesized := inner.delimitedBy (.symbol "(".toList) (.symbol ")".toList)
  have atom := ((numeral.orElse parenthesized).orElse (identifier_deterministic.map .name)).debug
    atomMark
  exact .recursive ((((Deterministic.symbol _).ignoreThen .self).map _).orElse atom)

/-- The operators are given by a union, but only the first operand counts. -/
theorem sum_deterministic : (sum number : Parser Γ (Expr ν)).Deterministic H := by
  have operand : (unary number .here).Deterministic (H.withSelf (β := Expr ν)) :=
    unary_deterministic number trivial
  exact .recursive ((operand.chain _).chain _)

theorem grammar_deterministic : (grammar number : Parser Γ (Expr ν)).Deterministic H := by
  have named := ((Deterministic.pattern Lexeme.letWord).token.ignoreThen
    (identifier_deterministic (H := H.withSelf (β := Expr ν)))).thenIgnore (.symbol "=".toList)
  have bound := (named.then (sum_deterministic number)).thenIgnore (.symbol ";".toList)
  exact .recursive ((((bound.then .self).map _).orElse (sum_deterministic number)).debug declMark)

end Backtrack.Calculator

namespace Backtrack

/-- **The parsers of the class are deterministic.** They have at most one candidate on every text,
so that parsing is never ambiguous. Of any parser, a list of one or more items, with separators or
without, and a chain have as many candidates as the parser itself. The grammar of the calculator is
in the class. -/
theorem deterministic_has_one_candidate :
    (∀ (α : Type) (p : Parser [] α), p.Deterministic ∅ →
      (∀ t cs, p.run t = .ok cs → cs.length ≤ 1) ∧
      (∀ t n, p.parse t ≠ .ok (.error (.ambiguous n))) ∧
      ∀ (σ : Type) (d : Debugger σ) (t : Text),
        (∀ depth, (p.behaviour d depth .empty t).Ensures fun cs => cs.length ≤ 1) ∧
        (p.applyWith d t).Ensures fun cs => cs.length ≤ 1) ∧
    (∀ (σ : Type) (d : Debugger σ) (depth : Nat) (Γ : Scopes) (s : Store σ Γ) (α : Type)
      (p : Parser Γ α),
      (p.some.behaviour d depth s).CountsAs (p.behaviour d depth s) ∧
      (∀ op, ((p.chain op).behaviour d depth s).CountsAs (p.behaviour d depth s)) ∧
      ∀ (β : Type) (q : Parser Γ β),
        ((p.separatedByAtLeastOne q).behaviour d depth s).CountsAs (p.behaviour d depth s)) ∧
    ∀ (ν : Type) (number : Text → ν),
      (Calculator.grammar number : Parser [] _).Deterministic ∅ := by
  refine ⟨?_, ?_, fun ν number => Calculator.grammar_deterministic number⟩
  · intro α p hp
    have single {σ : Type} (d : Debugger σ) (depth : Nat) :
        (p.behaviour d depth .empty).AtMostOne := hp.atMostOne d depth Store.empty_atMostOne
    refine ⟨?_, Parser.parse_ne_ambiguous (single .silent), ?_⟩
    · intro t cs h
      exact single .silent _ t () cs () (Prod.ext h rfl)
    · intro σ d t
      exact ⟨fun depth => single d depth t, Behaviour.AtMostOne.applyWith (single d) t⟩
  · intro σ d depth Γ s α p
    exact ⟨Behaviour.countsAs_followedByMany _ _, fun _ => Behaviour.countsAs_chain _ _,
      fun _ _ => Behaviour.countsAs_followedByMany _ _⟩

/-- A letter, which is read in two ways of which one is kept, behind parentheses. -/
def opened : Parser [] Text :=
  .recursive (((Parser.literal ['(']).ignoreThen .self).orElse
    (((Parser.literal ['a']).union (.literal ['a'])).committed .empty))

theorem deterministic_has_one_candidate_opened :
    opened.Deterministic ∅ ∧ opened.run ['(', '(', 'a'] = .ok [(['a'], [])] ∧
      [(['a'], ([] : Text))].length ≤ 1 := by
  have single : opened.Deterministic ∅ :=
    .recursive (((Parser.Deterministic.literal _).ignoreThen .self).orElse (.committed _ _))
  have ran : opened.run ['(', '(', 'a'] = .ok [(['a'], [])] := rfl
  exact ⟨single, ran, (deterministic_has_one_candidate.1 _ opened single).1 _ _ ran⟩

end Backtrack
