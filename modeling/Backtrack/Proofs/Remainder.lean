import Backtrack.Parser.Apply
import Backtrack.Proofs.Parametricity

/-!
# What is left to read

The candidates of a parser leave suffixes of its input, cut between two characters:
`remainder_is_suffix`. The functions given to parsers have to leave suffixes too; nothing
else is needed, however the parser is made.
-/

namespace Backtrack

/-- Runs that are equal, and whose results satisfy the predicate. -/
def Correspondence.equal (σ : Type) : Correspondence σ σ where
  runs P r r' := ∀ state, r'.outcome state = r.outcome state ∧
    ∀ a, (r.outcome state).1 = .ok a → P a
  pure hP state := by
    refine ⟨rfl, ?_⟩
    rintro _ ⟨⟩
    exact hP
  bind {α β P Q r r' next next'} hr hnext state := by
    obtain ⟨same, hP⟩ := hr state
    rcases h : r.outcome state with ⟨e | a, state'⟩
    · rw [Run.outcome_bind_of_error h, Run.outcome_bind_of_error (same.trans h)]
      exact ⟨rfl, nofun⟩
    · rw [Run.outcome_bind_of_ok h, Run.outcome_bind_of_ok (same.trans h)]
      exact hnext a (hP a (by rw [h])) state'
  fault f state := ⟨rfl, nofun⟩

namespace Correspondence

variable {σ : Type} {α : Type} {S : Set Text}

theorem equal_refl (r : Run σ α) : (equal σ).runs (fun _ => True) r r :=
  fun _ => ⟨rfl, fun _ _ => trivial⟩

theorem equal_debug {S' : Set Text} (d : Debugger σ) (mark : Mark) {b b' : Behaviour σ α}
    (h : (equal σ).behaviours S S' b b') :
    (equal σ).behaviours S S' (b.debug d mark) (b'.debug d mark) :=
  h.debug (fun _ => equal_refl _) (fun _ => equal_refl _)

theorem equal_halt (S S' : Set Text) (e : Halt) :
    (equal σ).behaviours S S' (.halt e : Behaviour σ α) (.halt e) :=
  fun _ _ _ => ⟨rfl, nofun⟩

theorem equal_fits (S : Set Text) (d : Debugger σ) (depth : Nat) :
    (equal σ).Fits S d d depth depth where
  debug := fun _ mark _ _ h => equal_debug d mark h
  unfold := fun _ _ _ hf => unfold_of_halt (equal_halt S S _) hf depth

end Correspondence

variable {σ α : Type}

/-- On a text of a set that is closed under suffixes, a parser leaves texts of the set. -/
theorem Parser.behaviour_leaves {S : Set Text} (hS : SuffixClosed S) (d : Debugger σ) (depth : Nat)
    {p : Parser [] α} (hp : p.Customs (Stays S)) {t : Text} (ht : t ∈ S) {state state' : σ}
    {cs : Candidates α} (h : (p.behaviour d depth .empty t).outcome state = (.ok cs, state')) :
    Leaves S cs := by
  have hr := behaviour_corresponds (Correspondence.equal_fits S d depth) hS hp
    (Store.empty_corresponds _ S) t ht state
  exact hr.2 cs (by rw [h])

theorem suffixClosed_suffixes (t : Text) : SuffixClosed {rest | rest <:+ t} :=
  fun _ ht _ hr => hr.trans ht

/-- The candidates of a parser leave suffixes of the text it was run on. -/
theorem Parser.behaviour_leaves_suffix (d : Debugger σ) (depth : Nat) {p : Parser [] α}
    (hp : p.Customs Shortens) {t : Text} {state state' : σ} {cs : Candidates α}
    (h : (p.behaviour d depth .empty t).outcome state = (.ok cs, state')) :
    Leaves {rest | rest <:+ t} cs := by
  have hS := suffixClosed_suffixes t
  exact behaviour_leaves hS d depth (hp.mono fun _ _ hf => hf.stays hS) (List.suffix_refl t) h

/-- So do the candidates of a parser that is applied to the text. -/
theorem Parser.applyWith_leaves_suffix (d : Debugger σ) {p : Parser [] α} (hp : p.Customs Shortens)
    {t : Text} {state state' : σ} {cs : Candidates α}
    (h : (p.applyWith d t).outcome state = (.ok cs, state')) : Leaves {rest | rest <:+ t} cs := by
  have hS := suffixClosed_suffixes t
  have blanks : (Correspondence.equal σ).behaviours {rest | rest <:+ t} {rest | rest <:+ t}
      Behaviour.blanks Behaviour.blanks := .split (hS.pattern .blanks)
  have whole := blanks.bind fun _ => behaviour_corresponds
    (Correspondence.equal_fits _ d (depthFor t)) hS (hp.mono fun _ _ hf => hf.stays hS)
    (Store.empty_corresponds _ _)
  exact (whole t (List.suffix_refl t) state).2 cs (congrArg Prod.fst h)

/-- A suffix is what a cut leaves. -/
theorem splitAtByte_of_suffix {t rest : Text} (h : rest <:+ t) :
    ∃ n start, splitAtByte n t = some (start, rest) := by
  obtain ⟨start, rfl⟩ := h
  exact ⟨_, start, splitAtByte_byteLength start rest⟩

/-- The parsers that cut a slice off the text, and the slice that a result of theirs stands for. -/
inductive Parser.Slices {Γ : Scopes} : {α : Type} → Parser Γ α → (α → Text) → Prop
  | item : Slices item fun c => [c]
  | grapheme : Slices grapheme id
  | literal (text : Text) : Slices (literal text) id
  | pattern (p : Pattern) : Slices (pattern p) id

/-- A parser that takes a slice leaves the rest of the text, and nothing else. -/
theorem Parser.Slices.append {d : Debugger σ} {depth : Nat} {Γ : Scopes} {p : Parser Γ α}
    {slice : α → Text} (hp : p.Slices slice) {s : Store σ Γ} {t : Text} {state state' : σ}
    {cs : Candidates α} (h : (p.behaviour d depth s t).outcome state = (.ok cs, state')) :
    ∀ c ∈ cs, slice c.1 ++ c.2 = t := by
  intro c hc
  cases hp with
  | item =>
    cases h
    cases t with
    | nil => cases hc
    | cons e t => cases List.mem_singleton.mp hc; rfl
  | grapheme =>
    cases h
    exact Grapheme.append_of_splitFirst (Option.mem_toList.mp hc)
  | literal text =>
    cases h
    obtain ⟨rest, hrest, rfl⟩ := Option.map_eq_some_iff.mp (Option.mem_toList.mp hc)
    exact append_of_stripStart hrest
  | pattern p =>
    cases h
    exact Pattern.append_of_split (Option.mem_toList.mp hc)

/-- **Nothing is lost and nothing is cut apart.** Every candidate leaves a suffix of the text that
begins at a character, whether the parser is run on the text or applied to it. A parser that
returns a slice, wherever it stands in another one, cuts the text at the end of the slice. -/
theorem remainder_is_suffix (d : Debugger σ) (depth : Nat) (p : Parser [] α)
    (hp : p.Customs Shortens) (t : Text) (state : σ) :
    (∀ cs state', (p.behaviour d depth .empty t).outcome state = (.ok cs, state') →
      ∀ c ∈ cs, ∃ n start, splitAtByte n t = some (start, c.2)) ∧
    (∀ cs state', (p.applyWith d t).outcome state = (.ok cs, state') →
      ∀ c ∈ cs, ∃ n start, splitAtByte n t = some (start, c.2)) ∧
    ∀ (Γ : Scopes) (β : Type) (q : Parser Γ β) (slice : β → Text), q.Slices slice →
      ∀ (s : Store σ Γ) (u : Text) cs state',
        (q.behaviour d depth s u).outcome state = (.ok cs, state') →
          ∀ c ∈ cs, splitAtByte (byteLength (slice c.1)) u = some (slice c.1, c.2) := by
  refine ⟨?_, ?_, ?_⟩
  · intro cs state' h c hc
    exact splitAtByte_of_suffix (p.behaviour_leaves_suffix d depth hp h c hc)
  · intro cs state' h c hc
    exact splitAtByte_of_suffix (p.applyWith_leaves_suffix d hp h c hc)
  · intro Γ β q slice hq s u cs state' h c hc
    exact splitAtByte_eq_some_iff.mpr ⟨hq.append h c hc, rfl⟩

/-- Reads one character, or two. -/
def oneOrTwo : Text → Attempt (Candidates Text)
  | [] => .ok []
  | [c] => .ok [([c], [])]
  | c :: d :: t => .ok [([c], d :: t), ([c, d], t)]

theorem oneOrTwo_shortens : Shortens oneOrTwo := by
  intro t cs h
  match t with
  | [] => cases h; exact .nil
  | [c] => cases h; exact Leaves.nil.cons (List.suffix_cons c [])
  | c :: d :: t =>
    cases h
    exact (Leaves.nil.cons (List.suffix_append [c, d] t)).cons (List.suffix_cons c (d :: t))

/-- One or two characters, and then the same again. -/
def doubled : Parser [] Text := (Parser.custom oneOrTwo).bind .literal

theorem remainder_is_suffix_doubled :
    doubled.Customs Shortens ∧
    (doubled.behaviour .silent 1 .empty ['é', 'é', 'é', 'é', '!']).outcome () =
      (.ok [(['é'], ['é', 'é', '!']), (['é', 'é'], ['!'])], ()) ∧
    (∃ n start, splitAtByte n ['é', 'é', 'é', 'é', '!'] = some (start, ['é', 'é', '!'])) ∧
    ∃ n start, splitAtByte n ['é', 'é', 'é', 'é', '!'] = some (start, ['!']) := by
  have lawful : doubled.Customs Shortens := ⟨oneOrTwo_shortens, fun _ => trivial⟩
  have cut := (remainder_is_suffix .silent 1 doubled lawful ['é', 'é', 'é', 'é', '!'] ()).1 _ () rfl
  exact ⟨lawful, rfl, cut _ List.mem_cons_self, cut _ (List.mem_cons_of_mem _ List.mem_cons_self)⟩

end Backtrack
