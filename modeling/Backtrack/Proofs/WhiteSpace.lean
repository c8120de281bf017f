import Backtrack.Proofs.EnoughDepth
import Backtrack.Proofs.Sequencing
import Mathlib.Data.List.Permutation
import Mathlib.Data.List.TakeWhile

/-!
# White space

White space is read by a pattern, with a search and its places, but what is read is what a loop
over the characters reads: all the white space that there is. So white space in front of a text
makes no difference to a parser that is applied to it, and to drop the white space behind a parser
a second time changes nothing: `white_space_is_a_loop`.
-/

namespace Backtrack

open Unicode

variable {σ α : Type} {Γ : Scopes}

/-! ## The pattern -/

namespace Pattern

theorem shape_blanks : blanks.expr.shape = .repetition 0 none true (.set Unicode.blanks) := rfl

theorem construction_capture (d : Direction) (s : Shape) : (Shape.capture s).construction d =
    match d with
    | .forwards => fun f => (s.construction d f.addState).addState
    | .backwards => s.construction d := by
  cases d <;> rfl

theorem construction_blanks (d : Direction) :
    (Shape.repetition 0 none true (.set Unicode.blanks)).construction d =
      fun f => (f.addChoice 2).addMember d Unicode.blanks := rfl

theorem isAnchored_blanks (d : Direction) :
    (Shape.repetition 0 none true (.set Unicode.blanks)).isAnchored d = false := by
  cases d <;> rfl

theorem isSmall_blanks : blanks.expr.isSmall = true := by
  simp only [Expr.isSmall, shape_blanks, Shape.footprint, isAnchored_blanks,
    construction_capture, construction_blanks]
  cbv

theorem ReaderState.read_of_step {s s' : ReaderState} {c : Char} {t rest : Text}
    (skip : s.flags.skip (c :: t) = c :: t) (step : s.step? c t = some (s', rest))
    (shorter : rest.length < (c :: t).length) : s.read? (c :: t) = s'.read? rest := by
  rw [ReaderState.read?, skip]
  simp only [step, Option.bind_eq_bind, Option.bind_some, shorter, ↓reduceDIte]

theorem read_blanks : Expr.read? ['\\', 's', '*'] = some blanks.expr := by
  have escape : ({} : ReaderState).step? '\\' ['s', '*'] =
      some ({ level := { pieces := [⟨.set Unicode.blanks, 0, false⟩] } }, ['*']) := rfl
  have star : ({ level := { pieces := [⟨.set Unicode.blanks, 0, false⟩] } } : ReaderState).step?
      '*' [] = some ({ level := { pieces := [⟨blanks.expr, 1, false⟩] } }, []) := rfl
  rw [Expr.read?, ReaderState.read_of_step rfl escape (Nat.le_succ 2),
    ReaderState.read_of_step rfl star Nat.one_pos, ReaderState.read?]
  rfl

/-- The pattern is the one that is written so. -/
theorem ofText_blanks : ofText? ['\\', 's', '*'] = .ok blanks := by
  simp only [ofText?, read_blanks, isSmall_blanks, ↓reduceIte]
  rfl

end Pattern

/-! ## The loop over the characters -/

namespace Parser

variable (d : Debugger σ) (depth : Nat) (s : Store σ Γ) (keep : Char → Bool)

theorem behaviour_satisfy_nil : (satisfy keep).behaviour d depth s [] = Pure.pure [] := rfl

theorem behaviour_satisfy_cons (c : Char) (t : Text) :
    (satisfy keep).behaviour d depth s (c :: t) =
      Pure.pure (if keep c then [(c, t)] else []) := rfl

/-- A repetition of characters that pass the test stops at the first one that does not. -/
theorem repeatFrom_satisfy (items : List Char) (t : Text) :
    repeatFrom ((satisfy keep).behaviour d depth s) items t =
      Pure.pure (items.reverse ++ t.takeWhile keep, t.dropWhile keep) := by
  induction t generalizing items with
  | nil =>
    rw [repeatFrom, behaviour_satisfy_nil, pure_bind, List.takeWhile_nil, List.append_nil]
    rfl
  | cons c t ih =>
    rw [repeatFrom, behaviour_satisfy_cons, pure_bind]
    cases hc : keep c with
    | false =>
      rw [List.takeWhile_cons_of_neg (by simp [hc]), List.dropWhile_cons_of_neg (by simp [hc]),
        List.append_nil]
      rfl
    | true =>
      have progress : byteLength t < byteLength (c :: t) :=
        byteLength_lt_of_suffix (List.suffix_cons c t) (List.cons_ne_self c t).symm
      simp only [↓reduceIte, progress, ↓reduceDIte]
      rw [ih, List.takeWhile_cons_of_pos hc, List.dropWhile_cons_of_pos hc, List.reverse_cons,
        List.append_assoc, List.singleton_append]

theorem behaviour_blanks : (blanks : Parser Γ Text).behaviour d depth s = Behaviour.blanks := rfl

/-- The pattern and the loop read the same. -/
theorem behaviour_blanks_eq_collect : (blanks : Parser Γ Text).behaviour d depth s =
    ((satisfy isBlank).many.collect id).behaviour d depth s := by
  have loop : ((satisfy isBlank).many.collect id).behaviour d depth s =
      (((satisfy isBlank).behaviour d depth s).many).tryMap fun cs => .ok (id cs) := rfl
  funext t
  rw [behaviour_blanks, Behaviour.blanks_eq, loop, Behaviour.tryMap_ok]
  simp only [Behaviour.many, repeatFrom_satisfy, pure_bind, List.map_cons, List.map_nil, id,
    List.reverse_nil, List.nil_append]

end Parser

/-- White space at the start of a text is a part of the longest such. -/
theorem prefix_takeWhile {p : Char → Bool} {v t : Text} (hv : ∀ c ∈ v, p c = true) (h : v <+: t) :
    v <+: t.takeWhile p := by
  obtain ⟨rest, rfl⟩ := h
  rw [List.takeWhile_append_of_pos hv]
  exact List.prefix_append v _

/-! ## Applying a parser -/

namespace Parser

/-- Applies the parser, where each definition may be used within itself `depth` times. -/
def applyWithin (d : Debugger σ) (depth : Nat) (p : Parser [] α) (t : Text) :
    Run σ (Candidates α) := do
  fromEach (fun _ => p.behaviour d depth .empty) (← Behaviour.blanks t)

theorem applyWith_eq_applyWithin (d : Debugger σ) (p : Parser [] α) (t : Text) :
    p.applyWith d t = p.applyWithin d (depthFor t) t := rfl

theorem applyWithin_eq (d : Debugger σ) (depth : Nat) (p : Parser [] α) (t : Text) :
    p.applyWithin d depth t = p.behaviour d depth .empty (t.dropWhile isBlank) := by
  rw [applyWithin, Behaviour.blanks_eq, pure_bind, fromEach_singleton]

theorem apply_eq_runWithin (p : Parser [] α) (t : Text) :
    p.apply t = p.runWithin (depthFor t) (t.dropWhile isBlank) := by
  rw [apply, applyWith_eq_applyWithin, applyWithin_eq]
  rfl

end Parser

/-- A parser is applied to a text in the same way in every depth that is more than its length. -/
theorem apply_eq_of_length_lt {p : Parser [] α} (hp : p.Customs Shortens) {t : Text} {depth : Nat}
    (hdepth : t.length < depth) :
    p.apply t = ((p.behaviour .silent depth .empty (t.dropWhile isBlank)).outcome ()).1 := by
  have short : (t.dropWhile isBlank).length ≤ t.length := (List.dropWhile_suffix _).length_le
  have least : t.length < Parser.depthFor t := Nat.lt_succ_self _
  rw [Parser.apply_eq_runWithin]
  exact congrArg Prod.fst (Parser.behaviour_eq_of_length_lt hp (Nat.lt_of_le_of_lt short least)
    (Nat.lt_of_le_of_lt short hdepth))

namespace Parser

/-- White space in front does not matter, unless the depth for the shorter text is not enough. -/
theorem apply_append_of_blank {p : Parser [] α} {w : Text} (hw : Blank w) (t : Text)
    (h : p.apply t ≠ .error .tooDeep ∨ p.Customs Shortens) : p.apply (w ++ t) = p.apply t := by
  have left : (w ++ t).dropWhile isBlank = t.dropWhile isBlank := List.dropWhile_append_of_pos hw
  have deeper : depthFor t ≤ depthFor (w ++ t) := by
    simp only [depthFor, List.length_append]
    omega
  rcases h with h | lawful
  · rw [apply_eq_runWithin] at h
    rw [apply_eq_runWithin, apply_eq_runWithin, left, runWithin_of_le deeper h]
  · have enough : t.length < depthFor (w ++ t) := Nat.lt_of_lt_of_le (Nat.lt_succ_self _) deeper
    rw [apply_eq_of_length_lt lawful enough, apply_eq_runWithin, left]
    rfl

end Parser

/-! ## Dropping white space -/

/-- The second candidate has the result of the first one, and leaves the same text without the white
space at its start. -/
structure Trimmed (c e : α × Text) : Prop where
  result : e.1 = c.1
  dropped : ∃ w, Blank w ∧ w ++ e.2 = c.2
  stops : Stops isBlank e.2

theorem trimmed_dropWhile (c : α × Text) : Trimmed c (c.1, c.2.dropWhile isBlank) where
  result := rfl
  dropped := ⟨c.2.takeWhile isBlank, fun _ h => List.mem_takeWhile_imp h,
    List.takeWhile_append_dropWhile⟩
  stops := stops_dropWhile isBlank c.2

namespace Behaviour

/-- A run of a token ends as that of its parser, with the candidates trimmed one by one. -/
theorem outcome_token (b : Behaviour σ α) (t : Text) (state : σ) :
    (∃ e u, (b t).outcome state = (.error e, u) ∧ (b.token t).outcome state = (.error e, u)) ∨
    ∃ cs es u, (b t).outcome state = (.ok cs, u) ∧ (b.token t).outcome state = (.ok es, u) ∧
      List.Forall₂ Trimmed cs es := by
  rw [token_eq]
  rcases h : (b t).outcome state with ⟨e | cs, u⟩
  · exact .inl ⟨e, u, rfl, Run.outcome_bind_of_error h⟩
  · refine .inr ⟨cs, _, u, rfl, Run.outcome_bind_of_ok h, ?_⟩
    exact List.forall₂_map_right_iff.mpr (List.forall₂_same.mpr fun c _ => trimmed_dropWhile c)

theorem token_token (b : Behaviour σ α) : b.token.token = b.token := by
  funext t
  rw [token_eq, token_eq, bind_assoc]
  apply bind_congr
  intro cs
  rw [pure_bind, List.map_map]
  congr 1
  apply List.map_congr_left
  intro c _
  exact congrArg (c.1, ·) (stops_dropWhile isBlank c.2).dropWhile_eq

end Behaviour

/-- **White space is read as by a loop over its characters.** The pattern `\s*` has one candidate on
every text: the longest start of white space, which is what a repetition of characters that are
white space has too. So a parser can be applied to a text with white space in front, to the same
effect; only a parser that is cut short for its depth can go further on a longer text, if functions
given to it leave more than they get. A token is its parser with white space read and dropped: it
has the same results as often and in the same order, it leaves no text that starts with white space,
and a token of it is no other parser. -/
theorem white_space_is_a_loop (d : Debugger σ) (depth : Nat) (s : Store σ Γ) (p : Parser Γ α)
    (q : Parser [] α) {w : Text} (hw : Blank w) (t : Text) :
    Pattern.ofText? ['\\', 's', '*'] = .ok .blanks ∧
    (∃ v rest, Parser.blanks.behaviour d depth s t = pure [(v, rest)] ∧ v ++ rest = t ∧ Blank v ∧
      ∀ u, Blank u → u <+: t → u <+: v) ∧
    Parser.blanks.behaviour d depth s =
      ((Parser.satisfy isBlank).many.collect id).behaviour d depth s ∧
    q.applyWithin d depth (w ++ t) = q.applyWithin d depth t ∧
    (q.apply t ≠ .error .tooDeep ∨ q.Customs Shortens → q.apply (w ++ t) = q.apply t) ∧
    p.token.behaviour d depth s = (p.thenIgnore .blanks).behaviour d depth s ∧
    p.token.token.behaviour d depth s = p.token.behaviour d depth s ∧
    ∀ state,
      (∃ e u, (p.behaviour d depth s t).outcome state = (.error e, u) ∧
        (p.token.behaviour d depth s t).outcome state = (.error e, u)) ∨
      ∃ cs es u, (p.behaviour d depth s t).outcome state = (.ok cs, u) ∧
        (p.token.behaviour d depth s t).outcome state = (.ok es, u) ∧
        List.Forall₂ Trimmed cs es := by
  refine ⟨Pattern.ofText_blanks, ⟨t.takeWhile isBlank, t.dropWhile isBlank, ?_, ?_, ?_, ?_⟩,
    ?_, ?_, ?_, ?_, ?_, ?_⟩
  · exact Behaviour.blanks_eq t
  · exact List.takeWhile_append_dropWhile
  · exact fun _ h => List.mem_takeWhile_imp h
  · exact fun u hu h => prefix_takeWhile hu h
  · exact Parser.behaviour_blanks_eq_collect d depth s
  · rw [Parser.applyWithin_eq, Parser.applyWithin_eq, List.dropWhile_append_of_pos hw]
  · exact Parser.apply_append_of_blank hw t
  · exact (Behaviour.token_eq_bind _).trans (Behaviour.then_fst_eq_bind _ _).symm
  · exact Behaviour.token_token _
  · exact Behaviour.outcome_token _ t

theorem white_space_is_a_loop_in_front :
    Blank [' ', '\u2003'] ∧
    (Parser.literal ['a']).apply ([' ', '\u2003'] ++ ['a', '\t']) = .ok [(['a'], ['\t'])] ∧
    ∃ es, ((Parser.literal ['a']).token.behaviour .silent 1 .empty ['a', '\t']).outcome () =
      (.ok es, ()) ∧ List.Forall₂ Trimmed [(['a'], ['\t'])] es := by
  have blank : Blank [' ', '\u2003'] := List.all_eq_true.mp rfl
  obtain ⟨-, -, -, -, same, -, -, token⟩ := white_space_is_a_loop .silent 1 .empty
    (Parser.literal ['a']) (Parser.literal ['a']) blank ['a', '\t']
  refine ⟨blank, ?_, ?_⟩
  · rw [same (.inr trivial), Parser.apply_eq_runWithin]
    rfl
  · rcases token () with ⟨e, u, failed, -⟩ | ⟨cs, es, u, found, ran, trimmed⟩
    · cases failed
    · cases found
      exact ⟨es, ran, trimmed⟩

end Backtrack
