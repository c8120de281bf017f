import Backtrack.Parser.Apply
import Backtrack.Proofs.ItemLists
import Backtrack.Proofs.Sequencing
import Backtrack.Proofs.Slice
import Mathlib.Data.List.Induction
import Mathlib.Order.Bounds.Basic

/-!
# Nested parentheses

A definition that repeats itself between parentheses reads the longest balanced start of each text,
and gives the depth to which it is nested: `reads_longest_balanced`. The repetition between two
parentheses is committed to what it reads before the closing one is seen. It never reads too much:
what it reads is balanced, and so the parenthesis that closes the one in front of it is behind it.
-/

namespace Backtrack

/-! ## Balanced texts -/

/-- How many parentheses are opened and not closed. -/
def excess (t : Text) : Int := t.count '(' - t.count ')'

@[simp] theorem excess_nil : excess [] = 0 := rfl

@[simp] theorem excess_open (t : Text) : excess ('(' :: t) = 1 + excess t := by
  simp [excess]
  omega

@[simp] theorem excess_close (t : Text) : excess (')' :: t) = excess t - 1 := by
  simp [excess]
  omega

@[simp] theorem excess_append (t u : Text) : excess (t ++ u) = excess t + excess u := by
  simp [excess]
  omega

theorem excess_wrap (a b : Text) : excess ('(' :: a ++ ')' :: b) = excess a + excess b := by
  simp only [excess_append, excess_open, excess_close]
  omega

/-- A sequence of parentheses in which each one that is closed was opened before, and all that are
opened are closed. -/
structure Balanced (t : Text) : Prop where
  parens : ∀ c ∈ t, c = '(' ∨ c = ')'
  opened : ∀ u, u <+: t → 0 ≤ excess u
  closed : excess t = 0

/-- A balanced text that is nested to the given depth, which is how many parentheses are open at
most. -/
structure Nesting (t : Text) (depth : Nat) : Prop extends Balanced t where
  deepest : IsGreatest {n | ∃ u, u <+: t ∧ excess u = n} (depth : Int)

theorem nesting_nil : Nesting [] 0 where
  parens := nofun
  opened u hu := by simp [List.prefix_nil.mp hu]
  closed := rfl
  deepest := by
    refine ⟨⟨[], List.prefix_refl [], rfl⟩, ?_⟩
    rintro _ ⟨u, hu, rfl⟩
    simp [List.prefix_nil.mp hu]

/-- A start of two texts in a row ends in the first one or in the second one. -/
theorem prefix_append_cases {t u v : Text} (h : v <+: t ++ u) :
    v <+: t ∨ ∃ w, w <+: u ∧ v = t ++ w := by
  rcases List.prefix_or_prefix_of_prefix h (List.prefix_append t u) with h' | ⟨w, rfl⟩
  · exact .inl h'
  · exact .inr ⟨w, (List.prefix_append_right_inj t).mp h, rfl⟩

/-- A start of a text in parentheses, with another text behind it, ends in one of the two. -/
theorem prefix_wrap_cases {a b u : Text} (h : u <+: '(' :: a ++ ')' :: b) :
    u = [] ∨ (∃ v, v <+: a ∧ u = '(' :: v) ∨ ∃ v, v <+: b ∧ u = '(' :: a ++ ')' :: v := by
  rw [List.cons_append, List.prefix_cons_iff] at h
  rcases h with rfl | ⟨v, rfl, hv⟩
  · exact .inl rfl
  · rcases prefix_append_cases hv with hv | ⟨w, hw, rfl⟩
    · exact .inr (.inl ⟨v, hv, rfl⟩)
    · rcases List.prefix_cons_iff.mp hw with rfl | ⟨x, rfl, hx⟩
      · exact .inr (.inl ⟨a, List.prefix_refl a, by rw [List.append_nil]⟩)
      · exact .inr (.inr ⟨x, hx, rfl⟩)

theorem wrap_prefix_wrap {a b v : Text} (h : v <+: b) :
    '(' :: a ++ ')' :: v <+: '(' :: a ++ ')' :: b := by
  rw [List.prefix_append_right_inj, List.prefix_cons_inj]
  exact h

theorem Nesting.wrap {a b : Text} {n m : Nat} (ha : Nesting a n) (hb : Nesting b m) :
    Nesting ('(' :: a ++ ')' :: b) (max (n + 1) m) where
  parens := by
    intro c hc
    simp only [List.mem_append, List.mem_cons] at hc
    rcases hc with (rfl | hc) | rfl | hc
    · exact .inl rfl
    · exact ha.parens c hc
    · exact .inr rfl
    · exact hb.parens c hc
  opened := by
    intro u hu
    rcases prefix_wrap_cases hu with rfl | ⟨v, hv, rfl⟩ | ⟨v, hv, rfl⟩
    · exact Int.le_refl 0
    · have := ha.opened v hv
      rw [excess_open]
      omega
    · have := hb.opened v hv
      rw [excess_wrap, ha.closed]
      omega
  closed := by rw [excess_wrap, ha.closed, hb.closed, Int.add_zero]
  deepest := by
    obtain ⟨⟨u, hu, hn⟩, most⟩ := ha.deepest
    obtain ⟨⟨v, hv, hm⟩, most'⟩ := hb.deepest
    constructor
    · rcases Nat.le_total (n + 1) m with second | first
      · refine ⟨'(' :: a ++ ')' :: v, wrap_prefix_wrap hv, ?_⟩
        rw [excess_wrap, ha.closed]
        omega
      · refine ⟨'(' :: u, ?_, ?_⟩
        · rw [List.cons_append, List.prefix_cons_inj]
          exact hu.trans (List.prefix_append _ _)
        · rw [excess_open]
          omega
    · rintro _ ⟨w, hw, rfl⟩
      rcases prefix_wrap_cases hw with rfl | ⟨x, hx, rfl⟩ | ⟨x, hx, rfl⟩
      · rw [excess_nil]
        omega
      · have := most ⟨x, hx, rfl⟩
        rw [excess_open]
        omega
      · have := most' ⟨x, hx, rfl⟩
        rw [excess_wrap, ha.closed]
        omega

theorem Balanced.of_wrap {a b : Text} (h : Balanced ('(' :: a ++ ')' :: b)) (ha : excess a = 0) :
    Balanced b where
  parens c hc := h.parens c (List.mem_append_right _ (List.mem_cons_of_mem _ hc))
  opened u hu := by
    have := h.opened _ (wrap_prefix_wrap hu)
    rw [excess_wrap] at this
    omega
  closed := by
    have := h.closed
    rw [excess_wrap] at this
    omega

/-- Of parentheses, either none is closed that was not opened, or a balanced text is in front of the
first one that is. -/
theorem opened_or_first_close (t : Text) (h : ∀ c ∈ t, c = '(' ∨ c = ')') :
    (∀ u, u <+: t → 0 ≤ excess u) ∨ ∃ a b, t = a ++ ')' :: b ∧ Balanced a := by
  induction t using List.reverseRecOn with
  | nil => exact .inl nesting_nil.opened
  | append_singleton t c ih =>
    have parens : ∀ c ∈ t, c = '(' ∨ c = ')' := fun c hc => h c (List.mem_append_left _ hc)
    rcases ih parens with opened | ⟨a, b, rfl, ha⟩
    · have before := opened t (List.prefix_refl t)
      have upTo (last : 0 ≤ excess (t ++ [c])) : ∀ u, u <+: t ++ [c] → 0 ≤ excess u := by
        intro u hu
        rcases List.prefix_concat_iff.mp hu with rfl | hu
        · exact last
        · exact opened u hu
      rcases h c (by simp) with rfl | rfl
      · refine .inl (upTo ?_)
        simp only [excess_append, excess_open, excess_nil]
        omega
      · by_cases closed : excess t = 0
        · exact .inr ⟨t, [], rfl, parens, opened, closed⟩
        · refine .inl (upTo ?_)
          simp only [excess_append, excess_close, excess_nil]
          omega
    · exact .inr ⟨a, b ++ [c], by simp, ha⟩

/-! ## The longest balanced start -/

/-- The start is the longest start of the text that is balanced, and the rest stands behind it. -/
structure LongestBalanced (t start rest : Text) : Prop extends Balanced start where
  split : t = start ++ rest
  longest : ∀ u, u <+: t → Balanced u → u <+: start

/-- Where no parenthesis is opened, nothing is balanced. -/
theorem longestBalanced_nil {t : Text} (h : ∀ rest, t ≠ '(' :: rest) : LongestBalanced t [] t where
  toBalanced := nesting_nil.toBalanced
  split := rfl
  longest := by
    intro u hu bal
    rcases u with _ | ⟨c, u⟩
    · exact List.prefix_refl []
    · obtain ⟨rest, rfl⟩ := hu
      rcases bal.parens c (by simp) with rfl | rfl
      · exact absurd rfl (h _)
      · have := bal.opened [')'] ⟨u, rfl⟩
        simp at this

/-- A pair of parentheses around the longest balanced start of what they open, and what follows. -/
theorem LongestBalanced.wrap {t a b r rest : Text} (ha : LongestBalanced t a (')' :: r))
    (hb : LongestBalanced r b rest) (h : Balanced ('(' :: a ++ ')' :: b)) :
    LongestBalanced ('(' :: t) ('(' :: a ++ ')' :: b) rest where
  toBalanced := h
  split := by rw [ha.split, hb.split, List.cons_append, List.cons_append, List.append_assoc,
    List.cons_append]
  longest := by
    intro u hu bal
    rw [ha.split, ← List.cons_append] at hu
    rcases prefix_wrap_cases hu with rfl | ⟨v, hv, rfl⟩ | ⟨v, hv, rfl⟩
    · exact List.nil_prefix
    · have := ha.opened v hv
      have := bal.closed
      rw [excess_open] at this
      omega
    · exact wrap_prefix_wrap (hb.longest v hv (bal.of_wrap ha.closed))

/-- A parenthesis that is not closed behind the longest balanced start of what it opens is not
closed at all. -/
theorem LongestBalanced.unclosed {t a rest : Text} (ha : LongestBalanced t a rest)
    (h : ∀ r, rest ≠ ')' :: r) : LongestBalanced ('(' :: t) [] ('(' :: t) where
  toBalanced := nesting_nil.toBalanced
  split := rfl
  longest := by
    intro u hu bal
    rcases List.prefix_cons_iff.mp hu with rfl | ⟨v, rfl, hv⟩
    · exact List.prefix_refl []
    · have closed := bal.closed
      rw [excess_open] at closed
      have parens : ∀ c ∈ v, c = '(' ∨ c = ')' := fun c hc =>
        bal.parens c (List.mem_cons_of_mem _ hc)
      rcases opened_or_first_close v parens with opened | ⟨w, x, rfl, hw⟩
      · have := opened v (List.prefix_refl v)
        omega
      · -- The balanced text up to the parenthesis that closes the first one is in what was read,
        -- and so that parenthesis comes next, or was read too.
        obtain ⟨z, rfl⟩ := ha.longest w ((List.prefix_append _ _).trans hv) hw
        obtain ⟨y, hy⟩ := hv
        rw [ha.split, List.append_assoc, List.append_assoc, List.append_cancel_left_eq,
          List.cons_append] at hy
        rcases z with _ | ⟨c, z⟩
        · exact absurd hy.symm (h _)
        · obtain ⟨rfl, -⟩ := List.cons.inj hy
          have inside := ha.opened (w ++ [')']) ⟨z, by simp⟩
          have := hw.closed
          simp only [excess_append, excess_close, excess_nil] at inside
          omega

/-! ## The parser -/

/-- The depth of what contains texts of the given depths between parentheses, one after another. -/
def depthAround (depths : List Nat) : Nat := (depths.map (· + 1)).max?.getD 0

theorem depthAround_cons (depth : Nat) (depths : List Nat) :
    depthAround (depth :: depths) = max (depth + 1) (depthAround depths) := by
  cases depths with
  | nil => rfl
  | cons _ _ => simp [depthAround, List.max?_cons]

/-- Parentheses, with the depth to which they are nested. -/
def Parser.parentheses : Parser [] Nat :=
  recursive ((self.delimitedBy (literal ['(']) (literal [')'])).many.map depthAround)

variable {σ : Type} {b : Behaviour σ Nat} {t rest : Text}

namespace Behaviour

/-- Reads one character. -/
def single (c : Char) : Behaviour σ Text := split fun t => (stripStart [c] t).map ([c], ·)

/-- The behaviour between two parentheses. -/
def parenthesised (b : Behaviour σ Nat) : Behaviour σ Nat :=
  (((single '(').bind fun _ => b).then (single ')')).tryMap fun found => .ok found.1

/-- What the parser does, if its handle does what the given behaviour does. -/
def parenthesesAround (b : Behaviour σ Nat) : Behaviour σ Nat :=
  b.parenthesised.many.tryMap fun depths => .ok (depthAround depths)

theorem single_cons (c : Char) (t : Text) : (single c (c :: t) : Run σ _) = return [([c], t)] := by
  simp [single, split, stripStart]

theorem single_of_ne {c : Char} (h : ∀ rest, t ≠ c :: rest) :
    (single c t : Run σ _) = return [] := by
  cases t with
  | nil => rfl
  | cons c' t =>
    have other : c ≠ c' := by
      rintro rfl
      exact h t rfl
    simp [single, split, stripStart, other]

theorem parenthesised_closed {depth : Nat} (h : b t = return [(depth, ')' :: rest)]) :
    b.parenthesised ('(' :: t) = return [(depth, rest)] := by
  rw [parenthesised, then_fst_eq_bind]
  simp only [Behaviour.bind, single_cons, pure_bind, fromEach_singleton, h, tryMap_ok, List.map_cons,
    List.map_nil]

theorem parenthesised_unclosed {depth : Nat} (h : b t = return [(depth, rest)])
    (next : ∀ r, rest ≠ ')' :: r) : b.parenthesised ('(' :: t) = return [] := by
  rw [parenthesised, then_fst_eq_bind]
  simp only [Behaviour.bind, single_cons, pure_bind, fromEach_singleton, h, tryMap_ok,
    single_of_ne next, List.map_nil]

theorem parenthesised_of_ne (h : ∀ rest, t ≠ '(' :: rest) : b.parenthesised t = return [] := by
  rw [parenthesised, then_fst_eq_bind]
  simp only [Behaviour.bind, single_of_ne h, pure_bind, fromEach]

end Behaviour

theorem behaviour_parentheses (d : Debugger σ) (n : Nat) :
    Parser.parentheses.behaviour d n .empty = unfold Behaviour.parenthesesAround (n + 1) := rfl

/-- The behaviour has one candidate for the text: the longest balanced start, with its depth. -/
def ReadsBalanced (b : Behaviour σ Nat) (t : Text) : Prop :=
  ∃ depth start rest, b t = pure [(depth, rest)] ∧ Nesting start depth ∧
    LongestBalanced t start rest

/-- What is repeated reads no parenthesis too much, if the behaviour between the parentheses reads
longest balanced starts of all shorter texts. The induction is on the length of the text, which
each round makes smaller. -/
theorem repeatFrom_parenthesised {n : Nat} (h : ∀ u : Text, u.length < n → ReadsBalanced b u)
    (t : Text) (short : t.length ≤ n) :
    ∃ depths start rest, repeatFrom b.parenthesised [] t = pure (depths, rest) ∧
      Nesting start (depthAround depths) ∧ LongestBalanced t start rest := by
  induction hm : t.length using Nat.strongRecOn generalizing t with
  | ind m ih =>
    have nothing (none : b.parenthesised t = pure []) :
        repeatFrom b.parenthesised [] t = pure ([], t) := by
      rw [repeatFrom, none]
      rfl
    by_cases opens : ∃ u, t = '(' :: u
    · obtain ⟨u, rfl⟩ := opens
      obtain ⟨depth, a, r, hb, nested, inner⟩ := h u short
      by_cases closes : ∃ r', r = ')' :: r'
      · obtain ⟨r, rfl⟩ := closes
        have left : r <:+ '(' :: u := ⟨'(' :: a ++ [')'], by simp [inner.split]⟩
        have shorter : r.length < m := by
          have := congrArg List.length inner.split
          simp only [List.length_append, List.length_cons] at this hm
          omega
        obtain ⟨depths, c, rest, again, nested', behind⟩ := ih _ shorter r (by omega) rfl
        have both := nested.wrap nested'
        refine ⟨depth :: depths, '(' :: a ++ ')' :: c, rest, ?_, depthAround_cons _ _ ▸ both,
          inner.wrap behind both.toBalanced⟩
        have progress : byteLength r < byteLength ('(' :: u) := by
          apply byteLength_lt_of_suffix left
          intro same
          rw [same, hm] at shorter
          exact absurd shorter (Nat.lt_irrefl m)
        rw [repeatFrom, Behaviour.parenthesised_closed hb, pure_bind]
        simp only [progress, ↓reduceDIte]
        rw [repeatFrom_eq, again]
        rfl
      · have next : ∀ r', r ≠ ')' :: r' := fun r' same => closes ⟨r', same⟩
        exact ⟨[], [], '(' :: u, nothing (Behaviour.parenthesised_unclosed hb next),
          nesting_nil, inner.unclosed next⟩
    · have other : ∀ u, t ≠ '(' :: u := fun u same => opens ⟨u, same⟩
      exact ⟨[], [], t, nothing (Behaviour.parenthesised_of_ne other), nesting_nil,
        longestBalanced_nil other⟩

/-- Each use of the handle has less text to read than the one around it. -/
theorem readsBalanced_unfold (n : Nat) (t : Text) (short : t.length < n) :
    ReadsBalanced (unfold Behaviour.parenthesesAround n : Behaviour σ Nat) t := by
  induction n generalizing t with
  | zero => exact absurd short (Nat.not_lt_zero _)
  | succ n ih =>
    obtain ⟨depths, start, rest, found, nested, longest⟩ :=
      repeatFrom_parenthesised ih t (Nat.le_of_lt_succ short)
    refine ⟨depthAround depths, start, rest, ?_, nested, longest⟩
    rw [unfold, Behaviour.parenthesesAround, Behaviour.tryMap_many, found, pure_bind]

/-- **Nested parentheses are read as far as they are balanced.** For each text there is exactly one
candidate, and no fault. It leaves what stands behind the longest balanced start of the text, also
where that start is empty, and its result is the number of parentheses that are open at most in that
start. -/
theorem reads_longest_balanced (t : Text) :
    ∃ depth start rest, Parser.parentheses.run t = .ok [(depth, rest)] ∧ t = start ++ rest ∧
      Balanced start ∧ (∀ u, u <+: t → Balanced u → u <+: start) ∧
      IsGreatest {n | ∃ u, u <+: start ∧ excess u = n} (depth : Int) := by
  have fits : t.length < Parser.depthFor t + 1 := by
    rw [Parser.depthFor]
    omega
  obtain ⟨depth, start, rest, found, nested, longest⟩ := readsBalanced_unfold _ t fits
  refine ⟨depth, start, rest, ?_, longest.split, longest.toBalanced, longest.longest,
    nested.deepest⟩
  rw [Parser.run, Parser.runWith, behaviour_parentheses, found]
  rfl

/-- The first parenthesis is not closed, and so the pair behind it is not read either. -/
example : Parser.parentheses.run ['(', '(', ')'] = .ok [(0, ['(', '(', ')'])] := by decide +kernel

end Backtrack
