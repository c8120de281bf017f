import Backtrack.Proofs.Confinement

/-!
# Expressions in groups

What starts a group and what repeats a piece is read in front of a parenthesis as escapes and
classes are. So an expression that sets no flags is read in a group step by step as it is read on
its own. Only the name of a group may make a difference, if it is taken outside. Two expressions
that are put into groups, as the alternatives of one, are what they are on their own:
`read_alternation`.
-/

namespace Backtrack.Pattern

variable {f : Flags}

/-! ## Repetitions -/

theorem readDigits_append (h : f.extended = false) (t u : Text) :
    readDigits f (t ++ ')' :: u) = ((readDigits f t).1, (readDigits f t).2 ++ ')' :: u) := by
  fun_induction readDigits f t with
  | case1 c rest hc more behind same ih =>
    rw [f.skip_eq h] at ih same
    rw [List.cons_append, readDigits, if_pos hc, f.skip_eq h, ih, same]
  | case2 c rest hc => rw [List.cons_append, readDigits, if_neg hc]
  | case3 => rw [List.nil_append, readDigits, if_neg (by decide)]

theorem dropWhile_isBlank_append (t u : Text) :
    (t ++ ')' :: u).dropWhile Unicode.isBlank = t.dropWhile Unicode.isBlank ++ ')' :: u := by
  rw [List.dropWhile_append]
  split
  · rename_i all
    rw [List.isEmpty_iff.mp all, List.dropWhile_cons_of_neg (by decide)]
    rfl
  · rfl

/-- The blanks behind a count are passed over as those in front of it are. -/
theorem readCount_eq (h : f.extended = false) (t : Text) : readCount f t =
    let read := readDigits f (t.dropWhile Unicode.isBlank)
    let n := read.1.foldl (fun n c => n * 10 + (c.toNat - 0x30)) 0
    if read.1.isEmpty || n > maxCount then none
    else some (n, read.2.dropWhile Unicode.isBlank) := by
  unfold readCount
  obtain ⟨digits, rest⟩ := readDigits f (t.dropWhile Unicode.isBlank)
  rcases rest with _ | ⟨c, rest⟩
  · rfl
  · cases blank : Unicode.isBlank c <;> simp [f.skip_eq h, blank]

theorem readCount_nil (h : f.extended = false) : readCount f [] = none := by
  rw [readCount_eq h, List.dropWhile_nil, readDigits]
  rfl

theorem readCount_confined (h : f.extended = false) : Confined (readCount f) := by
  intro t x rest read u
  rw [readCount_eq h] at read ⊢
  rw [dropWhile_isBlank_append, readDigits_append h]
  dsimp only at read ⊢
  split at read
  · cases read
  · rename_i valid
    cases read
    rw [if_neg valid, dropWhile_isBlank_append]

/-- The end of the bounds, behind the second one. -/
def closeBounds (min max : Nat) (t : Text) : Option ((Nat × Option Nat) × Text) :=
  match t with
  | '}' :: rest => if min ≤ max then some ((min, some max), rest) else none
  | _ => none

theorem closeBounds_confined (min max : Nat) : Confined (closeBounds min max) := by
  refine .cons rfl fun c => ?_
  by_cases brace : c = '}'
  · subst brace
    by_cases le : min ≤ max
    · simp only [closeBounds, le, ↓reduceIte]
      exact .pure _
    · simp only [closeBounds, le, ↓reduceIte]
      exact .none
  · simp only [closeBounds, List.cons.injEq, brace, false_and, imp_self, implies_true]
    exact .none

theorem readBounds_confined (h : f.extended = false) : Confined (readBounds f) := by
  unfold readBounds
  simp only [f.skip_eq h]
  refine (readCount_confined h).bind fun min => ?_
  have other (c : Char) : Confined fun t => readCount f (c :: t) >>= fun max =>
      closeBounds min max.1 max.2 :=
    ((readCount_confined h).behind c).bind (closeBounds_confined min)
  refine .cons rfl fun c => ?_
  dsimp only
  by_cases brace : c = '}'
  · subst brace
    exact .pure _
  by_cases comma : c = ','
  · subst comma
    refine .cons (by simp only [readCount_nil h]; rfl) fun c => ?_
    by_cases brace : c = '}'
    · subst brace
      exact .pure _
    simp only [List.cons.injEq, brace, false_and, imp_self, implies_true]
    exact other c
  simp only [List.cons.injEq, brace, comma, false_and, imp_self, implies_true]
  exact .none

theorem readRepetition_confined (h : f.extended = false) (c : Char) :
    Confined (readRepetition f c) := by
  intro t
  fun_cases readRepetition f c t with
  | case1 t | case2 t | case3 t => exact Confined.pure _ t
  | case4 c t =>
    simp only [readRepetition, f.skip_eq h]
    exact (readBounds_confined h).map id t

/-! ## Groups -/

theorem readGroupName_confined : Confined readGroupName := by
  intro t x rest read u
  unfold readGroupName at read ⊢
  have stop : t.dropWhile (· != '>') ≠ [] := by
    intro none
    rw [none] at read
    cases read
  rw [takeWhile_append_of_stop stop, dropWhile_append_of_stop stop]
  dsimp only at read ⊢
  split at read
  · rename_i same
    rw [same]
    simp only [List.cons_append]
    split at read
    · rename_i valid
      cases read
      exact if_pos valid
    · cases read
  · cases read

/-- The letters of a group or a directive, up to `:` or `)`. -/
def readFlags (f : Flags) (t : Text) : Option (GroupHead × Text) := do
  let letters := t.takeWhile fun c => !(c == ':' || c == ')')
  let f ← f.withLetters? letters
  match t.dropWhile fun c => !(c == ':' || c == ')') with
  | ':' :: rest => some (.flagged f, rest)
  | ')' :: rest => if letters.isEmpty then none else some (.directive f, rest)
  | _ => none

theorem readFlags_confined : Confined (readFlags f) := by
  intro t x rest read u
  unfold readFlags at read ⊢
  have stop : (t.dropWhile fun c => !(c == ':' || c == ')')) ≠ [] := by
    intro none
    rw [none] at read
    obtain ⟨_, -, read⟩ := Option.bind_eq_some_iff.mp read
    cases read
  rw [takeWhile_append_of_stop stop, dropWhile_append_of_stop stop]
  obtain ⟨g, valid, read⟩ := Option.bind_eq_some_iff.mp read
  simp only [valid, Option.bind_eq_bind, Option.bind_some]
  split at read
  · rename_i same
    cases read
    rw [same]
    rfl
  · rename_i same
    rw [same]
    split at read
    · cases read
    · rename_i valid
      cases read
      exact if_neg valid
  · cases read

theorem readGroupHead_numbered (h : f.extended = false) {t : Text}
    (ht : ∀ rest, t ≠ '?' :: rest) : readGroupHead f t = some (.numbered none, t) := by
  unfold readGroupHead
  rw [f.skip_eq h]
  split
  case h_6 => rfl
  all_goals exact absurd rfl (ht _)

theorem readGroupHead_named (h : f.extended = false) {t : Text}
    (ahead : ∀ rest, t = '=' :: rest → False) (notAhead : ∀ rest, t = '!' :: rest → False) :
    readGroupHead f ('?' :: '<' :: t) = readGroupName t := by
  unfold readGroupHead
  rw [f.skip_eq h]
  split
  case h_1 same => exact absurd same (by simp)
  case h_2 same =>
    cases same
    exact absurd rfl (ahead _)
  case h_3 same =>
    cases same
    exact absurd rfl (notAhead _)
  case h_4 same =>
    cases same
    rfl
  case h_5 name same =>
    cases same
    exact absurd rfl (name _)
  case h_6 other => exact absurd rfl (other _)

theorem readGroupHead_flags (h : f.extended = false) {t : Text}
    (named : ∀ rest, t = 'P' :: '<' :: rest → False) (name : ∀ rest, t = '<' :: rest → False) :
    readGroupHead f ('?' :: t) = readFlags f t := by
  unfold readGroupHead
  rw [f.skip_eq h]
  split
  case h_1 same =>
    cases same
    exact absurd rfl (named _)
  case h_2 same | h_3 same | h_4 same =>
    cases same
    exact absurd rfl (name _)
  case h_5 same =>
    cases same
    rfl
  case h_6 other => exact absurd rfl (other _)

theorem readGroupHead_confined (h : f.extended = false) : Confined (readGroupHead f) := by
  intro t
  have skipped := f.skip_eq h t
  fun_cases readGroupHead f t with
  | case1 v same =>
    obtain rfl := skipped.symm.trans same
    simp only [List.cons_append, readGroupHead, f.skip_eq h]
    exact readGroupName_confined v
  | case2 | case3 => rintro _ _ ⟨⟩
  | case4 v ahead notAhead same =>
    obtain rfl := skipped.symm.trans same
    intro x rest read u
    rw [List.cons_append, List.cons_append, readGroupHead_named h
      (starts_of_append (v := ['=']) (by decide) ahead)
      (starts_of_append (v := ['!']) (by decide) notAhead)]
    exact readGroupName_confined v x rest read u
  | case5 v named _ _ name same =>
    obtain rfl := skipped.symm.trans same
    intro x rest read u
    rw [List.cons_append, readGroupHead_flags h
      (starts_of_append (v := ['P', '<']) (by decide) named)
      (starts_of_append (v := ['<']) (by decide) name)]
    exact readFlags_confined v x rest read u
  | case6 _ _ _ _ other =>
    rw [skipped] at other ⊢
    rintro _ _ ⟨⟩ u
    exact readGroupHead_numbered h (starts_of_append (v := ['?']) (by decide) other)

theorem readSymbol_confined (h : f.extended = false) (c : Char) : Confined (readSymbol f c) := by
  intro t
  fun_cases readSymbol f c t with
  | case1 t =>
    let bracket (s : Nested) : Piece := ⟨.set s.members, s.depth, false⟩
    exact (readClass_confined h).map bracket t
  | case2 t =>
    have escape : Confined fun t => readEscape f t >>= fun read =>
        read.1.expr? f >>= fun e => pure ((⟨e, 0, false⟩ : Piece), read.2) := by
      refine (readEscape_confined h).bind fun symbol => ?_
      dsimp only
      exact .guard fun e => .pure _
    exact escape t
  | case3 t => exact Confined.guard (fun e => .pure _) t
  | case4 t | case5 t => exact Confined.pure _ t
  | case6 c t =>
    simp only [readSymbol, *]
    exact Confined.guard (fun e => .pure _) t

/-! ## Expressions without flags -/

/-- Whether an opening parenthesis with the text behind it sets flags. -/
def setsFlags : Text → Bool
  | '?' :: 'P' :: '<' :: _ | '?' :: '<' :: _ | '?' :: ':' :: _ => false
  | '?' :: _ => true
  | _ => false

theorem numbered_of_readGroupName {t rest : Text} {head : GroupHead}
    (read : readGroupName t = some (head, rest)) : ∃ name, head = .numbered name := by
  unfold readGroupName at read
  dsimp only at read
  split at read
  · split at read
    · cases read
      exact ⟨_, rfl⟩
    · cases read
  · cases read

/-- What an opening parenthesis that sets no flags starts. -/
theorem head_of_setsFlags {t rest : Text} {head : GroupHead} (h : f.extended = false)
    (free : setsFlags t = false) (read : readGroupHead f t = some (head, rest)) :
    head = .flagged f ∨ ∃ name, head = .numbered name := by
  have skipped := f.skip_eq h t
  revert read
  fun_cases readGroupHead f t with
  | case1 | case4 => exact fun read => .inr (numbered_of_readGroupName read)
  | case2 | case3 => rintro ⟨⟩
  | case5 v named _ _ name same =>
    obtain rfl := skipped.symm.trans same
    by_cases colon : v.head? = some ':'
    · obtain ⟨v, rfl⟩ := List.head?_eq_some_iff.mp colon
      rintro ⟨⟩
      exact .inl rfl
    · have sets : setsFlags ('?' :: v) = true := by
        rw [setsFlags]
        · exact named
        · exact name
        · rintro w rfl
          exact colon rfl
      rw [sets] at free
      cases free
  | case6 =>
    rintro ⟨⟩
    exact .inr ⟨none, rfl⟩

namespace ReaderState

/-- The reader comes to no parenthesis that sets flags. -/
def isFlagFree (s : ReaderState) (t : Text) : Bool :=
  match s.flags.skip t with
  | [] => true
  | c :: rest =>
    !(c == '(' && setsFlags rest) &&
      match s.step? c rest with
      | none => true
      | some (s, rest) => if _h : rest.length < t.length then s.isFlagFree rest else true
termination_by t.length

/-- Blanks are not passed over, neither now nor behind a group that is open. -/
structure KeepsBlanks (s : ReaderState) : Prop where
  flags : s.flags.extended = false
  groups : ∀ g ∈ s.groups, g.flags.extended = false

/-- The state in groups that were opened before. -/
def within (s around : ReaderState) : ReaderState :=
  { s with names := s.names ++ around.names, groups := s.groups ++ around.groups }

variable {s s' around : ReaderState} {c : Char} {t rest u : Text} {e e' : Expr}

/-- What the reader does with the head of a group: no two groups have the same name. -/
def enter? (s : ReaderState) : GroupHead → Option ReaderState
  | .directive f => some { s with flags := f, level := s.level.add ⟨.empty, 0, true⟩ }
  | .flagged f =>
    some { s with flags := f, level := {}, groups := ⟨s.level, s.flags, false⟩ :: s.groups }
  | .numbered none =>
    some { s with level := {}, groups := ⟨s.level, s.flags, true⟩ :: s.groups }
  | .numbered (some name) =>
    if s.names.contains name then none
    else some { s with
      names := name :: s.names, level := {}, groups := ⟨s.level, s.flags, true⟩ :: s.groups }

theorem openGroup_eq (s : ReaderState) (t : Text) : s.openGroup? t =
    (readGroupHead s.flags t).bind fun (head, rest) => (s.enter? head).map (·, rest) := by
  unfold openGroup?
  cases readGroupHead s.flags t with
  | none => rfl
  | some read =>
    obtain ⟨_ | _ | _, rest⟩ := read
    · rename_i name
      cases name with
      | none => rfl
      | some name =>
        simp only [Option.bind_eq_bind, Option.bind_some, enter?]
        split <;> rfl
    · rfl
    · rfl

theorem enter_within {head : GroupHead} {r : ReaderState} (enter : s.enter? head = some s')
    (inside : (s.within around).enter? head = some r) : r = s'.within around := by
  revert enter inside
  fun_cases enter? s head with
  | case1 | case2 | case3 =>
    rintro ⟨⟩ ⟨⟩
    rfl
  | case4 => rintro ⟨⟩
  | case5 name other =>
    rintro ⟨⟩ inside
    simp only [enter?] at inside
    split at inside
    · cases inside
    · cases inside
      rfl

/-- The sign that makes a repetition prefer fewer rounds, if it is there. -/
def lazySign (t : Text) : Bool × Text :=
  match t with
  | '?' :: rest => (true, rest)
  | _ => (false, t)

theorem lazySign_append (t u : Text) :
    lazySign (t ++ ')' :: u) = ((lazySign t).1, (lazySign t).2 ++ ')' :: u) := by
  fun_cases lazySign t with
  | case1 => rfl
  | case2 _ other =>
    rw [lazySign]
    exact starts_of_append (v := ['?']) (by decide) other

theorem repeatLast_eq (s : ReaderState) (c : Char) (t : Text) : s.repeatLast? c t =
    (readRepetition s.flags c t).bind fun (bounds, rest) =>
      (s.level.repeatLast? bounds ((lazySign rest).1 == s.flags.swapGreed)).map fun level =>
        ({ s with level }, (lazySign rest).2) := by
  unfold repeatLast?
  cases readRepetition s.flags c t with
  | none => rfl
  | some read =>
    obtain ⟨bounds, rest⟩ := read
    change (s.level.repeatLast? bounds ((lazySign rest).1 == s.flags.swapGreed)).bind
      (fun level => some ({ s with level }, (lazySign rest).2)) = Option.map _ _
    rw [Option.map_eq_bind]
    rfl

theorem repeatLast_within (h : s.flags.extended = false)
    (last : s.repeatLast? c t = some (s', rest)) :
    (s.within around).repeatLast? c (t ++ ')' :: u) =
      some (s'.within around, rest ++ ')' :: u) := by
  rw [repeatLast_eq] at last ⊢
  obtain ⟨⟨bounds, behind⟩, read, last⟩ := Option.bind_eq_some_iff.mp last
  obtain ⟨level, again, same⟩ := Option.map_eq_some_iff.mp last
  cases same
  rw [show (s.within around).flags = s.flags from rfl, readRepetition_confined h c t _ _ read u,
    Option.bind_some]
  dsimp only
  rw [lazySign_append, show (s.within around).level = s.level from rfl, again]
  rfl

theorem closeGroup_within (closed : s.closeGroup? = some s') :
    (s.within around).closeGroup? = some (s'.within around) := by
  unfold closeGroup? at closed ⊢
  split at closed
  · cases closed
  · rename_i g groups same
    cases closed
    simp only [within, same, List.cons_append]

theorem KeepsBlanks.enter (h : s.KeepsBlanks) {head : GroupHead}
    (free : head = .flagged s.flags ∨ ∃ name, head = .numbered name)
    (enter : s.enter? head = some s') : s'.KeepsBlanks := by
  revert enter free
  fun_cases enter? s head with
  | case1 => simp
  | case2 =>
    rintro (⟨⟨⟩⟩ | ⟨_, ⟨⟩⟩) ⟨⟩
    exact ⟨h.flags, List.forall_mem_cons.mpr ⟨h.flags, h.groups⟩⟩
  | case3 | case5 =>
    rintro - ⟨⟩
    exact ⟨h.flags, List.forall_mem_cons.mpr ⟨h.flags, h.groups⟩⟩
  | case4 => rintro - ⟨⟩

theorem KeepsBlanks.closeGroup (h : s.KeepsBlanks) (closed : s.closeGroup? = some s') :
    s'.KeepsBlanks := by
  unfold closeGroup? at closed
  split at closed
  · cases closed
  · rename_i g groups same
    cases closed
    have both := h.groups
    rw [same, List.forall_mem_cons] at both
    exact ⟨both.1, both.2⟩

theorem KeepsBlanks.repeatLast (h : s.KeepsBlanks) (last : s.repeatLast? c t = some (s', rest)) :
    s'.KeepsBlanks := by
  rw [repeatLast_eq] at last
  obtain ⟨_, -, last⟩ := Option.bind_eq_some_iff.mp last
  obtain ⟨_, -, same⟩ := Option.map_eq_some_iff.mp last
  cases same
  exact ⟨h.flags, h.groups⟩

theorem KeepsBlanks.step (h : s.KeepsBlanks) (free : c = '(' → setsFlags t = false)
    (step : s.step? c t = some (s', rest)) : s'.KeepsBlanks := by
  revert step
  fun_cases step? s c t with
  | case1 =>
    intro step
    rw [openGroup_eq] at step
    obtain ⟨⟨head, _⟩, read, step⟩ := Option.bind_eq_some_iff.mp step
    obtain ⟨_, enter, same⟩ := Option.map_eq_some_iff.mp step
    cases same
    exact h.enter (head_of_setsFlags h.flags (free rfl) read) enter
  | case2 =>
    intro step
    obtain ⟨closed, close, same⟩ := Option.map_eq_some_iff.mp step
    cases same
    exact h.closeGroup close
  | case3 =>
    rintro ⟨⟩
    exact ⟨h.flags, h.groups⟩
  | case4 | case5 | case6 | case7 =>
    exact h.repeatLast
  | case8 =>
    intro step
    obtain ⟨_, -, step⟩ := Option.bind_eq_some_iff.mp step
    cases step
    exact ⟨h.flags, h.groups⟩

/-- In the groups around, the reader makes the same step, if it makes one at all: there, the name of
a group may be taken. -/
theorem step_within (h : s.flags.extended = false) (step : s.step? c t = some (s', rest))
    {r : ReaderState × Text} (inside : (s.within around).step? c (t ++ ')' :: u) = some r) :
    r = (s'.within around, rest ++ ')' :: u) := by
  revert step
  fun_cases step? s c t with
  | case1 =>
    intro step
    change (s.within around).openGroup? (t ++ ')' :: u) = some r at inside
    rw [openGroup_eq] at step inside
    obtain ⟨⟨head, behind⟩, read, step⟩ := Option.bind_eq_some_iff.mp step
    obtain ⟨entered, enter, same⟩ := Option.map_eq_some_iff.mp step
    cases same
    rw [show (s.within around).flags = s.flags from rfl, readGroupHead_confined h t _ _ read u,
      Option.bind_some] at inside
    obtain ⟨entered', enter', rfl⟩ := Option.map_eq_some_iff.mp inside
    rw [enter_within enter enter']
  | case2 =>
    intro step
    obtain ⟨closed, close, same⟩ := Option.map_eq_some_iff.mp step
    cases same
    change (s.within around).closeGroup?.map (·, t ++ ')' :: u) = some r at inside
    rw [closeGroup_within close] at inside
    cases inside
    rfl
  | case3 =>
    rintro ⟨⟩
    cases inside
    rfl
  | case4 | case5 | case6 | case7 =>
    intro step
    exact Option.some.inj (inside.symm.trans (repeatLast_within h step))
  | case8 =>
    intro step
    obtain ⟨⟨piece, behind⟩, read, step⟩ := Option.bind_eq_some_iff.mp step
    cases step
    simp only [step?, *] at inside
    rw [show (s.within around).flags = s.flags from rfl,
      readSymbol_confined h c t _ _ read u] at inside
    exact (Option.some.inj inside).symm

theorem step_of_read (h : s.flags.extended = false) (read : s.read? (c :: t) = some e) :
    ∃ s' rest, s.step? c t = some (s', rest) ∧ rest.length ≤ t.length ∧ s'.read? rest = some e := by
  rw [read?, s.flags.skip_eq h] at read
  obtain ⟨⟨s', rest⟩, step, read⟩ := Option.bind_eq_some_iff.mp read
  dsimp only at read
  split at read
  · rename_i shorter
    exact ⟨s', rest, step, Nat.le_of_lt_succ shorter, read⟩
  · cases read

theorem isFlagFree_cons (h : s.flags.extended = false) (free : s.isFlagFree (c :: t) = true) :
    (c = '(' → setsFlags t = false) ∧ ∀ s' rest, s.step? c t = some (s', rest) →
      rest.length ≤ t.length → s'.isFlagFree rest = true := by
  rw [isFlagFree, s.flags.skip_eq h, Bool.and_eq_true] at free
  obtain ⟨here, later⟩ := free
  refine ⟨?_, fun s' rest step shorter => ?_⟩
  · rintro rfl
    simpa using here
  · rw [step] at later
    simpa only [List.length_cons, Nat.lt_succ_of_le shorter, ↓reduceDIte] using later

/-- At the end of the text no group is open. -/
theorem of_read_nil (h : s.flags.extended = false) (read : s.read? [] = some e) :
    s.groups = [] ∧ e = s.level.close.expr := by
  rw [read?, s.flags.skip_eq h] at read
  dsimp only [finish?] at read
  split at read
  · rename_i closed
    split at read
    · cases read
      exact ⟨List.isEmpty_iff.mp closed, rfl⟩
    · cases read
  · cases read

/-- In the groups around, the reader comes to the parenthesis that closes the innermost one, and has
read there what it reads on its own. -/
theorem read_within {g : OpenGroup} {outer : List OpenGroup} (h : s.KeepsBlanks)
    (free : s.isFlagFree t = true) (read : s.read? t = some e) (opened : around.groups = g :: outer)
    (inside : (s.within around).read? (t ++ ')' :: u) = some e') : ∃ names depth,
      read? { flags := g.flags, names, level := g.before.add ⟨.group g.numbered e, depth, false⟩,
              groups := outer } u = some e' := by
  induction hn : t.length using Nat.strong_induction_on generalizing s t with
  | _ n ih =>
    cases t with
    | nil =>
      obtain ⟨closed, rfl⟩ := of_read_nil h.flags read
      obtain ⟨s', rest, step, -, inside⟩ := step_of_read (s := s.within around) h.flags inside
      have groups : (s.within around).groups = g :: outer := by
        rw [within, closed, opened]
        rfl
      change (s.within around).closeGroup?.map (·, u) = some (s', rest) at step
      rw [closeGroup?, groups] at step
      cases step
      exact ⟨_, _, inside⟩
    | cons c t =>
      obtain ⟨s', rest, step, shorter, read⟩ := step_of_read h.flags read
      obtain ⟨here, later⟩ := isFlagFree_cons h.flags free
      obtain ⟨_, _, step', -, inside⟩ := step_of_read (s := s.within around) h.flags inside
      cases step_within h.flags step step'
      exact ih _ (hn ▸ Nat.lt_succ_of_le shorter) (h.step here step) (later s' rest step shorter)
        read inside rfl

/-- A group around a text that is an expression by itself is one piece of what is read. -/
theorem read_group {before : Level} {names : List Text} (free : isFlagFree {} t = true)
    (read : read? {} t = some e)
    (whole : read? { level := before, names } ('(' :: '?' :: ':' :: (t ++ ')' :: u)) = some e') :
    ∃ names depth,
      read? { level := before.add ⟨.group false e, depth, false⟩, names } u = some e' := by
  let around : ReaderState := { names, groups := [⟨before, {}, false⟩] }
  obtain ⟨s', rest, opened, -, whole⟩ := step_of_read rfl whole
  cases opened
  have inside : (within {} around).read? (t ++ ')' :: u) = some e' := whole
  exact read_within ⟨rfl, List.forall_mem_nil _⟩ free read rfl inside

end ReaderState

/-- Two expressions as the alternatives of one, each in a group of its own. -/
def alternation (t₁ t₂ : Text) : Text :=
  ['(', '?', ':'] ++ t₁ ++ [')', '|', '(', '?', ':'] ++ t₂ ++ [')']

/-- No group of the expression, and no directive in it, sets flags. -/
def FlagFree (t : Text) : Prop := ReaderState.isFlagFree {} t = true

theorem read_alternation {t₁ t₂ : Text} {e₁ e₂ e : Expr} (free₁ : FlagFree t₁) (free₂ : FlagFree t₂)
    (h₁ : Expr.read? t₁ = some e₁) (h₂ : Expr.read? t₂ = some e₂)
    (h : Expr.read? (alternation t₁ t₂) = some e) :
    e = .alternate (.group false e₁) (.group false e₂) := by
  have spelled : alternation t₁ t₂ =
      '(' :: '?' :: ':' :: (t₁ ++ ')' :: '|' :: '(' :: '?' :: ':' :: (t₂ ++ [')'])) := by
    simp [alternation]
  rw [spelled] at h
  obtain ⟨names, depth, h⟩ := ReaderState.read_group free₁ h₁ h
  obtain ⟨_, _, step, -, h⟩ := ReaderState.step_of_read rfl h
  cases step
  obtain ⟨_, _, h⟩ := ReaderState.read_group free₂ h₂ h
  exact (ReaderState.of_read_nil rfl h).2

end Backtrack.Pattern
