import Backtrack.Pattern.Reader
import Mathlib.Data.List.TakeWhile

/-!
# Reading in front of a parenthesis

No part of an expression goes over the parenthesis that closes the group around it. So what is read
of a text is read of it in a group too, with all of the rest of the expression behind. This is said
of each reader on its own, here for escapes and for classes in brackets. It holds outside of the
extended mode only, where a comment may go over the parenthesis.
-/

namespace Backtrack.Pattern

variable {α β : Type} {f : Flags}

/-- What is read of a text does not depend on a closing parenthesis behind the text, nor on what is
behind that. -/
def Confined (read : Text → Option (α × Text)) : Prop :=
  ∀ t x rest, read t = some (x, rest) → ∀ u, read (t ++ ')' :: u) = some (x, rest ++ ')' :: u)

namespace Confined

theorem none : Confined fun _ => (Option.none : Option (α × Text)) := by
  rintro _ _ _ ⟨⟩

theorem pure (x : α) : Confined fun t => Pure.pure (x, t) := by
  rintro t _ _ ⟨⟩ u
  rfl

theorem bind {read : Text → Option (α × Text)} {next : α × Text → Option (β × Text)}
    (h : Confined read) (hn : ∀ a, Confined fun t => next (a, t)) :
    Confined fun t => read t >>= next := by
  intro t x rest found u
  obtain ⟨⟨a, behind⟩, first, found⟩ := Option.bind_eq_some_iff.mp found
  simp only [h t a behind first u, Option.bind_eq_bind, Option.bind_some]
  exact hn a behind x rest found u

theorem map {read : Text → Option (α × Text)} (h : Confined read) (g : α → β) :
    Confined fun t => read t >>= fun a => Pure.pure (g a.1, a.2) :=
  h.bind fun a => .pure (g a)

/-- A condition on what was read before says nothing about the text. -/
theorem guard {o : Option α} {next : α → Text → Option (β × Text)}
    (hn : ∀ a, Confined (next a)) : Confined fun t => o >>= fun a => next a t := by
  cases o with
  | none => exact .none
  | some a => exact hn a

/-- A reader that needs a character at least. -/
theorem cons {read : Text → Option (α × Text)} (nil : read [] = Option.none)
    (hc : ∀ c, Confined fun t => read (c :: t)) : Confined read := by
  rintro (_ | ⟨c, t⟩) x rest h u
  · rw [nil] at h
    cases h
  · exact hc c t x rest h u

theorem behind {read : Text → Option (α × Text)} (h : Confined read) (c : Char) :
    Confined fun t => read (c :: t) :=
  fun t => h (c :: t)

end Confined

theorem Flags.skip_eq (h : f.extended = false) (t : Text) : f.skip t = t := by
  simp only [skip, h, Bool.false_eq_true, ↓reduceIte]

/-! ## Words -/

section Stop

variable {p : Char → Bool} {t : Text}

/-- What is taken up to a character does not depend on what is behind that character. -/
theorem takeWhile_append_of_stop (h : t.dropWhile p ≠ []) (u : Text) :
    (t ++ u).takeWhile p = t.takeWhile p := by
  rw [List.takeWhile_append, if_neg]
  intro same
  have all := (List.takeWhile_prefix p).eq_of_length same
  exact h (List.dropWhile_eq_nil_iff.mpr (List.takeWhile_eq_self_iff.mp all))

theorem dropWhile_append_of_stop (h : t.dropWhile p ≠ []) (u : Text) :
    (t ++ u).dropWhile p = t.dropWhile p ++ u := by
  rw [List.dropWhile_append, if_neg (by simpa only [List.isEmpty_iff] using h)]

end Stop

/-- What is behind the text does not complete a word that the text does not start with. -/
theorem starts_of_append {v t u : Text} (hv : ')' ∉ v) (h : ∀ rest, t = v ++ rest → False)
    (rest : Text) : t ++ ')' :: u = v ++ rest → False := by
  intro same
  obtain ⟨more, rfl, behind⟩ | ⟨more, rfl, -⟩ := List.append_eq_append_iff.mp same
  · cases more with
    | nil => exact h [] (by simp)
    | cons c more =>
      cases behind
      exact hv (by simp)
  · exact h more rfl

theorem stripStart_append_closing {start : Text} (hs : ')' ∉ start) (t u : Text) :
    stripStart start (t ++ ')' :: u) = (stripStart start t).map (· ++ ')' :: u) := by
  induction start generalizing t with
  | nil => rfl
  | cons c start ih =>
    obtain ⟨hc, hs⟩ := not_or.mp (List.mem_cons.not.mp hs)
    cases t with
    | nil => exact if_neg (Ne.symm hc)
    | cons d t =>
      simp only [List.cons_append, stripStart]
      split
      · exact ih hs t
      · rfl

/-! ## Escapes -/

section Escapes

variable (h : f.extended = false)
include h

theorem untilBrace_nil : untilBrace f [] = none := by
  rw [untilBrace]
  split
  · rfl
  all_goals
    rename_i same
    rw [f.skip_eq h] at same
    cases same

theorem untilBrace_cons (c : Char) (t : Text) : untilBrace f (c :: t) =
    if c = '}' then some ([], t)
    else do
      let (more, rest) ← untilBrace f t
      return (c :: more, rest) := by
  rw [untilBrace]
  split <;> rename_i same <;> rw [f.skip_eq h] at same <;> cases same
  · rfl
  · rename_i other
    rw [if_neg other]

theorem untilBrace_confined : Confined (untilBrace f) := by
  intro t
  induction t with
  | nil =>
    intro x rest read
    rw [untilBrace_nil h] at read
    cases read
  | cons c t ih =>
    intro x rest read u
    rw [untilBrace_cons h] at read
    rw [List.cons_append, untilBrace_cons h]
    split at read
    · rename_i brace
      cases read
      rw [if_pos brace]
    · rename_i other
      obtain ⟨⟨more, behind⟩, first, same⟩ := Option.bind_eq_some_iff.mp read
      cases same
      rw [if_neg other, ih _ _ first u]
      rfl

theorem takeSkipping_confined (n : Nat) : Confined (takeSkipping f n) := by
  induction n with
  | zero => exact .pure []
  | succ n ih =>
    refine .cons rfl fun c => ?_
    simp only [takeSkipping, f.skip_eq h]
    exact ih.bind fun more => .pure (c :: more)

theorem readHex_of_ne {c : Char} (hc : c ≠ '{') (digits : Nat) (t : Text) :
    readHex f digits (c :: t) = (do
      let (name, rest) ← takeSkipping f digits (c :: t)
      return (.char (← hexChar? name), rest)) := by
  simp only [readHex, f.skip_eq h]
  split
  · rename_i same
    cases same
    exact absurd rfl hc
  · rfl

theorem readHex_confined (digits : Nat) : Confined (readHex f digits) := by
  refine .cons ?_ fun c => ?_
  · simp only [readHex, f.skip_eq h]
    cases digits <;> rfl
  · by_cases brace : c = '{'
    · subst brace
      simp only [readHex, f.skip_eq h]
      refine (untilBrace_confined h).bind fun name => ?_
      dsimp only
      exact .guard fun c => .pure _
    · simp only [readHex_of_ne h brace]
      refine ((takeSkipping_confined h digits).behind c).bind fun name => ?_
      dsimp only
      exact .guard fun c => .pure _

theorem readProperty_confined (negated : Bool) : Confined (readProperty f negated) := by
  -- Without the Unicode flag, a property is refused when it has been read.
  have finish (s : CharSet) : Confined fun t => (if !f.unicode then do
      none
      let s ← f.finish? negated s
      pure (Primitive.members s, t)
    else do
      let s ← f.finish? negated s
      pure (Primitive.members s, t)) := by
    split
    · exact .none
    · exact .guard fun s => .pure _
  refine .cons ?_ fun c => ?_
  · simp only [readProperty, f.skip_eq h]
    rfl
  · by_cases backslash : c = '\\'
    · subst backslash
      simp only [readProperty, f.skip_eq h]
      exact .none
    · by_cases brace : c = '{'
      · subst brace
        simp only [readProperty, f.skip_eq h]
        refine (untilBrace_confined h).bind fun name => ?_
        dsimp only
        exact .guard finish
      · simp only [readProperty, f.skip_eq h]
        exact .guard finish

theorem readEscape_confined : Confined (readEscape f) := by
  intro t
  fun_cases readEscape f t with
  | case1 => rintro _ _ ⟨⟩
  | case2 t => exact readHex_confined h 2 t
  | case3 t => exact readHex_confined h 4 t
  | case4 t => exact readHex_confined h 8 t
  | case5 t => exact readProperty_confined h false t
  | case6 t => exact readProperty_confined h true t
  | case7 t | case8 t | case9 t | case10 t | case11 t | case12 t | case13 t | case14 t | case15 t
  | case16 t =>
    exact Confined.pure _ t
  | case17 c t =>
    simp only [List.cons_append, readEscape, *]
    exact Confined.guard (fun s => .pure _) t
  | case18 c t =>
    simp only [List.cons_append, readEscape, *]
    exact Confined.pure _ t
  | case19 => rintro _ _ ⟨⟩

end Escapes

/-! ## Named classes -/

/-- No named class has a parenthesis in its name. -/
theorem asciiClass?_eq_none {name : Text} (hname : ')' ∈ name) :
    asciiClass? (String.ofList name) = none := by
  unfold asciiClass?
  split
  case h_15 => rfl
  all_goals
    rename_i same
    have spelled := congrArg String.toList same
    rw [String.toList_ofList] at spelled
    subst spelled
    exact absurd hname (by decide)

/-- The rest of a named class behind its first colon and its `^`. -/
def readAsciiName (f : Flags) (negated : Bool) (t : Text) : Option (Option CharSet × Text) := do
  let s ← asciiClass? (String.ofList (t.takeWhile (· != ':')))
  let rest ← stripStart [':', ']'] (t.dropWhile (· != ':'))
  return (f.finish? negated s, rest)

theorem readAsciiName_append (negated : Bool) (t u : Text) :
    readAsciiName f negated (t ++ ')' :: u) =
      (readAsciiName f negated t).map fun (s, rest) => (s, rest ++ ')' :: u) := by
  unfold readAsciiName
  by_cases stop : t.dropWhile (· != ':') = []
  · have parenthesis : ')' ∈ (t ++ ')' :: u).takeWhile (· != ':') := by
      rw [List.takeWhile_append_of_pos (List.dropWhile_eq_nil_iff.mp stop)]
      simp
    rw [asciiClass?_eq_none parenthesis, stop]
    cases asciiClass? (String.ofList (t.takeWhile (· != ':'))) <;> rfl
  · rw [takeWhile_append_of_stop stop, dropWhile_append_of_stop stop,
      stripStart_append_closing (by decide)]
    cases asciiClass? (String.ofList (t.takeWhile (· != ':'))) with
    | none => rfl
    | some s => cases stripStart [':', ']'] (t.dropWhile (· != ':')) <;> rfl

theorem readAsciiClass_eq (t : Text) : readAsciiClass f t = (stripStart [':'] t).bind fun t =>
    if t.head? = some '^' then readAsciiName f true t.tail else readAsciiName f false t := by
  unfold readAsciiClass
  cases stripStart [':'] t with
  | none => rfl
  | some t =>
    rcases t with _ | ⟨c, t⟩
    · rfl
    · by_cases hc : c = '^'
      · subst hc
        rfl
      · simp [hc, readAsciiName]

theorem readAsciiClass_append (t u : Text) : readAsciiClass f (t ++ ')' :: u) =
    (readAsciiClass f t).map fun (s, rest) => (s, rest ++ ')' :: u) := by
  rw [readAsciiClass_eq, readAsciiClass_eq, stripStart_append_closing (by decide)]
  cases stripStart [':'] t with
  | none => rfl
  | some t =>
    simp only [Option.map_some, Option.bind_some]
    rcases t with _ | ⟨c, t⟩
    · exact readAsciiName_append false [] u
    · by_cases hc : some c = some '^'
      · simp only [List.cons_append, List.head?_cons, List.tail_cons, hc, ↓reduceIte,
          readAsciiName_append]
      · simp only [List.cons_append, List.head?_cons, hc, ↓reduceIte]
        exact readAsciiName_append false (c :: t) u

/-! ## Brackets -/

section Brackets

variable (h : f.extended = false)
include h

theorem leadingHyphens_append (b : OpenBracket) (t u : Text) :
    leadingHyphens f b (t ++ ')' :: u) =
      ((leadingHyphens f b t).1, (leadingHyphens f b t).2 ++ ')' :: u) := by
  fun_induction leadingHyphens f b t with
  | case1 b rest ih =>
    rw [f.skip_eq h] at ih
    rw [List.cons_append, leadingHyphens, f.skip_eq h, f.skip_eq h]
    exact ih
  | case2 b t other =>
    rw [leadingHyphens]
    rintro rest same
    rcases t with _ | ⟨c, t⟩
    · cases same
    · cases same
      exact other t rfl

/-- Reads a `]` that comes first in a bracket: it stands for itself. -/
def firstClosing (f : Flags) : OpenBracket × Text → OpenBracket × Text
  | (b, ']' :: rest) =>
    if b.items.isEmpty then (b.add (.single ']') 0, f.skip rest) else (b, ']' :: rest)
  | opened => opened

theorem firstClosing_append (b : OpenBracket) (t u : Text) :
    firstClosing f (b, t ++ ')' :: u) =
      ((firstClosing f (b, t)).1, (firstClosing f (b, t)).2 ++ ')' :: u) := by
  by_cases closing : t.head? = some ']'
  · obtain ⟨t, rfl⟩ := List.head?_eq_some_iff.mp closing
    simp only [List.cons_append, firstClosing, f.skip_eq h]
    split <;> rfl
  · have other : ∀ rest, t = [']'] ++ rest → False := by
      rintro rest rfl
      exact closing rfl
    rw [firstClosing, firstClosing]
    · rintro _ rest ⟨⟩
      exact other rest rfl
    · rintro _ rest same
      exact starts_of_append (by decide) other rest (Prod.mk.inj same).2

/-- A `^` negates a bracket; hyphens and then a `]` may follow. -/
theorem openBracket_eq (t : Text) : openBracket f t =
    firstClosing f (if t.head? = some '^' then leadingHyphens f { negated := true } t.tail
      else leadingHyphens f { negated := false } t) := by
  change firstClosing f _ = _
  rw [f.skip_eq h]
  rcases t with _ | ⟨c, t⟩
  · rfl
  · by_cases hc : c = '^'
    · subst hc
      simp [f.skip_eq h]
    · simp [hc]

theorem openBracket_append (t u : Text) :
    openBracket f (t ++ ')' :: u) = ((openBracket f t).1, (openBracket f t).2 ++ ')' :: u) := by
  rw [openBracket_eq h, openBracket_eq h]
  by_cases hc : t.head? = some '^'
  · obtain ⟨t, rfl⟩ := List.head?_eq_some_iff.mp hc
    simp only [List.cons_append, List.head?_cons, List.tail_cons, ↓reduceIte,
      leadingHyphens_append h, firstClosing_append h]
  · have hc' : (t ++ ')' :: u).head? ≠ some '^' := by
      cases t with
      | nil => simp
      | cons c t => exact hc
    simp only [hc, hc', ↓reduceIte, leadingHyphens_append h, firstClosing_append h]

theorem readClassSymbol_confined : Confined (readClassSymbol f) := by
  intro t
  fun_cases readClassSymbol f t with
  | case1 => rintro _ _ ⟨⟩
  | case2 t => exact readEscape_confined h t
  | case3 c t other =>
    simp only [List.cons_append, readClassSymbol, *]
    exact Confined.pure _ t

/-- The sign behind the next character, where it matters, does not stand behind the text. -/
theorem peekAfter_append (c : Char) (t u : Text) {d : Char} (hd : d ≠ ')') :
    (peekAfter f (c :: (t ++ ')' :: u)) == some d) = (peekAfter f (c :: t) == some d) := by
  simp only [peekAfter, h, List.drop_succ_cons, List.drop_zero, Bool.not_false, ↓reduceIte]
  cases t with
  | nil => simp [hd.symm]
  | cons => rfl

/-- Reads the end of a range, behind the hyphen. -/
def readRange (f : Flags) (first : Primitive) (t : Text) : Option (CharSet × Text) := do
  match ← readClassSymbol f t, first with
  | (.char last, rest), .char first => do
    let _ ← charClass? f first
    let _ ← charClass? f last
    if first ≤ last then return (.range first.toNat last.toNat, rest) else none
  | _, _ => none

theorem readRange_confined (first : Primitive) : Confined (readRange f first) := by
  refine (readClassSymbol_confined h).bind fun last => ?_
  cases last with
  | char last =>
    cases first with
    | char first =>
      refine .guard fun _ => .guard fun _ => ?_
      split
      · exact .pure _
      · exact .none
    | look | members => exact .none
  | look | members => exact .none

theorem readClassItem_confined : Confined (readClassItem f) := by
  unfold readClassItem
  simp only [f.skip_eq h]
  refine (readClassSymbol_confined h).bind fun first => .cons rfl fun c => ?_
  intro t x rest read u
  have closing := peekAfter_append h c t u (d := ']') (by decide)
  have hyphen := peekAfter_append h c t u (d := '-') (by decide)
  simp only [List.isEmpty_cons, List.head?_cons, closing, hyphen, Bool.false_eq_true,
    ↓reduceIte] at read ⊢
  cases single : (some c != some '-' || peekAfter f (c :: t) == some ']' ||
    peekAfter f (c :: t) == some '-') with
  | true =>
    simp only [single, ↓reduceIte] at read ⊢
    exact Confined.guard (fun s => (Confined.pure s).behind c) t x rest read u
  | false =>
    simp only [single, Bool.false_eq_true, ↓reduceIte] at read ⊢
    exact readRange_confined h first t x rest read u

/-- What one step through the brackets that are open ends with: the class of the outermost one, or
the brackets that are open then. -/
def nextBracket (f : Flags) (b : OpenBracket) (outer : List OpenBracket) :
    Text → Option ((Nested ⊕ (OpenBracket × List OpenBracket)) × Text)
  | [] => none
  | '[' :: rest =>
    match readAsciiClass f rest with
    | some (s, rest) => do return (.inr (b.add (← s) 0, outer), rest)
    | none => some (.inr ((openBracket f rest).1, b :: outer), (openBracket f rest).2)
  | ']' :: rest => do
    let closed ← b.close? f
    match outer with
    | [] => return (.inl closed, rest)
    | b :: outer => return (.inr (b.add closed.members closed.depth, outer), rest)
  | '&' :: '&' :: rest => some (.inr (b.startOperation f .intersection, outer), rest)
  | '-' :: '-' :: rest => some (.inr (b.startOperation f .difference, outer), rest)
  | '~' :: '~' :: rest => some (.inr (b.startOperation f .symmetricDifference, outer), rest)
  | t => do
    let (s, rest) ← readClassItem f t
    return (.inr (b.add s 0, outer), rest)

omit h in
theorem readBrackets_eq (b : OpenBracket) (outer : List OpenBracket) (t : Text) :
    readBrackets f b outer t = (nextBracket f b outer (f.skip t)).bind fun
      | (.inl closed, rest) => some (closed, rest)
      | (.inr (b, outer), rest) =>
        if rest.length < t.length then readBrackets f b outer rest else none := by
  rw [readBrackets]
  generalize f.skip t = v
  split
  case h_1 => rfl
  case h_2 rest =>
    simp only [nextBracket]
    cases readAsciiClass f rest with
    | none => rfl
    | some read =>
      obtain ⟨s, rest⟩ := read
      cases s <;> rfl
  case h_3 =>
    simp only [nextBracket]
    cases b.close? f with
    | none => rfl
    | some closed => cases outer <;> rfl
  case h_4 | h_5 | h_6 => rfl
  case h_7 =>
    simp only [nextBracket, *]
    cases readClassItem f v <;> rfl

theorem nextBracket_confined (b : OpenBracket) (outer : List OpenBracket) :
    Confined (nextBracket f b outer) := by
  intro t
  fun_cases nextBracket f b outer t with
  | case1 => rintro _ _ ⟨⟩
  | case2 rest s behind found =>
    simp only [List.cons_append, nextBracket, readAsciiClass_append, found, Option.map_some]
    exact Confined.guard (fun s => .pure _) behind
  | case3 rest found =>
    simp only [List.cons_append, nextBracket, readAsciiClass_append, found, Option.map_none,
      openBracket_append h]
    exact Confined.pure _ _
  | case4 t =>
    intro x rest read u
    obtain ⟨closed, close, read⟩ := Option.bind_eq_some_iff.mp read
    simp only [List.cons_append, nextBracket, close, Option.bind_eq_bind, Option.bind_some]
    cases outer <;> cases read <;> rfl
  | case5 t | case6 t | case7 t => exact Confined.pure _ t
  | case8 t _ opening closing both less differ =>
    intro x rest read u
    rw [nextBracket]
    · exact (readClassItem_confined h).map (fun s => .inr (b.add s 0, outer)) t x rest read u
    · exact fun same => absurd same (by simp)
    · exact starts_of_append (v := ['[']) (by decide) opening
    · exact starts_of_append (v := [']']) (by decide) closing
    · exact starts_of_append (v := ['&', '&']) (by decide) both
    · exact starts_of_append (v := ['-', '-']) (by decide) less
    · exact starts_of_append (v := ['~', '~']) (by decide) differ

theorem readBrackets_confined (b : OpenBracket) (outer : List OpenBracket) :
    Confined (readBrackets f b outer) := by
  intro t
  induction hn : t.length using Nat.strong_induction_on generalizing t b outer with
  | _ n ih =>
    intro x rest read u
    rw [readBrackets_eq, f.skip_eq h] at read ⊢
    obtain ⟨⟨next, behind⟩, step, read⟩ := Option.bind_eq_some_iff.mp read
    rw [nextBracket_confined h b outer t _ _ step u]
    cases next with
    | inl closed =>
      cases read
      rfl
    | inr opened =>
      obtain ⟨b', outer'⟩ := opened
      simp only [Option.bind_some] at read ⊢
      split at read
      · rename_i shorter
        rw [if_pos (by simpa using shorter)]
        exact ih _ (hn ▸ shorter) b' outer' behind rfl x rest read u
      · cases read

theorem readClass_confined : Confined (readClass f) := by
  intro t x rest read u
  unfold readClass at read ⊢
  rw [openBracket_append h]
  exact readBrackets_confined h _ _ _ x rest read u

end Brackets

end Backtrack.Pattern
