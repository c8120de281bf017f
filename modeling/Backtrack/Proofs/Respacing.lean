import Backtrack.Proofs.Lockstep
import Backtrack.Proofs.WhiteSpace
import Mathlib.Data.List.TakeWhile

/-!
# White space between words

A grammar of tokens does not see how much white space there is between two words, and of
which kind: `parse_respaced`. Its parsers stop in front of a word or at the end of the text,
and there the texts go on with the same words.
-/

namespace Backtrack

open Unicode

/-- The texts have the same characters, where white space between them, as long as it can be, has
become other white space, and that at the end may be there or not. -/
inductive SameWords : Text → Text → Prop
  | trailing {w w' : Text} (hw : Blank w) (hw' : Blank w') : SameWords w w'
  | char {c : Char} {t t' : Text} (hc : isBlank c = false) (h : SameWords t t') :
    SameWords (c :: t) (c :: t')
  | gap {c : Char} {w w' t t' : Text} (hw : Blank w) (hw' : Blank w') (hne : w ≠ [])
    (hne' : w' ≠ []) (hc : isBlank c = false) (h : SameWords t t') :
    SameWords (w ++ c :: t) (w' ++ c :: t')

/-- The white space at the start of the one text and in it has become other white space in the other
one: where there was some between two words there still is, and at both ends there may be any. -/
def Respaced (s s' : Text) : Prop := SameWords (s.dropWhile isBlank) (s'.dropWhile isBlank)

/-- What two parses have in common that differ in white space only. -/
inductive Agreement {α : Type} :
    Except Halt (Except ParseError α) → Except Halt (Except ParseError α) → Prop
  | halt (e : Halt) : Agreement (.error e) (.error e)
  | accepted (a : α) : Agreement (.ok (.ok a)) (.ok (.ok a))
  | noMatch : Agreement (.ok (.error .noMatch)) (.ok (.error .noMatch))
  | ambiguous (n : Nat) : Agreement (.ok (.error (.ambiguous n))) (.ok (.error (.ambiguous n)))
  | incomplete {r r' : Text} (h : Respaced r r') :
    Agreement (.ok (.error (.incomplete r))) (.ok (.error (.incomplete r')))

/-! ## Texts with the same words -/

namespace SameWords

variable {t t' : Text}

theorem drop (h : SameWords t t') :
    SameWords (t.dropWhile isBlank) (t'.dropWhile isBlank) := by
  cases h with
  | trailing hw hw' =>
    rw [List.dropWhile_eq_nil_iff.mpr hw, List.dropWhile_eq_nil_iff.mpr hw']
    exact .trailing nofun nofun
  | char hc h =>
    rw [(stops_cons hc _).dropWhile_eq, (stops_cons hc _).dropWhile_eq]
    exact .char hc h
  | gap hw hw' _ _ hc h =>
    rw [dropWhile_append_of_stops hw (stops_cons hc _),
      dropWhile_append_of_stops hw' (stops_cons hc _)]
    exact .char hc h

/-- Either both texts are at white space or at their end, or they go on with the same character. -/
theorem head (h : SameWords t t') :
    (∀ c ∈ t.head?, isBlank c) ∧ (∀ c ∈ t'.head?, isBlank c) ∨
      ∃ c u u', t = c :: u ∧ t' = c :: u' ∧ isBlank c = false ∧ SameWords u u' := by
  cases h with
  | trailing hw hw' =>
    exact .inl ⟨fun c hc => hw c (List.mem_of_mem_head? hc),
      fun c hc => hw' c (List.mem_of_mem_head? hc)⟩
  | char hc h => exact .inr ⟨_, _, _, rfl, rfl, hc, h⟩
  | gap hw hw' hne hne' hc h =>
    rw [List.head?_append_of_ne_nil _ hne, List.head?_append_of_ne_nil _ hne']
    exact .inl ⟨fun c hc => hw c (List.mem_of_mem_head? hc),
      fun c hc => hw' c (List.mem_of_mem_head? hc)⟩

end SameWords

/-- How many characters of the text are no white space. -/
def letters (t : Text) : Nat := t.countP fun c => !isBlank c

theorem letters_of_blank {w : Text} (hw : Blank w) : letters w = 0 := by
  apply List.countP_eq_zero.mpr
  intro c hc
  simp [hw c hc]

theorem letters_append (a b : Text) : letters (a ++ b) = letters a + letters b :=
  List.countP_append

theorem letters_cons {c : Char} (hc : isBlank c = false) (t : Text) :
    letters (c :: t) = letters t + 1 := by
  simp [letters, hc]

theorem SameWords.letters_eq {t t' : Text} (h : SameWords t t') : letters t = letters t' := by
  induction h with
  | trailing hw hw' => rw [letters_of_blank hw, letters_of_blank hw']
  | char hc _ ih => rw [letters_cons hc, letters_cons hc, ih]
  | gap hw hw' _ _ hc _ ih =>
    rw [letters_append, letters_append, letters_of_blank hw, letters_of_blank hw', letters_cons hc,
      letters_cons hc, ih]

/-! ## Places in two texts -/

/-- What is left of the texts `s` and `s'` has the same words. -/
structure Alongside (s s' t t' : Text) : Prop where
  words : SameWords t t'
  left : t <:+ s
  right : t' <:+ s'

/-- So it has, and it does not start with white space. -/
structure AtWord (s s' t t' : Text) : Prop extends Alongside s s' t t' where
  start : Stops isBlank t
  start' : Stops isBlank t'

variable {s s' t t' u u' : Text}

theorem Alongside.atWord (h : Alongside s s' t t') :
    AtWord s s' (t.dropWhile isBlank) (t'.dropWhile isBlank) where
  words := h.words.drop
  left := (List.dropWhile_suffix _).trans h.left
  right := (List.dropWhile_suffix _).trans h.right
  start := stops_dropWhile _ _
  start' := stops_dropWhile _ _

/-- Of two suffixes, where the second starts with a word or is empty, the one with fewer characters
of words is the shorter one. -/
theorem byteLength_lt_iff_letters_lt (hu : u <:+ s) (ht : t <:+ s) (start : Stops isBlank t) :
    byteLength u < byteLength t ↔ letters u < letters t := by
  rcases List.suffix_or_suffix_of_suffix hu ht with ⟨w, rfl⟩ | ⟨w, rfl⟩
  · rw [byteLength_append, letters_append]
    cases w with
    | nil => simp [letters]
    | cons c w =>
      have hc : isBlank c = false := start c rfl
      have := c.utf8Size_pos
      rw [byteLength_cons, letters_cons hc]
      omega
  · rw [byteLength_append, letters_append]
    omega

theorem progressive_atWord (s s' : Text) : Progressive (AtWord s s') := by
  intro t t' u u' ht hu
  rw [byteLength_lt_iff_letters_lt hu.left ht.left ht.start,
    byteLength_lt_iff_letters_lt hu.right ht.right ht.start', hu.words.letters_eq,
    ht.words.letters_eq]

theorem eq_nil_of_stops (stop : Stops isBlank t) (h : ∀ c ∈ t.head?, isBlank c) : t = [] := by
  cases t with
  | nil => rfl
  | cons c t =>
    have := stop c rfl
    rw [h c rfl] at this
    cases this

theorem AtWord.nil_iff (h : AtWord s s' t t') : t = [] ↔ t' = [] := by
  rcases h.words.head with ⟨blank, blank'⟩ | ⟨c, u, u', rfl, rfl, -, -⟩
  · rw [eq_nil_of_stops h.start blank, eq_nil_of_stops h.start' blank']
  · simp

/-! ## Tokens -/

theorem stripStart_of_blank {c : Char} (hc : isBlank c = false) (text : Text)
    (h : ∀ d ∈ t.head?, isBlank d) : stripStart (c :: text) t = none := by
  cases t with
  | nil => rfl
  | cons d t =>
    have other : c ≠ d := by
      rintro rfl
      rw [h c rfl] at hc
      cases hc
    simp only [stripStart, other, ↓reduceIte]

/-- A word is at the start of both texts, or of none of them. -/
theorem SameWords.stripStart {text : Text} (htext : ∀ c ∈ text, isBlank c = false)
    (h : SameWords t t') : Option.Rel SameWords (stripStart text t) (stripStart text t') := by
  induction text generalizing t t' with
  | nil => exact .some h
  | cons c text ih =>
    obtain ⟨hc, htext⟩ := List.forall_mem_cons.mp htext
    rcases h.head with ⟨blank, blank'⟩ | ⟨d, u, u', rfl, rfl, -, hu⟩
    · rw [stripStart_of_blank hc text blank, stripStart_of_blank hc text blank']
      exact .none
    · simp only [Backtrack.stripStart]
      split
      · exact ih htext hu
      · exact .none

theorem respects_literal {text : Text} (htext : ∀ c ∈ text, isBlank c = false) :
    (Behaviour.split fun t => (stripStart text t).map (text, ·)).Respects (Alongside s s')
      (Alongside s s') := by
  apply Behaviour.Respects.split
  intro t t' h
  have both := h.words.stripStart htext
  cases hu : stripStart text t with
  | none =>
    cases hu' : stripStart text t' with
    | none => exact .none
    | some u' => rw [hu, hu'] at both; cases both
  | some u =>
    cases hu' : stripStart text t' with
    | none => rw [hu, hu'] at both; cases both
    | some u' =>
      rw [hu, hu'] at both
      cases both with
      | some words =>
        have left : u <:+ t := ⟨text, append_of_stripStart hu⟩
        have right : u' <:+ t' := ⟨text, append_of_stripStart hu'⟩
        exact .some ⟨rfl, words, left.trans h.left, right.trans h.right⟩

/-- One character that passes the test. -/
def letter (keep : Char → Attempt Bool) : Behaviour Unit Char :=
  (Behaviour.split fun t => t.head?.map (·, t.tail)).tryFilter keep

theorem letter_cons (keep : Char → Attempt Bool) (c : Char) (t : Text) :
    letter keep (c :: t) = Run.attempt (keep c) >>= fun kept =>
      pure (if kept then [(c, t)] else []) := by
  simp only [letter, Behaviour.tryFilter, Behaviour.split, List.head?_cons, Option.map_some,
    List.tail_cons, Option.toList_some, pure_bind, filterEach]

theorem letter_of_blank {keep : Char → Attempt Bool} (hkeep : ∀ c, isBlank c → keep c = .ok false)
    (h : ∀ c ∈ t.head?, isBlank c) : letter keep t = pure [] := by
  cases t with
  | nil => rfl
  | cons c t =>
    rw [letter_cons, hkeep c (h c rfl)]
    rfl

theorem respects_letter {keep : Char → Attempt Bool} (hkeep : ∀ c, isBlank c → keep c = .ok false) :
    (letter keep).Respects (Alongside s s') (Alongside s s') := by
  intro t t' h
  rcases h.words.head with ⟨blank, blank'⟩ | ⟨c, u, u', rfl, rfl, -, hu⟩
  · rw [letter_of_blank hkeep blank, letter_of_blank hkeep blank']
    exact .pure .nil
  · rw [letter_cons, letter_cons]
    apply Lockstep.bind (.attempt (keep c))
    rintro kept _ rfl
    apply Lockstep.pure
    cases kept with
    | false => exact .nil
    | true =>
      exact .cons ⟨rfl, hu, (List.suffix_cons c u).trans h.left,
        (List.suffix_cons c u').trans h.right⟩ .nil

/-- After a character that passes the test it is tried to take another one. -/
theorem repeatFrom_letter_cons (keep : Char → Attempt Bool) (items : List Char) (c : Char)
    (t : Text) : repeatFrom (letter keep) items (c :: t) = Run.attempt (keep c) >>= fun kept =>
      if kept then repeatFrom (letter keep) (c :: items) t else pure (items.reverse, c :: t) := by
  have progress : byteLength t < byteLength (c :: t) := by
    have := c.utf8Size_pos
    rw [byteLength_cons]
    omega
  rw [repeatFrom, letter_cons, bind_assoc]
  apply bind_congr
  intro kept
  cases kept with
  | false => simp only [Bool.false_eq_true, ↓reduceIte, pure_bind]
  | true => simp only [↓reduceIte, pure_bind, progress, ↓reduceDIte]

/-- A run of characters that pass the test ends in both texts at the same place of a word. -/
theorem lockstep_letters {keep : Char → Attempt Bool}
    (hkeep : ∀ c, isBlank c → keep c = .ok false) (items : List Char) (h : Alongside s s' t t') :
    Lockstep (fun c c' => c.1 = c'.1 ∧ Alongside s s' c.2 c'.2) (repeatFrom (letter keep) items t)
      (repeatFrom (letter keep) items t') := by
  have stop (items : List Char) {t : Text} (blank : ∀ c ∈ t.head?, isBlank c) :
      repeatFrom (letter keep) items t = pure (items.reverse, t) := by
    rw [repeatFrom, letter_of_blank hkeep blank, pure_bind]
  induction t generalizing t' items with
  | nil =>
    rcases h.words.head with ⟨blank, blank'⟩ | ⟨_, _, _, ⟨⟩, _⟩
    rw [stop items blank, stop items blank']
    exact .pure ⟨rfl, h⟩
  | cons d t ih =>
    rcases h.words.head with ⟨blank, blank'⟩ | ⟨c, u, u', ⟨⟩, rfl, -, hu⟩
    · rw [stop items blank, stop items blank']
      exact .pure ⟨rfl, h⟩
    · rw [repeatFrom_letter_cons, repeatFrom_letter_cons]
      apply Lockstep.bind (.attempt (keep d))
      rintro kept _ rfl
      cases kept with
      | false => exact .pure ⟨rfl, h⟩
      | true =>
        apply ih
        exact ⟨hu, (List.suffix_cons d t).trans h.left, (List.suffix_cons d u').trans h.right⟩

theorem respects_letters {keep : Char → Attempt Bool}
    (hkeep : ∀ c, isBlank c → keep c = .ok false) :
    (letter keep).some.Respects (Alongside s s') (Alongside s s') :=
  fun t t' h => .bind (respects_letter hkeep t t' h) fun _ _ hcs =>
    SameResults.mapM (fun c _ _ hu => lockstep_letters hkeep [c] hu) hcs

/-- The parser is made of words, of runs of characters that are no white space, and of parsers that
read nothing. White space is dropped after each word and each run. -/
inductive Parser.Tokenised : {Γ : Scopes} → {α : Type} → Parser Γ α → Prop
  | pure {Γ : Scopes} {α : Type} (value : α) : Tokenised (.pure value : Parser Γ α)
  | empty {Γ : Scopes} {α : Type} : Tokenised (.empty : Parser Γ α)
  | raise {Γ : Scopes} {α : Type} (f : Fault) : Tokenised (.raise f : Parser Γ α)
  | endOfText {Γ : Scopes} : Tokenised (.endOfText : Parser Γ Unit)
  | word {Γ : Scopes} {text : Text} (h : ∀ c ∈ text, isBlank c = false) :
    Tokenised (.token (.literal text) : Parser Γ Text)
  | run {Γ : Scopes} {keep : Char → Attempt Bool} (h : ∀ c, isBlank c → keep c = .ok false) :
    Tokenised (.token (.some (.tryFilter .item keep)) : Parser Γ (List Char))
  | tryMap {Γ : Scopes} {α β : Type} {p : Parser Γ α} (f : α → Attempt β) (h : Tokenised p) :
    Tokenised (.tryMap p f)
  | bind {Γ : Scopes} {α β : Type} {p : Parser Γ α} {next : α → Parser Γ β} (h : Tokenised p)
    (hn : ∀ a, Tokenised (next a)) : Tokenised (.bind p next)
  | union {Γ : Scopes} {α : Type} {p q : Parser Γ α} (h₁ : Tokenised p) (h₂ : Tokenised q) :
    Tokenised (.union p q)
  | committed {Γ : Scopes} {α : Type} {p q : Parser Γ α} (h₁ : Tokenised p) (h₂ : Tokenised q) :
    Tokenised (.committed p q)
  | orElse {Γ : Scopes} {α : Type} {p q : Parser Γ α} (h₁ : Tokenised p) (h₂ : Tokenised q) :
    Tokenised (.orElse p q)
  | tryFilter {Γ : Scopes} {α : Type} {p : Parser Γ α} (keep : α → Attempt Bool)
    (h : Tokenised p) : Tokenised (.tryFilter p keep)
  | optional {Γ : Scopes} {α : Type} {p : Parser Γ α} (h : Tokenised p) : Tokenised (.optional p)
  | many {Γ : Scopes} {α : Type} {p : Parser Γ α} (h : Tokenised p) : Tokenised (.many p)
  | some {Γ : Scopes} {α : Type} {p : Parser Γ α} (h : Tokenised p) : Tokenised (.some p)
  | separatedByAtLeastOne {Γ : Scopes} {α β : Type} {p : Parser Γ α} {q : Parser Γ β}
    (h₁ : Tokenised p) (h₂ : Tokenised q) : Tokenised (.separatedByAtLeastOne p q)
  | separatedBy {Γ : Scopes} {α β : Type} {p : Parser Γ α} {q : Parser Γ β} (h₁ : Tokenised p)
    (h₂ : Tokenised q) : Tokenised (.separatedBy p q)
  | chain {Γ : Scopes} {α : Type} {p : Parser Γ α} {q : Parser Γ (α → α → Attempt α)}
    (h₁ : Tokenised p) (h₂ : Tokenised q) : Tokenised (.chain p q)
  | then {Γ : Scopes} {α β : Type} {p : Parser Γ α} {q : Parser Γ β} (h₁ : Tokenised p)
    (h₂ : Tokenised q) : Tokenised (.then p q)
  | ap {Γ : Scopes} {α β : Type} {p : Parser Γ (α → Attempt β)} {q : Parser Γ α}
    (h₁ : Tokenised p) (h₂ : Tokenised q) : Tokenised (.ap p q)
  | token {Γ : Scopes} {α : Type} {p : Parser Γ α} (h : Tokenised p) : Tokenised (.token p)
  | debug {Γ : Scopes} {α : Type} {p : Parser Γ α} (mark : Mark) (h : Tokenised p) :
    Tokenised (.debug mark p)
  | handle {Γ : Scopes} {α : Type} (h : Handle Γ α) : Tokenised (.handle h)
  | define {Γ : Scopes} {α β : Type} (state : Lifetime) {definition : Parser (β :: Γ) β}
    {body : Parser (β :: Γ) α} (h₁ : Tokenised definition) (h₂ : Tokenised body) :
    Tokenised (.define state definition body)

namespace Parser.Tokenised

variable {Γ : Scopes} {α : Type} {p : Parser Γ α}

/-- The parser has no candidates from functions. -/
theorem customs {P : CustomCondition} (h : p.Tokenised) : p.Customs P := by
  induction h with
  | pure | empty | raise | endOfText | word | run | handle => trivial
  | tryMap _ _ ih | tryFilter _ _ ih | optional _ ih | many _ ih | some _ ih | token _ ih
  | debug _ _ ih => exact ih
  | bind _ _ ih ihn => exact ⟨ih, ihn⟩
  | union _ _ ih₁ ih₂ | committed _ _ ih₁ ih₂ | orElse _ _ ih₁ ih₂
  | separatedByAtLeastOne _ _ ih₁ ih₂ | separatedBy _ _ ih₁ ih₂ | chain _ _ ih₁ ih₂
  | «then» _ _ ih₁ ih₂ | ap _ _ ih₁ ih₂ | define _ _ _ ih₁ ih₂ => exact ⟨ih₁, ih₂⟩

/-- A grammar of tokens goes in lockstep on texts that go on with the same words. -/
theorem respects (h : p.Tokenised) (depth : Nat) {store : Store Unit Γ}
    (hstore : ∀ ⦃β : Type⦄ (h : Handle Γ β),
      (store h).behaviour.Respects (AtWord s s') (AtWord s s')) :
    (p.behaviour .silent depth store).Respects (AtWord s s') (AtWord s s') := by
  have hR := progressive_atWord s s'
  induction h with
  | pure value => exact .pure value
  | empty => exact .split fun _ _ _ => .none
  | raise f => exact .halt (.fault f)
  | endOfText =>
    apply Behaviour.Respects.split
    intro t t' ht
    cases t with
    | nil =>
      cases ht.nil_iff.mp rfl
      exact .some ⟨rfl, ht⟩
    | cons c t =>
      cases t' with
      | nil => cases ht.nil_iff.mpr rfl
      | cons _ _ => exact .none
  | word htext =>
    have word : (Behaviour.split _).Respects (AtWord s s') (Alongside s s') :=
      fun t t' ht => respects_literal htext t t' ht.toAlongside
    exact word.token fun _ _ hu => hu.atWord
  | run hkeep =>
    have run : (letter _).some.Respects (AtWord s s') (Alongside s s') :=
      fun t t' ht => respects_letters hkeep t t' ht.toAlongside
    exact run.token fun _ _ hu => hu.atWord
  | tryMap f _ ih => exact (ih hstore).tryMap f
  | bind _ _ ih ihn => exact (ih hstore).bind fun a => ihn a hstore
  | union _ _ ih₁ ih₂ => exact (ih₁ hstore).union (ih₂ hstore)
  | committed _ _ ih₁ ih₂ => exact (ih₁ hstore).committed (ih₂ hstore)
  | orElse _ _ ih₁ ih₂ => exact (ih₁ hstore).orElse (ih₂ hstore)
  | tryFilter keep _ ih => exact (ih hstore).tryFilter keep
  | optional _ ih => exact (ih hstore).optional
  | many _ ih => exact (ih hstore).many hR
  | some _ ih => exact (ih hstore).some hR
  | separatedByAtLeastOne _ _ ih₁ ih₂ => exact (ih₁ hstore).separatedByAtLeastOne hR (ih₂ hstore)
  | separatedBy _ _ ih₁ ih₂ => exact (ih₁ hstore).separatedBy hR (ih₂ hstore)
  | chain _ _ ih₁ ih₂ => exact (ih₁ hstore).chain hR (ih₂ hstore)
  | «then» _ _ ih₁ ih₂ => exact (ih₁ hstore).then (ih₂ hstore)
  | ap _ _ ih₁ ih₂ => exact (ih₁ hstore).ap (ih₂ hstore)
  | token _ ih => exact (ih hstore).token fun _ _ hu => hu.toAlongside.atWord
  | debug mark _ ih => exact (ih hstore).debug mark
  | handle h => exact hstore h
  | define state _ _ ih₁ ih₂ =>
    apply ih₂
    rintro β (_ | h)
    · cases state with
      | underConstruction => exact .halt (.fault .undefined)
      | alive =>
        refine .unfold (fun b hb => ih₁ ?_) depth
        rintro β (_ | h)
        · exact hb
        · exact hstore h
      | dropped => exact .halt (.fault .dropped)
    · exact hstore h

end Parser.Tokenised

/-! ## Verdicts -/

/-- The same results leave nothing, and the shortest texts that are left are related. -/
structure SameTally {α : Type} (s s' : Text) (tally tally' : Tally α) : Prop where
  complete : tally.complete = tally'.complete
  shortest : Option.Rel (AtWord s s') tally.shortest tally'.shortest

theorem SameTally.add {α : Type} {tally tally' : Tally α} (h : SameTally s s' tally tally') {a : α}
    (ht : AtWord s s' t t') : SameTally s s' (tally.add (a, t)) (tally'.add (a, t')) := by
  have ends : t.isEmpty = t'.isEmpty := by
    rw [Bool.eq_iff_iff, List.isEmpty_iff, List.isEmpty_iff, ht.nil_iff]
  have shorter : (tally.shortest.all fun u => byteLength t < byteLength u) =
      tally'.shortest.all fun u => byteLength t' < byteLength u := by
    obtain ⟨-, hs⟩ := h
    revert hs
    rcases tally.shortest with _ | u <;> rcases tally'.shortest with _ | u' <;> intro hs
    · rfl
    · cases hs
    · cases hs
    · cases hs with
      | some hu =>
        rw [Bool.eq_iff_iff, Option.all_some, Option.all_some, decide_eq_true_eq,
          decide_eq_true_eq, progressive_atWord s s' u u' t t' hu ht]
  simp only [Tally.add, ← ends, ← shorter]
  split
  · exact ⟨congrArg (a :: ·) h.complete, h.shortest⟩
  · split
    · exact ⟨h.complete, .some ht⟩
    · exact h

theorem SameTally.foldl {α : Type} {cs cs' : Candidates α} (hcs : SameResults (AtWord s s') cs cs')
    {tally tally' : Tally α} (h : SameTally s s' tally tally') :
    SameTally s s' (cs.foldl Tally.add tally) (cs'.foldl Tally.add tally') := by
  induction hcs generalizing tally tally' with
  | nil => exact h
  | @cons c c' _ _ hc _ ih =>
    obtain ⟨a, u⟩ := c
    obtain ⟨_, u'⟩ := c'
    obtain ⟨rfl, hu⟩ := hc
    exact ih (h.add hu)

theorem agreement_verdict {α : Type} {cs cs' : Candidates α}
    (hcs : SameResults (AtWord s s') cs cs') :
    Agreement (.ok (verdict cs)) (.ok (verdict cs')) := by
  have start : SameTally s s' ({} : Tally α) {} := ⟨rfl, .none⟩
  have tallies := start.foldl hcs
  simp only [verdict]
  generalize cs.foldl Tally.add {} = tally, cs'.foldl Tally.add {} = tally' at tallies
  obtain ⟨complete, shortest⟩ := tally
  obtain ⟨complete', shortest'⟩ := tally'
  obtain ⟨rfl, hshortest⟩ := tallies
  rcases complete with _ | ⟨a, _ | ⟨b, more⟩⟩
  · cases hshortest with
    | none => exact .noMatch
    | some hu =>
      apply Agreement.incomplete
      rw [Respaced, hu.start.dropWhile_eq, hu.start'.dropWhile_eq]
      exact hu.words
  · exact .accepted a
  · exact .ambiguous _

/-- **White space between words does not matter.** A grammar of tokens takes texts to the same
verdict that differ in white space only: it accepts both with the same result, or it accepts none
for the same reason. What is left of them differs in white space only, too. -/
theorem parse_respaced {α : Type} {p : Parser [] α} (hp : p.Tokenised) (h : Respaced s s') :
    Agreement (p.parse s) (p.parse s') := by
  have start : AtWord s s' (s.dropWhile isBlank) (s'.dropWhile isBlank) :=
    { words := h
      left := List.dropWhile_suffix _
      right := List.dropWhile_suffix _
      start := stops_dropWhile _ _
      start' := stops_dropWhile _ _ }
  -- The texts differ in length, so the runs are compared at a depth that is enough for both.
  have depth : s.length < s.length + s'.length + 1 := by omega
  have depth' : s'.length < s.length + s'.length + 1 := by omega
  rw [Parser.parse, Parser.parse, apply_eq_of_length_lt hp.customs depth,
    apply_eq_of_length_lt hp.customs depth']
  rcases hp.respects (s.length + s'.length + 1) nofun _ _ start with
    ⟨e, h, h'⟩ | ⟨cs, cs', h, h', same⟩
  · rw [h, h']
    exact .halt e
  · rw [h, h']
    exact agreement_verdict same

/-- Rows of strokes with commas between them. -/
def strokes : Parser [] (List (List Char)) :=
  (Parser.satisfy (· == '|')).some.token.separatedBy (.symbol [','])

theorem parse_respaced_strokes :
    strokes.Tokenised ∧
    Respaced [' ', '|', '|', ' ', ',', '|'] ['|', '|', '\t', '\n', ',', '|', ' '] ∧
    Agreement (strokes.parse [' ', '|', '|', ' ', ',', '|'])
      (strokes.parse ['|', '|', '\t', '\n', ',', '|', ' ']) := by
  have stroke (c : Char) (hc : isBlank c) : (.ok (c == '|') : Attempt Bool) = .ok false := by
    rw [beq_eq_false_iff_ne.mpr]
    rintro rfl
    cases hc
  have tokenised : strokes.Tokenised :=
    .separatedBy (.run stroke) (.word (List.forall_mem_singleton.mpr rfl))
  have respaced :
      Respaced [' ', '|', '|', ' ', ',', '|'] ['|', '|', '\t', '\n', ',', '|', ' '] := by
    change SameWords ('|' :: '|' :: ([' '] ++ ',' :: ['|']))
      ('|' :: '|' :: (['\t', '\n'] ++ ',' :: ['|', ' ']))
    have blank {w : Text} (h : w.all isBlank) : Blank w := List.all_eq_true.mp h
    have last : SameWords ['|'] ['|', ' '] := .char rfl (.trailing nofun (blank rfl))
    exact .char rfl (.char rfl (.gap (blank rfl) (blank rfl) nofun nofun rfl last))
  exact ⟨tokenised, respaced, parse_respaced tokenised respaced⟩

end Backtrack
