import Backtrack.Calculator.Grammar
import Backtrack.Parser.Apply
import Backtrack.Proofs.CalculatorLanguage
import Backtrack.Proofs.CalculatorLexemes
import Backtrack.Proofs.Recognition

/-!
# What the calculator accepts

The parser of the calculator accepts the words of the language and no other text, each with the one
expression that the rules give it: `parse_iff_derives`. Each part of the grammar recognises its
nonterminal where a character follows that can stand behind it.
-/

open Backtrack.Parser

namespace Backtrack.Calculator

open Unicode

/-- The text ends here, or goes on with one of the characters. -/
def Next (cs : List Char) (rest : Text) : Prop := ∀ c ∈ rest.head?, c ∈ cs

section

variable {cs : List Char} {p : Char → Bool} {o w rest : Text}

theorem Next.stops (h : Next cs rest) (hp : cs.any p = false) : Stops p rest := fun c hc =>
  Bool.eq_false_iff.mpr (List.any_eq_false.mp hp c (h c hc))

/-- White space may stand in front. -/
theorem Next.stops_append (h : Next cs rest) (hp : cs.any p = false)
    (blank : ∀ c, isBlank c → p c = false) (hw : Blank w) : Stops p (w ++ rest) := by
  cases w with
  | nil => exact h.stops hp
  | cons c w => exact stops_cons (blank c (hw c List.mem_cons_self)) _

theorem Token.next {c : Char} (h : Token [c] o) (hc : c ∈ cs) (rest : Text) :
    Next cs (o ++ rest) := by
  obtain ⟨w, rfl, -⟩ := h
  rintro _ ⟨⟩
  exact hc

end

/-- The characters that stand behind an atom, and those behind the name of a binding. -/
def delimiters : List Char := ['*', '/', '+', '-', ')', ';', '=']

variable {ν : Type} {number : Text → ν} {Γ : Scopes} (n depth : Nat) (s : Store Unit Γ)

/-! ## Lexemes -/

theorem literal_recognises (text : Text) :
    Recognises n ((literal text).behaviour .silent depth s) (fun u a => u = text ∧ a = text)
      fun _ => True := by
  refine .split (fun t a rest h => ?_) (fun u a rest h _ => ?_) n
  · obtain ⟨left, h, hleft⟩ := Option.map_eq_some_iff.mp h
    cases hleft
    exact ⟨text, (append_of_stripStart h).symm, rfl, rfl⟩
  · obtain ⟨rfl, rfl⟩ := h
    rw [stripStart_append, Option.map_some]

theorem symbol_recognises (text : Text) :
    Recognises n ((symbol text).behaviour .silent depth s) (fun u a => Token text u ∧ a = text)
      (Stops isBlank) := by
  refine ((literal_recognises n depth s text).token.congr fun u a => ⟨?_, ?_⟩).follow fun _ h =>
    ⟨h, fun _ _ => trivial⟩
  · rintro ⟨_, w, rfl, ⟨rfl, rfl⟩, hw⟩
    exact ⟨⟨w, rfl, hw⟩, rfl⟩
  · rintro ⟨⟨w, rfl, hw⟩, rfl⟩
    exact ⟨a, w, rfl, ⟨rfl, rfl⟩, hw⟩

theorem word_recognises :
    Recognises n ((pattern Lexeme.name).behaviour .silent depth s) (fun u a => IsWord u ∧ a = u)
      (Stops isAsciiWordCharacter) := by
  refine .split (fun t a rest h => ?_) (fun u a rest h stop => ?_) n
  · cases t with
    | nil => rw [Lexeme.name_split_of_stops (stops_nil _)] at h; cases h
    | cons c t =>
      by_cases hc : Lexeme.nameStart.contains c
      · rw [Lexeme.name_split_cons hc] at h
        cases h
        refine ⟨c :: t.takeWhile isAsciiWordCharacter, ?_, ⟨c, _, rfl, ?_, ?_⟩, rfl⟩
        · rw [List.cons_append, List.takeWhile_append_dropWhile]
        · rwa [Lexeme.nameStart_contains] at hc
        · exact fun d hd => List.mem_takeWhile_imp hd
      · rw [Lexeme.name_split_of_stops (stops_cons (Bool.eq_false_iff.mpr hc) t)] at h
        cases h
  · obtain ⟨⟨c, u, rfl, hc, hu⟩, rfl⟩ := h
    rw [List.cons_append, Lexeme.name_split_cons ((Lexeme.nameStart_contains c).trans hc),
      takeWhile_append_of_stops hu stop, dropWhile_append_of_stops hu stop]

theorem identifier_recognises :
    Recognises n (identifier.behaviour .silent depth s) (fun u x => IsName x ∧ Token x u)
      (Next delimiters) := by
  have named := (word_recognises n depth s).filter (· != "let".toList)
  refine (named.token.congr fun u x => ⟨?_, ?_⟩).follow fun rest h =>
    ⟨h.stops (by decide), fun w hw => ?_⟩
  · rintro ⟨y, w, rfl, ⟨⟨hy, rfl⟩, other⟩, hw⟩
    exact ⟨⟨hy, bne_iff_ne.mp other⟩, w, rfl, hw⟩
  · rintro ⟨hx, w, rfl, hw⟩
    exact ⟨x, w, rfl, ⟨⟨hx.1, rfl⟩, bne_iff_ne.mpr hx.2⟩, hw⟩
  · exact h.stops_append (by decide) (fun _ => not_isAsciiWordCharacter_of_isBlank) hw

/-- The characters that a numeral is written with. -/
def isNumeralCharacter (c : Char) : Bool := c.isDigit || c == '.'

theorem not_isNumeralCharacter_of_isBlank {c : Char} (h : isBlank c) :
    isNumeralCharacter c = false := by
  rw [Bool.eq_false_iff]
  intro numeral
  rcases Bool.or_eq_true_iff.mp numeral with digit | point
  · exact Bool.eq_false_iff.mp (not_isAsciiWordCharacter_of_isBlank h)
      (isAsciiWordCharacter_of_isDigit digit)
  · rw [beq_iff_eq.mp point] at h
    exact absurd h (by decide)

/-- The numeral at the start of a text: its digits, with the point and the digits that follow. -/
theorem numeral_split_cases (t : Text) : Lexeme.numeral.split t = none ∨
    ∃ x rest, t = x ++ rest ∧ IsNumeral x ∧ Lexeme.numeral.split t = some (x, rest) := by
  have digits (u : Text) : ∀ c ∈ u.takeWhile Char.isDigit, c.isDigit :=
    fun c hc => List.mem_takeWhile_imp hc
  have stop (u : Text) : Stops Char.isDigit (u.dropWhile Char.isDigit) := stops_dropWhile _ u
  have cut (u : Text) := List.takeWhile_append_dropWhile (p := Char.isDigit) (l := u)
  by_cases hne : t.takeWhile Char.isDigit = []
  · left
    have start := stop t
    have whole := cut t
    rw [hne, List.nil_append] at whole
    rw [whole] at start
    exact Lexeme.numeral_split_of_stops start
  · right
    -- A point belongs to the numeral only if there is a digit behind it.
    by_cases point : ∀ u, t.dropWhile Char.isDigit = '.' :: u → Stops Char.isDigit u
    · have split := Lexeme.numeral_split_whole hne (digits t) (stop t) point
      rw [cut] at split
      exact ⟨_, _, (cut t).symm, .inl ⟨hne, digits t⟩, split⟩
    · push Not at point
      obtain ⟨u, hu, more⟩ := point
      have hne' : u.takeWhile Char.isDigit ≠ [] := by
        intro none
        have whole := cut u
        rw [none, List.nil_append] at whole
        exact more (whole ▸ stop u)
      have whole : t = t.takeWhile Char.isDigit ++ '.' :: u.takeWhile Char.isDigit ++
          u.dropWhile Char.isDigit := by
        rw [List.append_assoc, List.cons_append, cut, ← hu, cut]
      have split := Lexeme.numeral_split_fraction hne (digits t) hne' (digits u) (stop u)
      rw [← whole] at split
      exact ⟨_, _, whole, .inr ⟨_, _, rfl, ⟨hne, digits t⟩, hne', digits u⟩, split⟩

theorem numeral_split_append {x rest : Text} (hx : IsNumeral x)
    (stop : Stops isNumeralCharacter rest) :
    Lexeme.numeral.split (x ++ rest) = some (x, rest) := by
  have digits : Stops Char.isDigit rest := fun c hc =>
    (Bool.or_eq_false_iff.mp (stop c hc)).1
  rcases hx with ⟨hne, hd⟩ | ⟨ds, fs, rfl, ⟨hne, hd⟩, hne', hf⟩
  · refine Lexeme.numeral_split_whole hne hd digits fun u hu => ?_
    have := stop '.' (by rw [hu]; rfl)
    exact absurd this (by decide)
  · exact Lexeme.numeral_split_fraction hne hd hne' hf digits

theorem numeral_recognises (number : Text → ν) :
    Recognises n ((numeral number).behaviour .silent depth s)
      (fun u e => ∃ x, IsNumeral x ∧ Token x u ∧ e = .number (number x)) (Next delimiters) := by
  have lexeme : Recognises n ((pattern Lexeme.numeral).behaviour .silent depth s)
      (fun u a => IsNumeral u ∧ a = u) (Stops isNumeralCharacter) := by
    refine .split (fun t a rest h => ?_) (fun u a rest h stop => ?_) n
    · rcases numeral_split_cases t with none | ⟨x, r, hx, numeral, found⟩
      · rw [none] at h; cases h
      · rw [found] at h
        cases h
        exact ⟨a, hx, numeral, rfl⟩
    · obtain ⟨hu, rfl⟩ := h
      exact numeral_split_append hu stop
  refine ((lexeme.map _).token.congr fun u e => ⟨?_, ?_⟩).follow
    fun rest h => ⟨h.stops (by decide),
      fun w hw => h.stops_append (by decide) (fun _ => not_isNumeralCharacter_of_isBlank) hw⟩
  · rintro ⟨x, w, rfl, ⟨_, rfl, hx, rfl⟩, hw⟩
    exact ⟨_, hx, ⟨w, rfl, hw⟩, rfl⟩
  · rintro ⟨x, hx, ⟨w, rfl, hw⟩, rfl⟩
    exact ⟨x, w, rfl, ⟨x, rfl, hx, rfl⟩, hw⟩

/-- A symbol for an operator, with the function that joins the operands. -/
def Joins (x : Text) (op : Operator) (o : Text) (f : Expr ν → Expr ν → Attempt (Expr ν)) : Prop :=
  Token x o ∧ f = fun left right => .ok (.binary op left right)

theorem operator_recognises (text : String) (op : Operator) :
    Recognises n ((operator text op).behaviour .silent depth s) (Joins (ν := ν) text.toList op)
      (Stops isBlank) := by
  refine ((symbol_recognises n depth s text.toList).map _).congr fun o f => ⟨?_, ?_⟩
  · rintro ⟨_, rfl, ho, rfl⟩
    exact ⟨ho, rfl⟩
  · rintro ⟨ho, rfl⟩
    exact ⟨_, rfl, ho, rfl⟩

theorem symbol_proper (c : Char) : Proper fun u (a : Text) => Token [c] u ∧ a = [c] :=
  fun _ h => h.1.starts_single.ne_nil rfl

/-! ## Sums and products -/

/-- Operands with one of two operators between them are a left-recursive rule. -/
theorem joined_rule {C L : Nonterminal} {c c' : Char} {op op' : Operator}
    (rule : ∀ u (e : Expr ν), Derives number C u e ↔ Derives number L u e ∨
      Joined number u e C L c op ∨ Joined number u e C L c' op') :
    Recognises.LeftRecursive (Derives number C) (Derives number L)
      fun o f => Joins [c] op o f ∨ Joins [c'] op' o f where
  iff u e := by
    rw [rule]
    refine or_congr_right ⟨?_, ?_⟩
    · rintro (⟨v, o, w, a, b, rfl, rfl, hv, ho, hw⟩ | ⟨v, o, w, a, b, rfl, rfl, hv, ho, hw⟩)
      · exact ⟨v, o, w, a, _, b, rfl, hv, .inl ⟨ho, rfl⟩, hw, rfl⟩
      · exact ⟨v, o, w, a, _, b, rfl, hv, .inr ⟨ho, rfl⟩, hw, rfl⟩
    · rintro ⟨v, o, w, a, _, b, rfl, hv, ⟨ho, rfl⟩ | ⟨ho, rfl⟩, hw, he⟩
      · cases he
        exact .inl ⟨v, o, w, a, b, rfl, rfl, hv, ho, hw⟩
      · cases he
        exact .inr ⟨v, o, w, a, b, rfl, rfl, hv, ho, hw⟩
  operator := by rintro o f (h | h) <;> exact h.1.starts_single.ne_nil
  total := by rintro o f (⟨-, rfl⟩ | ⟨-, rfl⟩) a x <;> exact ⟨_, rfl⟩

section

variable {n k depth : Nat} {s : Store Unit Γ}

/-- Operands that are joined by one of two operators. The operators may stand behind an operand, and
not behind the whole. -/
theorem joined_recognises {C L : Nonterminal} {c c' : Char} {op op' : Operator} {cs cs' : List Char}
    {term : Behaviour Unit (Expr ν)} {b b' : Behaviour Unit (Expr ν → Expr ν → Attempt (Expr ν))}
    (rule : ∀ u (e : Expr ν), Derives number C u e ↔ Derives number L u e ∨
      Joined number u e C L c op ∨ Joined number u e C L c' op')
    (hterm : Recognises n term (Derives number L) (Next cs))
    (hb : Recognises n b (Joins [c] op) (Stops isBlank))
    (hb' : Recognises n b' (Joins [c'] op') (Stops isBlank)) (other : c ≠ c')
    (behind : [c, c'] ++ cs' ⊆ cs) (after : c ∉ cs' ∧ c' ∉ cs') :
    Recognises n (term.chain (b.union b')) (Derives number C) (Next cs') := by
  have operators := hb.union hb' fun u _ rest v _ r hu hv =>
    hu.1.starts_single.single_ne hv.1.starts_single (beq_eq_false_iff_ne.mpr other) rest r
  have inside {d : Char} (hd : d = c ∨ d = c' ∨ d ∈ cs') : d ∈ cs := behind (by simpa using hd)
  have inner (rest : Text) (h : Next cs' rest) : Next cs rest :=
    fun d hd => inside (.inr (.inr (h d hd)))
  refine hterm.chain (joined_rule rule) operators ?_ ?_ inner ?_
  · rintro o f rest (h | h)
    · exact h.1.next (inside (.inl rfl)) rest
    · exact h.1.next (inside (.inr (.inl rfl))) rest
  · exact fun u e rest hu _ => hu.stops_isBlank rest
  · rintro _ h o f r (⟨⟨w, rfl, -⟩, -⟩ | ⟨⟨w, rfl, -⟩, -⟩) rfl
    · exact after.1 (h c rfl)
    · exact after.2 (h c' rfl)

theorem parentheses_recognises {sum : Parser Γ (Expr ν)}
    (h : Recognises k (sum.behaviour .silent depth s) (Derives number .sum) (Next [')', ';'])) :
    Recognises (k + 1) ((sum.delimitedBy (symbol ['(']) (symbol [')'])).behaviour .silent depth s)
      (Encloses number) (Next delimiters) := by
  have opened := (symbol_recognises (k + 1) depth s ['(']).ignoreThen (symbol_proper '(') h
    fun u e rest hu _ => hu.stops_isBlank rest
  have closed := opened.thenIgnore (symbol_proper '(').ignoreThen
    (symbol_recognises k depth s [')']) fun u a rest hu _ => hu.1.next (by decide) rest
  refine (closed.congr fun u e => ⟨?_, ?_⟩).follow fun rest h => h.stops (by decide)
  · rintro ⟨_, q, _, rfl, ⟨p, v, _, rfl, ⟨hp, -⟩, hv⟩, ⟨hq, -⟩⟩
    exact ⟨p, v, q, rfl, hp, hv, hq⟩
  · rintro ⟨p, v, q, rfl, hp, hv, hq⟩
    exact ⟨_, q, _, rfl, ⟨p, v, _, rfl, ⟨hp, rfl⟩, hv⟩, hq, rfl⟩

theorem atom_recognises {sum : Parser Γ (Expr ν)}
    (h : Recognises k (sum.behaviour .silent depth s) (Derives number .sum) (Next [')', ';'])) :
    Recognises (k + 1) ((atom number sum).behaviour .silent depth s) (Derives number .atom)
      (Next delimiters) := by
  have first := (numeral_recognises (k + 1) depth s number).orElse (parentheses_recognises h)
    fun u _ rest v _ r hu _ ⟨x, hx, hv, _⟩ =>
      hu.starts.single_ne (hv.starts hx.starts) (by decide) rest r
  have names := (identifier_recognises (k + 1) depth s).map (Expr.name (ν := ν))
  refine ((first.orElse names ?_).debug atomMark).congr fun _ _ => derives_atom_iff.symm
  rintro u _ rest v _ r ⟨x, rfl, hx, hu⟩ - (⟨y, hy, hv, -⟩ | hv)
  · exact ((hv.starts hy.starts).ne (hu.starts hx.1.starts)
      (fun _ => not_isNameStart_of_isDigit) r rest).symm
  · exact (hv.starts.single_ne (hu.starts hx.1.starts) (by decide) r rest).symm

theorem unary_recognises {sum : Handle Γ (Expr ν)}
    (h : Recognises k (s sum).behaviour (Derives number .sum) (Next [')', ';'])) (hk : k ≤ depth) :
    Recognises (k + 1) ((unary number sum).behaviour .silent depth s)
      (Derives number .unary) (Next delimiters) := by
  -- The bound for operands is one above that for sums: an operand that uses a sum has read a
  -- parenthesis before, and one that uses an operand has read a sign.
  refine .recursive (Nat.succ_le_succ hk) fun m b hm hb => ?_
  have inner : Recognises k ((handle (.outer sum)).behaviour .silent depth (s.push (.alive b)))
    (Derives number .sum) (Next [')', ';']) := h
  have signed := (symbol_recognises (m + 1) depth (s.push (.alive b)) ['-']).ignoreThen
    (symbol_proper '-') hb fun u e rest hu _ => hu.stops_isBlank rest
  refine ((signed.map Expr.negate).orElse ((atom_recognises inner).mono hm) ?_).congr
    fun u e => ⟨?_, fun h => ?_⟩
  · rintro u _ rest _ _ r hu - ⟨_, rfl, o, v, _, rfl, ⟨ho, -⟩, -⟩
    exact ((ho.starts_single.append v).single_ne hu.starts (by decide) r rest).symm
  · rintro (⟨_, rfl, o, v, _, rfl, ⟨ho, -⟩, hv⟩ | hu)
    · exact .negate ho hv
    · exact .atom hu
  · cases h with
    | negate ho hv => exact .inl ⟨_, rfl, _, _, _, rfl, ⟨ho, rfl⟩, hv⟩
    | atom hu => exact .inr hu

theorem sum_recognises : Recognises (depth + 1) ((sum number).behaviour .silent depth s)
    (Derives number .sum) (Next [')', ';']) := by
  refine .recursive (Nat.le_refl _) fun m b hm hb => ?_
  have inner : Recognises m (s.push (.alive b) .here).behaviour (Derives number .sum)
    (Next [')', ';']) := hb
  have operands := unary_recognises inner (Nat.lt_succ_iff.mp hm)
  have symbols (text : String) (op : Operator) :=
    operator_recognises (ν := ν) (m + 1) depth (s.push (.alive b)) text op
  have products : Recognises (m + 1) _ (Derives number .product) (Next ['+', '-', ')', ';']) :=
    joined_recognises (fun _ _ => derives_product_iff) operands (symbols "*" .multiply)
      (symbols "/" .divide) (by decide) (by decide) (by decide)
  exact joined_recognises (fun _ _ => derives_sum_iff) products (symbols "+" .add)
    (symbols "-" .subtract) (by decide) (by decide) (by decide)

end

/-! ## Bindings -/

/-- Behind the word `let` and white space, a name is read. -/
theorem letName_behaviour (t : Text) :
    ((pattern Lexeme.letWord).token.ignoreThen identifier).behaviour .silent depth s t =
      match Lexeme.letWord.split t with
      | none => Pure.pure []
      | Option.some (_, rest) => identifier.behaviour .silent depth s (rest.dropWhile isBlank) := by
  change Behaviour.bind (Behaviour.token (.split Lexeme.letWord.split)) _ t = _
  cases h : Lexeme.letWord.split t <;>
    simp only [Behaviour.bind, Behaviour.token_eq, Behaviour.split, h, pure_bind,
      Option.toList_none, Option.toList_some, List.map_cons, List.map_nil, fromEach,
      List.append_nil, bind_pure]

/-- There is white space between the word `let` and the name, or the two would be one word. -/
theorem letName_recognises :
    Recognises n (((pattern Lexeme.letWord).token.ignoreThen identifier).behaviour .silent depth s)
      (fun u x => ∃ w m, u = "let".toList ++ w ++ m ∧ Blank w ∧ w ≠ [] ∧ IsName x ∧ Token x m)
      (Next delimiters) := by
  have name := identifier_recognises n depth s
  apply Recognises.of_cases
  · intro t ht
    rw [letName_behaviour]
    cases h : Lexeme.letWord.split t with
    | none => exact .inl rfl
    | some found =>
      obtain ⟨x, rest⟩ := found
      obtain ⟨-, rfl, stop⟩ := Lexeme.of_letWord_split h
      have short : (rest.dropWhile isBlank).length < n := by
        have := (List.dropWhile_suffix isBlank (l := rest)).length_le
        rw [List.length_append] at ht
        omega
      refine (name.cases_single short).imp_right ?_
      rintro ⟨a, m, r, hm, ⟨ha, token⟩, found⟩
      refine ⟨a, "let".toList ++ rest.takeWhile isBlank ++ m, r, ?_,
        ⟨_, m, rfl, fun c hc => List.mem_takeWhile_imp hc, ?_, ha, token⟩, found⟩
      · rw [List.append_assoc, List.append_assoc, ← hm, List.takeWhile_append_dropWhile]
      · -- The first letter of the name would be part of the word that `let` is the start of.
        intro none
        have whole := List.takeWhile_append_dropWhile (p := isBlank) (l := rest)
        rw [none, List.nil_append, hm] at whole
        obtain ⟨c, u, rfl, hc⟩ := token.starts ha.1.starts
        rw [← whole] at stop
        exact Bool.eq_false_iff.mp (stop c rfl)
          (isWordCharacter_of_ascii (isAsciiWordCharacter_of_isNameStart hc))
  · rintro _ x rest hu ⟨w, m, rfl, hw, hne, hx, token⟩ hrest
    have apart : Stops isWordCharacter (w ++ (m ++ rest)) := by
      obtain ⟨c, w, rfl⟩ := List.exists_cons_of_ne_nil hne
      exact stops_cons (not_isWordCharacter_of_isBlank (hw c List.mem_cons_self)) _
    have start : Stops isBlank (m ++ rest) := by
      refine ((token.starts hx.1.starts).append rest).stops fun c hc => ?_
      rw [Bool.eq_false_iff]
      intro blank
      exact Bool.eq_false_iff.mp (not_isAsciiWordCharacter_of_isBlank blank)
        (isAsciiWordCharacter_of_isNameStart hc)
    rw [List.append_assoc, List.append_assoc] at hu ⊢
    simp only [letName_behaviour, Lexeme.letWord_split_of_stops apart,
      dropWhile_append_of_stops hw start]
    refine name.complete m x rest ?_ ⟨hx, token⟩ hrest
    simp only [List.length_append] at hu ⊢
    omega

section

variable {n m depth : Nat} {s : Store Unit Γ}

theorem binding_recognises {body : Parser Γ (Expr ν)} (hm : m ≤ depth)
    (h : Recognises m (body.behaviour .silent depth s) (Derives number .decl) (· = [])) :
    Recognises (m + 1) ((binding number body).behaviour .silent depth s) (Binds number)
      (· = []) := by
  have proper : Proper fun u x => ∃ w m, u = "let".toList ++ w ++ m ∧ Blank w ∧ w ≠ [] ∧
      IsName x ∧ Token x m := by
    rintro x ⟨w, m, h, -⟩
    cases h
  have sums : Recognises m ((sum number).behaviour .silent depth s) _ _ :=
    sum_recognises.mono (Nat.le_succ_of_le hm)
  have named := (letName_recognises (m + 1) depth s).thenIgnore proper
    (symbol_recognises m depth s ['=']) fun u a rest hu _ => hu.1.next (by decide) rest
  have valued := named.then proper.thenIgnore sums fun u e rest hu _ => hu.stops_isBlank rest
  have ended := valued.thenIgnore proper.thenIgnore.then (symbol_recognises m depth s [';'])
    fun u a rest hu _ => hu.1.next (by decide) rest
  have whole := ended.then proper.thenIgnore.then.thenIgnore h
    fun u e rest hu _ => hu.stops_isBlank rest
  refine (whole.map fun p => Expr.binding p.1.1 p.1.2 p.2).congr fun u e => ⟨?_, ?_⟩
  · rintro ⟨⟨⟨x, a⟩, b⟩, rfl, _, t, rfl, ⟨_, o, _, rfl, ⟨_, v, rfl, ⟨_, q, _, rfl,
      ⟨w, m, rfl, hw, hne, hx, token⟩, hq, -⟩, ha⟩, ho, -⟩, hb⟩
    exact ⟨w, x, m, q, v, o, t, a, b, rfl, rfl, hw, hne, hx, token, hq, ha, ho, hb⟩
  · rintro ⟨w, x, m, q, v, o, t, a, b, rfl, rfl, hw, hne, hx, token, hq, ha, ho, hb⟩
    exact ⟨⟨⟨x, a⟩, b⟩, rfl, _, t, rfl, ⟨_, o, _, rfl, ⟨_, v, rfl, ⟨_, q, _, rfl,
      ⟨w, m, rfl, hw, hne, hx, token⟩, hq, rfl⟩, ha⟩, ho, rfl⟩, hb⟩

theorem grammar_recognises : Recognises (depth + 1) ((grammar number).behaviour .silent depth s)
    (Derives number .decl) (· = []) := by
  refine .recursive (Nat.le_refl _) fun m b hm hb => ?_
  have bindings : Recognises (m + 1) ((binding number self).behaviour .silent depth
      (s.push (.alive b))) (Binds number) (· = []) :=
    binding_recognises (Nat.lt_succ_iff.mp hm) hb
  have sums : Recognises (m + 1) ((sum number).behaviour .silent depth (s.push (.alive b)))
      (Derives number .sum) (· = []) :=
    (sum_recognises.mono hm).follow fun rest h => by rw [h]; exact fun _ h => nomatch h
  refine ((bindings.orElse sums ?_).debug declMark).congr fun _ _ => derives_decl_iff.symm
  rintro u a rest v x r hu rfl hv
  exact hv.ne_of_derives hu

end

/-! ## Texts -/

/-- A text is parsed by what the grammar does behind the white space at its start. -/
theorem parse_of_behaviour (number : Text → ν) {t : Text} {found : Candidates (Expr ν)}
    (h : (grammar number).behaviour .silent (depthFor t) .empty (t.dropWhile isBlank) =
      Pure.pure found) :
    (grammar number).parse t = .ok (verdict found) := by
  rw [parse, apply, outcome_applyWith, Pattern.blanks_split]
  simp only [h]
  rfl

theorem length_dropWhile_lt_depthFor (p : Char → Bool) (t : Text) :
    (t.dropWhile p).length < depthFor t + 1 := by
  have := (List.dropWhile_suffix p (l := t)).length_le
  rw [depthFor]
  omega

/-- A word behind white space is accepted with its expression. -/
theorem parse_word {w u : Text} {e : Expr ν} (hw : Blank w) (hu : Derives number .decl u e) :
    (grammar number).parse (w ++ u) = .ok (.ok e) := by
  have left : (w ++ u).dropWhile isBlank = u := by
    have start := hu.stops_isBlank []
    rw [List.append_nil] at start
    exact dropWhile_append_of_stops hw start
  have short := length_dropWhile_lt_depthFor isBlank (w ++ u)
  rw [left] at short
  have found := (grammar_recognises (s := .empty)).complete u e [] (by rwa [List.append_nil]) hu rfl
  rw [List.append_nil] at found
  have parsed := parse_of_behaviour number (t := w ++ u) (by rw [left]; exact found)
  exact parsed

/-- A text stands for one expression. -/
theorem Derives.unique {u : Text} {e f : Expr ν} (he : Derives number .decl u e)
    (hf : Derives number .decl u f) : e = f := by
  have parsed := parse_word (List.forall_mem_nil _) he
  rw [parse_word (List.forall_mem_nil _) hf] at parsed
  cases parsed
  rfl

/-- The verdict on a text is that on one candidate at most. -/
theorem parse_cases (number : Text → ν) (t : Text) :
    (grammar number).parse t = .ok (.error .noMatch) ∨
      ∃ w u rest e, t = w ++ (u ++ rest) ∧ Blank w ∧ Derives number .decl u e ∧
        (grammar number).parse t = .ok (verdict [(e, rest)]) := by
  have short := length_dropWhile_lt_depthFor isBlank t
  rcases (grammar_recognises (s := .empty)).cases_single short with
    none | ⟨e, u, rest, left, hu, found⟩
  · exact .inl (parse_of_behaviour number none)
  · refine .inr ⟨t.takeWhile isBlank, u, rest, e, ?_, fun c hc => List.mem_takeWhile_imp hc, hu,
      parse_of_behaviour number found⟩
    rw [← left, List.takeWhile_append_dropWhile]

/-- **The language of the calculator.** A text is accepted with an expression exactly if it is white
space and then a word that stands for the expression. There is always a verdict, and it is never
that the text is ambiguous. -/
theorem parse_iff_derives (number : Text → ν) (t : Text) :
    (∃ r, (grammar number).parse t = .ok r ∧ ∀ n, r ≠ .error (.ambiguous n)) ∧
    ∀ e, (grammar number).parse t = .ok (.ok e) ↔
      ∃ w u, t = w ++ u ∧ Blank w ∧ Derives number .decl u e := by
  refine ⟨?_, fun e => ⟨fun h => ?_, ?_⟩⟩
  · rcases parse_cases number t with none | ⟨_, _, rest, _, -, -, -, parsed⟩
    · exact ⟨_, none, nofun⟩
    · refine ⟨_, parsed, ?_⟩
      cases rest <;> exact nofun
  · rcases parse_cases number t with none | ⟨w, u, rest, a, ht, hw, hu, parsed⟩
    · rw [none] at h
      cases h
    · rw [parsed] at h
      cases rest with
      | nil =>
        cases h
        rw [List.append_nil] at ht
        exact ⟨w, u, ht, hw, hu⟩
      | cons c rest => cases h
  · rintro ⟨w, u, rfl, hw, hu⟩
    exact parse_word hw hu

/-- Subtraction is grouped from the left, also in the body of a binding. -/
theorem parse_iff_derives_binding : (grammar id).parse "let a=1;a-2-3".toList =
    .ok (.ok (.binding ['a'] (.number ['1'])
      (.binary .subtract (.binary .subtract (.name ['a']) (.number ['2'])) (.number ['3'])))) := by
  have token (x : Text) : Token x x := ⟨[], (List.append_nil x).symm, nofun⟩
  have digit {c : Char} (h : c.isDigit) :
      Derives id .product [c] (.number [c]) := by
    refine .unary (.atom (.numeral (.inl ⟨List.cons_ne_nil c [], ?_⟩) (token [c])))
    exact List.forall_mem_singleton.mpr h
  have name : IsName ['a'] := ⟨⟨'a', [], rfl, rfl, nofun⟩, by decide⟩
  have body := Derives.subtract (.subtract (.product (.unary (.atom (.name name (token ['a'])))))
    (token ['-']) (digit (c := '2') rfl)) (token ['-']) (digit (c := '3') rfl)
  have whole := Derives.binding (w := [' ']) (List.forall_mem_singleton.mpr rfl)
    (List.cons_ne_nil _ _) name (token ['a']) (token ['=']) (.product (digit (c := '1') rfl))
    (token [';']) (.sum body)
  exact ((parse_iff_derives id _).2 _).mpr ⟨[], _, rfl, nofun, whole⟩

end Backtrack.Calculator
