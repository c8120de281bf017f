import Backtrack.Calculator.Expr
import Backtrack.Proofs.Scan
import Backtrack.Proofs.WordCharacter

/-!
# The language of the calculator

Which texts stand for which expressions, by rules that mention no parser: `Derives`. A sum and a
product are left-recursive, so that operators of one kind are grouped from the left. That no text
can be read by two rules is seen at its first characters: `Derives.starts`, `Derives.not_let`.
-/

namespace Backtrack

/-- The text starts with a character that passes the test. -/
def Starts (p : Char → Bool) (t : Text) : Prop := ∃ c u, t = c :: u ∧ p c = true

namespace Starts

variable {p q : Char → Bool} {t u : Text}

theorem append (h : Starts p t) (u : Text) : Starts p (t ++ u) := by
  obtain ⟨c, t, rfl, hc⟩ := h
  exact ⟨c, t ++ u, rfl, hc⟩

theorem mono (h : Starts p t) (hpq : ∀ c, p c → q c) : Starts q t := by
  obtain ⟨c, t, rfl, hc⟩ := h
  exact ⟨c, t, rfl, hpq c hc⟩

theorem stops (h : Starts p t) (hpq : ∀ c, p c → q c = false) : Stops q t := by
  obtain ⟨c, t, rfl, hc⟩ := h
  exact stops_cons (hpq c hc) t

theorem ne_nil (h : Starts p t) : t ≠ [] := by
  obtain ⟨c, t, rfl, -⟩ := h
  exact List.cons_ne_nil c t

/-- Texts with different first characters are different, whatever follows. -/
theorem ne (h : Starts p t) (hu : Starts q u) (hpq : ∀ c, p c → q c = false) (rest r : Text) :
    t ++ rest ≠ u ++ r := by
  intro same
  obtain ⟨c, u, rfl, hc⟩ := hu
  have stop := (h.append rest).stops hpq
  rw [same] at stop
  exact Bool.eq_false_iff.mp (stop c rfl) hc

theorem single_ne {c : Char} (h : Starts (· == c) t) (hu : Starts q u) (hc : q c = false)
    (rest r : Text) : t ++ rest ≠ u ++ r :=
  h.ne hu (fun _ hd => beq_iff_eq.mp hd ▸ hc) rest r

/-- What is taken from the start starts with the same character. -/
theorem takeWhile_ne (h : Starts p t) {c : Char} (hc : p c = false) (q : Char → Bool) (u : Text) :
    t.takeWhile q ≠ c :: u := by
  intro same
  obtain ⟨d, t, rfl, hd⟩ := h
  have whole := List.takeWhile_append_dropWhile (p := q) (l := d :: t)
  rw [same] at whole
  obtain ⟨rfl, -⟩ := List.cons.inj whole
  exact Bool.eq_false_iff.mp hc hd

end Starts

namespace Calculator

open Unicode

/-! ## Lexemes -/

def IsDigits (t : Text) : Prop := t ≠ [] ∧ ∀ c ∈ t, c.isDigit

/-- Digits, or digits with a point and digits behind them. -/
def IsNumeral (t : Text) : Prop :=
  IsDigits t ∨ ∃ ds fs, t = ds ++ '.' :: fs ∧ IsDigits ds ∧ IsDigits fs

/-- The characters that a name starts with. -/
def isNameStart (c : Char) : Bool := c.isAlpha || c == '_'

/-- A letter or an underscore with letters, digits and underscores behind it. -/
def IsWord (t : Text) : Prop :=
  ∃ c u, t = c :: u ∧ isNameStart c ∧ ∀ d ∈ u, isAsciiWordCharacter d

/-- A word other than `let`. -/
def IsName (t : Text) : Prop := IsWord t ∧ t ≠ "let".toList

/-- The lexeme `x` with white space behind it. -/
def Token (x u : Text) : Prop := ∃ w, u = x ++ w ∧ Blank w

/-! ## Rules -/

inductive Nonterminal
  | atom
  | unary
  | product
  | sum
  | decl
  deriving DecidableEq, Repr

/-- The text is a word of the nonterminal that stands for the expression. -/
inductive Derives {ν : Type} (number : Text → ν) : Nonterminal → Text → Expr ν → Prop
  | numeral {x u} : IsNumeral x → Token x u → Derives number .atom u (.number (number x))
  | parentheses {p u q e} : Token ['('] p → Derives number .sum u e → Token [')'] q →
      Derives number .atom (p ++ u ++ q) e
  | name {x u} : IsName x → Token x u → Derives number .atom u (.name x)
  | negate {o u e} : Token ['-'] o → Derives number .unary u e →
      Derives number .unary (o ++ u) (.negate e)
  | atom {u e} : Derives number .atom u e → Derives number .unary u e
  | unary {u e} : Derives number .unary u e → Derives number .product u e
  | multiply {u o v a b} : Derives number .product u a → Token ['*'] o →
      Derives number .unary v b → Derives number .product (u ++ o ++ v) (.binary .multiply a b)
  | divide {u o v a b} : Derives number .product u a → Token ['/'] o →
      Derives number .unary v b → Derives number .product (u ++ o ++ v) (.binary .divide a b)
  | product {u e} : Derives number .product u e → Derives number .sum u e
  | add {u o v a b} : Derives number .sum u a → Token ['+'] o →
      Derives number .product v b → Derives number .sum (u ++ o ++ v) (.binary .add a b)
  | subtract {u o v a b} : Derives number .sum u a → Token ['-'] o →
      Derives number .product v b → Derives number .sum (u ++ o ++ v) (.binary .subtract a b)
  | binding {w x m q u s v a b} : Blank w → w ≠ [] → IsName x → Token x m → Token ['='] q →
      Derives number .sum u a → Token [';'] s → Derives number .decl v b →
      Derives number .decl ("let".toList ++ w ++ m ++ q ++ u ++ s ++ v) (.binding x a b)
  | sum {u e} : Derives number .sum u e → Derives number .decl u e

section

variable {ν : Type} (number : Text → ν) (u : Text) (e : Expr ν)

/-- A sum in parentheses. -/
def Encloses : Prop :=
  ∃ p v q, u = p ++ v ++ q ∧ Token ['('] p ∧ Derives number .sum v e ∧ Token [')'] q

/-- A binding and its body. -/
def Binds : Prop :=
  ∃ w x m q v o t a b, u = "let".toList ++ w ++ m ++ q ++ v ++ o ++ t ∧ e = .binding x a b ∧
    Blank w ∧ w ≠ [] ∧ IsName x ∧ Token x m ∧ Token ['='] q ∧ Derives number .sum v a ∧
    Token [';'] o ∧ Derives number .decl t b

/-- Two operands, the first of which may have operators itself, with the operator between them. -/
def Joined (C L : Nonterminal) (c : Char) (op : Operator) : Prop :=
  ∃ v o w a b, u = v ++ o ++ w ∧ e = .binary op a b ∧ Derives number C v a ∧ Token [c] o ∧
    Derives number L w b

variable {number u e}

theorem derives_atom_iff : Derives number .atom u e ↔
    ((∃ x, IsNumeral x ∧ Token x u ∧ e = .number (number x)) ∨ Encloses number u e) ∨
      ∃ x, e = .name x ∧ IsName x ∧ Token x u := by
  constructor
  · intro h
    cases h with
    | numeral hx hu => exact .inl (.inl ⟨_, hx, hu, rfl⟩)
    | parentheses hp hv hq => exact .inl (.inr ⟨_, _, _, rfl, hp, hv, hq⟩)
    | name hx hu => exact .inr ⟨_, rfl, hx, hu⟩
  · rintro ((⟨x, hx, hu, rfl⟩ | ⟨p, v, q, rfl, hp, hv, hq⟩) | ⟨x, rfl, hx, hu⟩)
    · exact .numeral hx hu
    · exact .parentheses hp hv hq
    · exact .name hx hu

theorem derives_product_iff : Derives number .product u e ↔ Derives number .unary u e ∨
    Joined number u e .product .unary '*' .multiply ∨
      Joined number u e .product .unary '/' .divide := by
  constructor
  · intro h
    cases h with
    | unary h => exact .inl h
    | multiply hv ho hw => exact .inr (.inl ⟨_, _, _, _, _, rfl, rfl, hv, ho, hw⟩)
    | divide hv ho hw => exact .inr (.inr ⟨_, _, _, _, _, rfl, rfl, hv, ho, hw⟩)
  · rintro (h | ⟨_, _, _, _, _, rfl, rfl, hv, ho, hw⟩ | ⟨_, _, _, _, _, rfl, rfl, hv, ho, hw⟩)
    · exact .unary h
    · exact .multiply hv ho hw
    · exact .divide hv ho hw

theorem derives_sum_iff : Derives number .sum u e ↔ Derives number .product u e ∨
    Joined number u e .sum .product '+' .add ∨ Joined number u e .sum .product '-' .subtract := by
  constructor
  · intro h
    cases h with
    | product h => exact .inl h
    | add hv ho hw => exact .inr (.inl ⟨_, _, _, _, _, rfl, rfl, hv, ho, hw⟩)
    | subtract hv ho hw => exact .inr (.inr ⟨_, _, _, _, _, rfl, rfl, hv, ho, hw⟩)
  · rintro (h | ⟨_, _, _, _, _, rfl, rfl, hv, ho, hw⟩ | ⟨_, _, _, _, _, rfl, rfl, hv, ho, hw⟩)
    · exact .product h
    · exact .add hv ho hw
    · exact .subtract hv ho hw

theorem derives_decl_iff :
    Derives number .decl u e ↔ Binds number u e ∨ Derives number .sum u e := by
  constructor
  · intro h
    cases h with
    | binding hw hne hx hm hq ha ho hb =>
      exact .inl ⟨_, _, _, _, _, _, _, _, _, rfl, rfl, hw, hne, hx, hm, hq, ha, ho, hb⟩
    | sum h => exact .inr h
  · rintro (⟨w, x, m, q, v, o, t, a, b, rfl, rfl, hw, hne, hx, hm, hq, ha, ho, hb⟩ | h)
    · exact .binding hw hne hx hm hq ha ho hb
    · exact .sum h

end

/-! ## First characters -/

theorem isAsciiWordCharacter_of_isDigit {c : Char} (h : c.isDigit) : isAsciiWordCharacter c := by
  simp only [isAsciiWordCharacter, Char.isAlphanum, h, Bool.or_true, Bool.true_or]

theorem isAsciiWordCharacter_of_isNameStart {c : Char} (h : isNameStart c) :
    isAsciiWordCharacter c := by
  rw [isNameStart, Bool.or_eq_true] at h
  rcases h with h | h <;>
    simp only [isAsciiWordCharacter, Char.isAlphanum, h, Bool.or_true, Bool.true_or]

/-- Digits are no letters. -/
theorem not_isNameStart_of_isDigit {c : Char} (h : c.isDigit) : isNameStart c = false := by
  rw [Bool.eq_false_iff]
  intro start
  simp only [isNameStart, isAlpha_eq, Char.isDigit, Bool.or_eq_true, Bool.and_eq_true,
    decide_eq_true_eq, beq_iff_eq, ge_iff_le, UInt32.le_iff_toNat_le] at h start
  rcases start with (start | start) | rfl
  · exact absurd (Nat.le_trans start.1 h.2) (by decide)
  · exact absurd (Nat.le_trans start.1 h.2) (by decide)
  · exact absurd h.2 (by decide)

theorem not_isAsciiWordCharacter_of_isBlank {c : Char} (h : isBlank c) :
    isAsciiWordCharacter c = false := by
  rw [Bool.eq_false_iff]
  intro word
  exact Bool.eq_false_iff.mp (not_isWordCharacter_of_isBlank h) (isWordCharacter_of_ascii word)

variable {ν : Type} {number : Text → ν} {p : Char → Bool} {x t u : Text} {e : Expr ν}

theorem Token.starts (h : Token x u) (hx : Starts p x) : Starts p u := by
  obtain ⟨w, rfl, -⟩ := h
  exact hx.append w

theorem Token.starts_single {c : Char} (h : Token [c] u) : Starts (· == c) u :=
  h.starts ⟨c, [], rfl, beq_self_eq_true c⟩

theorem IsDigits.starts (h : IsDigits t) : Starts Char.isDigit t := by
  obtain ⟨c, t, rfl⟩ := List.exists_cons_of_ne_nil h.1
  exact ⟨c, t, rfl, h.2 c List.mem_cons_self⟩

theorem IsNumeral.starts (h : IsNumeral t) : Starts Char.isDigit t := by
  rcases h with h | ⟨ds, fs, rfl, h, -⟩
  · exact h.starts
  · exact h.starts.append _

theorem IsWord.starts (h : IsWord t) : Starts isNameStart t := by
  obtain ⟨c, u, rfl, hc, -⟩ := h
  exact ⟨c, u, rfl, hc⟩

theorem IsWord.all (h : IsWord t) : ∀ c ∈ t, isAsciiWordCharacter c := by
  obtain ⟨c, u, rfl, hc, hu⟩ := h
  exact List.forall_mem_cons.mpr ⟨isAsciiWordCharacter_of_isNameStart hc, hu⟩

/-- The characters that words of the nonterminal start with. -/
def Nonterminal.first (G : Nonterminal) (c : Char) : Bool :=
  isAsciiWordCharacter c || c == '(' || (G != .atom && c == '-')

theorem Nonterminal.first_of_word (G : Nonterminal) {c : Char} (h : isAsciiWordCharacter c) :
    G.first c := by
  simp only [first, h, Bool.true_or]

/-- No word of a rule starts with white space. -/
theorem Nonterminal.not_isBlank_of_first {G : Nonterminal} {c : Char} (h : G.first c) :
    isBlank c = false := by
  rw [Bool.eq_false_iff]
  intro blank
  simp only [first, not_isAsciiWordCharacter_of_isBlank blank, Bool.false_or, Bool.or_eq_true,
    Bool.and_eq_true, beq_iff_eq] at h
  rcases h with rfl | ⟨-, rfl⟩ <;> exact absurd blank (by decide)

theorem Derives.starts {G : Nonterminal} (h : Derives number G u e) : Starts G.first u := by
  have mono {G : Nonterminal} {u : Text} (h : Starts Nonterminal.atom.first u) :
      Starts G.first u := by
    refine h.mono fun c hc => ?_
    simp only [Nonterminal.first, bne_self_eq_false, Bool.false_and, Bool.or_false] at hc
    simp only [Nonterminal.first, hc, Bool.true_or]
  induction h with
  | numeral hx hu =>
    exact hu.starts (hx.starts.mono fun c hc =>
      Nonterminal.first_of_word _ (isAsciiWordCharacter_of_isDigit hc))
  | parentheses hp _ _ _ =>
    refine ((hp.starts_single.append _).append _).mono fun c hc => ?_
    simp only [Nonterminal.first, hc, Bool.or_true, Bool.true_or]
  | name hx hu =>
    exact hu.starts (hx.1.starts.mono fun c hc =>
      Nonterminal.first_of_word _ (isAsciiWordCharacter_of_isNameStart hc))
  | negate ho _ _ =>
    refine (ho.starts_single.append _).mono fun c hc => ?_
    rw [Nonterminal.first, hc]
    exact Bool.or_true _
  | atom _ ih => exact mono ih
  | unary _ ih | product _ ih | sum _ ih => exact ih
  | multiply _ _ _ ih _ | divide _ _ _ ih _ | add _ _ _ ih _ | subtract _ _ _ ih _ =>
    exact (ih.append _).append _
  | binding => exact ⟨'l', _, rfl, Nonterminal.first_of_word _ (by decide)⟩

theorem Encloses.starts (h : Encloses number u e) : Starts (· == '(') u := by
  obtain ⟨p, v, q, rfl, hp, -⟩ := h
  exact (hp.starts_single.append v).append q

theorem Derives.stops_isBlank {G : Nonterminal} (h : Derives number G u e) (rest : Text) :
    Stops isBlank (u ++ rest) :=
  (h.starts.append rest).stops fun _ => Nonterminal.not_isBlank_of_first

/-- The first word of an expression is not `let`, unless the expression is a binding. -/
theorem Derives.not_let {G : Nonterminal} (h : Derives number G u e) (hG : G ≠ .decl) {rest : Text}
    (stop : Stops isAsciiWordCharacter rest) :
    (u ++ rest).takeWhile isAsciiWordCharacter ≠ "let".toList := by
  have sign {c : Char} {o : Text} (ho : Token [c] o) (hc : isAsciiWordCharacter c = false)
      (t : Text) : Stops isAsciiWordCharacter (o ++ t) := by
    refine (ho.starts_single.append t).stops fun d hd => ?_
    rw [beq_iff_eq.mp hd, hc]
  induction h generalizing rest with
  | numeral hx hu => exact ((hu.starts hx.starts).append rest).takeWhile_ne (by decide) _ _
  | parentheses hp _ _ _ =>
    exact (((hp.starts_single.append _).append _).append rest).takeWhile_ne (by decide) _ _
  | name hx hu =>
    obtain ⟨w, rfl, hw⟩ := hu
    have behind : Stops isAsciiWordCharacter (w ++ rest) := by
      cases w with
      | nil => exact stop
      | cons c w =>
        exact stops_cons (not_isAsciiWordCharacter_of_isBlank (hw c List.mem_cons_self)) _
    rw [List.append_assoc, takeWhile_append_of_stops hx.1.all behind]
    exact hx.2
  | negate ho _ _ =>
    exact ((ho.starts_single.append _).append rest).takeWhile_ne (by decide) _ _
  | atom _ ih | unary _ ih | product _ ih => exact ih nofun stop
  | multiply _ ho _ ih _ | divide _ ho _ ih _ | add _ ho _ ih _ | subtract _ ho _ ih _ =>
    rw [List.append_assoc, List.append_assoc]
    exact ih nofun (sign ho (by decide) _)
  | binding | sum => exact absurd rfl hG

/-- What starts with the word `let` by itself is no sum. -/
theorem Binds.ne_of_derives {v r : Text} {f : Expr ν} (h : Binds number v f)
    (hu : Derives number .sum u e) : u ++ [] ≠ v ++ r := by
  obtain ⟨w, x, m, q, t, o, t', a, b, rfl, -, hw, hne, -⟩ := h
  obtain ⟨c, w, rfl⟩ := List.exists_cons_of_ne_nil hne
  intro same
  apply hu.not_let nofun (stops_nil _)
  simp only [same, List.append_assoc]
  refine takeWhile_append_of_stops (List.all_eq_true.mp rfl) (stops_cons ?_ _)
  exact not_isAsciiWordCharacter_of_isBlank (hw c List.mem_cons_self)

end Calculator

end Backtrack
