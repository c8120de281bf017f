import Backtrack.ParseError
import Backtrack.Pattern.Escape
import Backtrack.Proofs.Rendering
import Backtrack.Proofs.Scan
import Backtrack.Proofs.WordCharacter

/-!
# Messages of errors

A quoted text can be read back, whatever stands behind it: `readEscaped_escapeChar` for one
character, `quote_append_inj` for the text. So the message of an error says which error it is, up to
the part of a remaining text that is not shown: `messages_tell_errors_apart`.
-/

namespace Backtrack

/-! ## Numbers in base 16 -/

namespace Pattern

theorem hexValue_digitChar : ∀ d < 16, hexValue? d.digitChar = some d := by decide

theorem mapM_hexValue_toDigits (n : Nat) : ∃ values,
    (Nat.toDigits 16 n).mapM hexValue? = some values ∧ values ≠ [] ∧
      values.foldl (fun n v => n * 16 + v) 0 = n := by
  induction n using Nat.strongRecOn with
  | ind n ih =>
    rw [Nat.toDigits_eq_if (by decide)]
    split
    · rename_i small
      refine ⟨[n], ?_, List.cons_ne_nil _ _, by simp⟩
      simp [hexValue_digitChar n small]
    · rename_i large
      obtain ⟨values, read, -, value⟩ := ih (n / 16) (by omega)
      refine ⟨values ++ [n % 16], ?_, by simp, ?_⟩
      · simp [read, hexValue_digitChar (n % 16) (Nat.mod_lt n (by decide))]
      · rw [List.foldl_append, value, List.foldl_cons, List.foldl_nil]
        omega

/-- The number of a character is read back. -/
theorem hexChar_toDigits (c : Char) : hexChar? (Nat.toDigits 16 c.toNat) = some c := by
  obtain ⟨values, read, some_digit, value⟩ := mapM_hexValue_toDigits c.toNat
  have valid : c.toNat.isValidChar := c.valid
  have nonempty : values.isEmpty = false := by simpa using some_digit
  simp only [hexChar?, read, Option.bind_eq_bind, Option.bind_some, value, nonempty, valid,
    decide_true, Bool.not_true, Bool.or_false, Bool.false_eq_true, ↓reduceIte, Char.ofNat_toNat]

end Pattern

/-! ## Quoted texts -/

/-- The characters with a short escape, each behind the letter that follows the backslash. -/
def shortEscapes : List (Char × Char) :=
  [('0', '\x00'), ('t', '\t'), ('r', '\r'), ('n', '\n'), ('\\', '\\'), ('"', '"')]

/-- Reads the character that is written by a backslash and the text that follows it. -/
def readBackslash? : Text → Option (Char × Text)
  | [] => none
  | d :: rest =>
    if d = 'u' then do
      let number := rest.drop 1
      return (← Pattern.hexChar? (number.takeWhile (· != '\x7d')),
        (number.dropWhile (· != '\x7d')).drop 1)
    else do return (← shortEscapes.lookup d, rest)

/-- Reads a character inside of quotes. -/
def readEscaped? : Text → Option (Char × Text)
  | [] => none
  | c :: rest =>
    if c = '"' then none else if c = '\\' then readBackslash? rest else some (c, rest)

/-- A character is read back from the way in which it is written. -/
theorem readEscaped_escapeChar (c : Char) (u : Text) :
    readEscaped? (escapeChar c ++ u) = some (c, u) := by
  unfold escapeChar
  split
  · rfl
  · rfl
  · rfl
  · rfl
  · rfl
  · rfl
  · rename_i noBackslash noQuote
    split
    · have digits : ∀ d ∈ Nat.toDigits 16 c.toNat, (d != '\x7d') = true := by
        intro d hd
        rw [bne_iff_ne]
        rintro rfl
        exact notMem_toDigits (fun _ => Nat.digitChar_ne '\x7d' (by decide)) (by decide) _ hd
      have stop : Stops (· != '\x7d') ('\x7d' :: u) := stops_cons rfl u
      simp [readEscaped?, readBackslash?, takeWhile_append_of_stops digits stop,
        dropWhile_append_of_stops digits stop, Pattern.hexChar_toDigits c]
    · have other : c ≠ '\\' ∧ c ≠ '"' := ⟨noBackslash, noQuote⟩
      simp [readEscaped?, other]

theorem flatMap_escapeChar_inj {s t u v : Text}
    (h : s.flatMap escapeChar ++ '"' :: u = t.flatMap escapeChar ++ '"' :: v) :
    s = t ∧ u = v := by
  induction s generalizing t with
  | nil =>
    cases t with
    | nil => exact ⟨rfl, (List.cons.inj h).2⟩
    | cons d t =>
      have read := congrArg readEscaped? h
      rw [List.flatMap_cons, List.append_assoc, readEscaped_escapeChar] at read
      cases read
  | cons c s ih =>
    have read := congrArg readEscaped? h
    rw [List.flatMap_cons, List.append_assoc, readEscaped_escapeChar] at read
    cases t with
    | nil => cases read
    | cons d t =>
      rw [List.flatMap_cons, List.append_assoc, readEscaped_escapeChar] at read
      obtain ⟨rfl, rest⟩ := Prod.mk.inj (Option.some.inj read)
      obtain ⟨rfl, same⟩ := ih rest
      exact ⟨rfl, same⟩

/-- Where a quoted text ends can be told from the text, and what it quotes. -/
theorem quote_append_inj {s t u v : Text} (h : quote s ++ u = quote t ++ v) : s = t ∧ u = v := by
  simp only [quote, List.cons_append, List.append_assoc, List.nil_append] at h
  exact flatMap_escapeChar_inj (List.cons.inj h).2

/-! ## Lines -/

/-- The characters that end a line. -/
def lineBreaks : Text := ['\n', '\x0B', '\x0C', '\r', '\u0085', '\u2028', '\u2029']

/-- The line breaks are checked one by one. To decide this for all characters is to try them all. -/
theorem forall_lineBreaks {P : Char → Prop} [DecidablePred P]
    (h : lineBreaks.all (fun c => decide (P c)) = true) : ∀ c ∈ lineBreaks, P c :=
  fun c hc => of_decide_eq_true (List.all_eq_true.mp h c hc)

theorem lineBreak_notMem {t : Text} (ht : lineBreaks.all (fun c => decide (c ∉ t)) = true)
    {c : Char} (h : c ∈ lineBreaks) : c ∉ t :=
  forall_lineBreaks ht c h

set_option maxRecDepth 20000 in
/-- All but the two with a short escape are written by their number. -/
theorem unprintable_of_mem_lineBreaks : ∀ b ∈ lineBreaks, b ≠ '\n' → b ≠ '\r' →
    Unicode.unprintable.contains b = true := by
  rw [Unicode.unprintable, Unicode.decodeRanges_eq rfl]
  refine forall_lineBreaks ?_
  decide +kernel

theorem lineBreak_notMem_toDigits {c : Char} (h : c ∈ lineBreaks) {b : Nat} (hb : 1 < b) (n : Nat) :
    c ∉ Nat.toDigits b n := by
  refine notMem_toDigits (fun d => Nat.digitChar_ne c ?_) hb n
  revert c
  change ∀ c ∈ lineBreaks, _
  exact forall_lineBreaks (by decide)

theorem lineBreak_notMem_escapeChar {b : Char} (h : b ∈ lineBreaks) (c : Char) :
    b ∉ escapeChar c := by
  have digits := lineBreak_notMem_toDigits h (b := 16) (by decide) c.toNat
  unfold escapeChar
  split
  · exact lineBreak_notMem (by decide) h
  · exact lineBreak_notMem (by decide) h
  · exact lineBreak_notMem (by decide) h
  · exact lineBreak_notMem (by decide) h
  · exact lineBreak_notMem (by decide) h
  · exact lineBreak_notMem (by decide) h
  · rename_i noReturn noNewline _ _
    split
    · have signs : ∀ b ∈ lineBreaks, b ∉ ['\\', 'u', '\x7b'] ∧ b ∉ ['\x7d'] :=
        forall_lineBreaks (by decide)
      obtain ⟨start, stop⟩ := signs b h
      exact List.not_mem_append (List.not_mem_append start digits) stop
    · rename_i printable
      intro same
      obtain rfl := List.mem_singleton.mp same
      exact printable (unprintable_of_mem_lineBreaks b h noNewline noReturn)

theorem lineBreak_notMem_quote {b : Char} (h : b ∈ lineBreaks) (t : Text) : b ∉ quote t := by
  have sign : b ∉ ['"'] := lineBreak_notMem (by decide) h
  rw [List.mem_singleton] at sign
  simp [quote, sign, lineBreak_notMem_escapeChar h]

/-! ## Messages -/

/-- The start of a text takes fewer bytes than the text exactly if it has fewer characters. -/
theorem byteLength_take_lt_iff (n : Nat) (t : Text) :
    byteLength (t.take n) < byteLength t ↔ n < t.length := by
  induction n generalizing t with
  | zero =>
    cases t with
    | nil => simp
    | cons c t =>
      have := c.utf8Size_pos
      simp only [List.take_zero, byteLength_nil, byteLength_cons, List.length_cons]
      omega
  | succ n ih =>
    cases t with
    | nil => simp
    | cons c t =>
      have := ih t
      simp only [List.take_succ_cons, byteLength_cons, List.length_cons]
      omega

theorem not_dots_suffix {m : Text} (h : m.getLast? ≠ some '.') : ¬['.', '.', '.'] <:+ m := by
  rintro ⟨start, rfl⟩
  exact h (by simp)

namespace ParseError

theorem message_incomplete (r : Text) : (incomplete r).message.toList =
    "unexpected trailing input ".toList ++
      (quote (r.take 16) ++ if 16 < r.length then ['.', '.', '.'] else []) := by
  change ("unexpected trailing input " ++ String.ofList (quote (r.take 16)) ++
    if byteLength (r.take 16) < byteLength r then "..." else "").toList = _
  have quoted : (String.ofList (quote (r.take 16))).toList = quote (r.take 16) :=
    String.toList_ofList
  rw [String.toList_append, String.toList_append, List.append_assoc, quoted]
  simp only [byteLength_take_lt_iff]
  split
  · rfl
  · rfl

theorem message_ambiguous (n : Nat) : (ambiguous n).message.toList =
    "ambiguous input: ".toList ++ (Nat.toDigits 10 n ++ " complete parses".toList) := by
  change ("ambiguous input: " ++ n.repr ++ " complete parses").toList = _
  rw [String.toList_append, String.toList_append, List.append_assoc, Nat.toList_repr]

/-- The first character of a message tells the kind of the error. -/
theorem head_message (e : ParseError) : e.message.toList.head? =
    match e with
    | noMatch => some 'i'
    | incomplete _ => some 'u'
    | ambiguous _ => some 'a' := by
  cases e with
  | noMatch => rfl
  | incomplete r => rw [message_incomplete]; rfl
  | ambiguous n => rw [message_ambiguous]; rfl

theorem message_incomplete_eq_iff {r s : Text} : (incomplete r).message = (incomplete s).message ↔
    r = s ∨ r.take 16 = s.take 16 ∧ 16 < r.length ∧ 16 < s.length := by
  rw [← String.toList_inj, message_incomplete, message_incomplete, List.append_right_inj]
  constructor
  · intro h
    obtain ⟨shown, dots⟩ := quote_append_inj h
    by_cases long : 16 < r.length
    · have long' : 16 < s.length := by
        by_contra short
        simp [long, short] at dots
      exact .inr ⟨shown, long, long'⟩
    · have short : ¬16 < s.length := by
        intro long'
        simp [long, long'] at dots
      rw [List.take_of_length_le (Nat.not_lt.mp long),
        List.take_of_length_le (Nat.not_lt.mp short)] at shown
      exact .inl shown
  · rintro (rfl | ⟨shown, long, long'⟩)
    · rfl
    · rw [shown, if_pos long, if_pos long']

theorem message_ambiguous_inj {m n : Nat} (h : (ambiguous m).message = (ambiguous n).message) :
    m = n := by
  rw [← String.toList_inj, message_ambiguous, message_ambiguous, List.append_right_inj,
    List.append_left_inj] at h
  have number := congrArg (Nat.ofDigitChars 10 · 0) h
  simpa using number

theorem lineBreak_notMem_message {b : Char} (h : b ∈ lineBreaks) (e : ParseError) :
    b ∉ e.message.toList := by
  cases e with
  | noMatch => exact lineBreak_notMem (by decide) h
  | incomplete r =>
    have words : b ∉ "unexpected trailing input ".toList := lineBreak_notMem (by decide) h
    have dots : b ∉ if 16 < r.length then ['.', '.', '.'] else [] := by
      split
      · exact lineBreak_notMem (by decide) h
      · exact List.not_mem_nil
    rw [message_incomplete]
    exact List.not_mem_append words (List.not_mem_append (lineBreak_notMem_quote h _) dots)
  | ambiguous n =>
    have words : b ∉ "ambiguous input: ".toList := lineBreak_notMem (by decide) h
    have words' : b ∉ " complete parses".toList := lineBreak_notMem (by decide) h
    have number := lineBreak_notMem_toDigits h (b := 10) (by decide) n
    rw [message_ambiguous]
    exact List.not_mem_append words (List.not_mem_append number words')

/-- Dots at the end stand for a part of the remaining text that is not shown. -/
theorem dots_suffix_message_iff (e : ParseError) : ['.', '.', '.'] <:+ e.message.toList ↔
    ∃ r, e = incomplete r ∧ 16 < r.length := by
  cases e with
  | noMatch => exact iff_of_false (by decide) nofun
  | incomplete r =>
    rw [message_incomplete]
    by_cases long : 16 < r.length
    · rw [if_pos long, ← List.append_assoc]
      exact iff_of_true (List.suffix_append _ _) ⟨r, rfl, long⟩
    · have quoteEnds : (quote (r.take 16)).getLast? = some '"' := List.getLast?_concat
      rw [if_neg long, List.append_nil]
      refine iff_of_false (not_dots_suffix ?_) ?_
      · rw [List.getLast?_append, quoteEnds]
        decide
      · rintro ⟨_, ⟨⟩, long'⟩
        exact long long'
  | ambiguous n =>
    rw [message_ambiguous]
    refine iff_of_false (not_dots_suffix ?_) nofun
    rw [List.getLast?_append, List.getLast?_append]
    exact nofun

end ParseError

/-- **A message says which error it is.** Two errors have the same message only if they are the same
or if both show the same sixteen characters of texts that are longer. A message is one line, and it
ends in dots exactly if the remaining text has more characters than are shown. Both hold whatever
characters the remaining text has: quotes and dots in it, or what looks like an escape, are not
mistaken for those of the message. -/
theorem messages_tell_errors_apart (a b : ParseError) :
    (a.message = b.message ↔ a = b ∨ ∃ r s, a = .incomplete r ∧ b = .incomplete s ∧
      r.take 16 = s.take 16 ∧ 16 < r.length ∧ 16 < s.length) ∧
    (∀ c ∈ lineBreaks, c ∉ a.message.toList) ∧
    (['.', '.', '.'] <:+ a.message.toList ↔ ∃ r, a = .incomplete r ∧ 16 < r.length) := by
  refine ⟨⟨fun h => ?_, ?_⟩, fun c hc => a.lineBreak_notMem_message hc, a.dots_suffix_message_iff⟩
  · have first := congrArg (fun m => m.toList.head?) h
    simp only [ParseError.head_message] at first
    cases a with
    | noMatch =>
      cases b with
      | noMatch => exact .inl rfl
      | incomplete s => cases first
      | ambiguous n => cases first
    | incomplete r =>
      cases b with
      | noMatch => cases first
      | incomplete s =>
        rcases ParseError.message_incomplete_eq_iff.mp h with rfl | same
        · exact .inl rfl
        · exact .inr ⟨r, s, rfl, rfl, same⟩
      | ambiguous n => cases first
    | ambiguous m =>
      cases b with
      | noMatch => cases first
      | incomplete s => cases first
      | ambiguous n =>
        exact .inl (congrArg ParseError.ambiguous (ParseError.message_ambiguous_inj h))
  · rintro (rfl | ⟨r, s, rfl, rfl, same⟩)
    · rfl
    · exact ParseError.message_incomplete_eq_iff.mpr (.inr same)

end Backtrack
