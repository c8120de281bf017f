import Backtrack.Main
import Backtrack.Proofs.CalculatorRecognition
import Backtrack.Proofs.FreeNames
import Backtrack.Proofs.Rendering
import Backtrack.Proofs.Tracing

/-!
# The calculator program

The program answers every list of arguments, with the usage or with one line for the expression,
and shows the trace before that line if it is asked for it: `program_answers`. The trace is one
scope for the whole expression, which has ended, with one line for each scope in it.
-/

open Backtrack.Parser

namespace Backtrack.Parser

/-- The marks in the parser, and in all the parsers that it can go on with, are in the set. -/
def MarksIn (M : Set Mark) : {Γ : Scopes} → {α : Type} → Parser Γ α → Prop
  | _, _, pure _ | _, _, empty | _, _, raise _ | _, _, endOfText | _, _, item => True
  | _, _, grapheme | _, _, literal _ | _, _, pattern _ | _, _, custom _ | _, _, handle _ => True
  | _, _, tryMap p _ | _, _, tryFilter p _ | _, _, optional p | _, _, many p => p.MarksIn M
  | _, _, some p | _, _, token p => p.MarksIn M
  | _, _, debug mark p => mark ∈ M ∧ p.MarksIn M
  | _, _, bind p next => p.MarksIn M ∧ ∀ a, (next a).MarksIn M
  | _, _, union p q | _, _, committed p q | _, _, orElse p q => p.MarksIn M ∧ q.MarksIn M
  | _, _, separatedByAtLeastOne p q | _, _, separatedBy p q => p.MarksIn M ∧ q.MarksIn M
  | _, _, chain p q | _, _, .then p q | _, _, ap p q => p.MarksIn M ∧ q.MarksIn M
  | _, _, define _ definition body => definition.MarksIn M ∧ body.MarksIn M

theorem MarksIn.mark_mem {M : Set Mark} {Γ : Scopes} {α : Type} {p : Parser Γ α}
    (h : p.MarksIn M) {D : Definitions Γ} {x : MarkedParser} (hx : x ∈ p.marked D) :
    x.mark ∈ M := by
  induction p with
  | pure | empty | raise | endOfText | item | grapheme | literal | pattern | custom | handle =>
    exact hx.elim
  | tryMap _ _ ih | tryFilter _ _ ih | optional _ ih | many _ ih | some _ ih | token _ ih =>
    exact ih h hx
  | debug mark _ ih =>
    rcases hx with rfl | hx
    · exact h.1
    · exact ih h.2 hx
  | bind _ _ ih ihn =>
    rcases hx with hx | ⟨a, hx⟩
    · exact ih h.1 hx
    · exact ihn a (h.2 a) hx
  | union _ _ ih₁ ih₂ | committed _ _ ih₁ ih₂ | orElse _ _ ih₁ ih₂
  | separatedByAtLeastOne _ _ ih₁ ih₂ | separatedBy _ _ ih₁ ih₂ | chain _ _ ih₁ ih₂
  | «then» _ _ ih₁ ih₂ | ap _ _ ih₁ ih₂ | define _ _ _ ih₁ ih₂ =>
    rcases hx with hx | hx
    · exact ih₁ h.1 hx
    · exact ih₂ h.2 hx

end Backtrack.Parser

namespace Backtrack.Calculator

open Unicode

variable {ν : Type}

/-! ## Evaluation -/

theorem Derives.occurrences_isName {number : Text → ν} {C : Nonterminal} {u : Text} {e : Expr ν}
    (h : Derives number C u e) (around : List Text) :
    ∀ o ∈ e.occurrences around, IsName o.name := by
  induction h generalizing around with
  | numeral => exact fun _ ho => nomatch ho
  | name hx => exact List.forall_mem_singleton.mpr hx
  | parentheses _ _ _ ih | negate _ _ ih | atom _ ih | unary _ ih | product _ ih | sum _ ih =>
    exact ih around
  | multiply _ _ _ ih₁ ih₂ | divide _ _ _ ih₁ ih₂ | add _ _ _ ih₁ ih₂ | subtract _ _ _ ih₁ ih₂ =>
    exact List.forall_mem_append.mpr ⟨ih₁ around, ih₂ around⟩
  | binding _ _ _ _ _ _ _ _ ih₁ ih₂ =>
    exact List.forall_mem_append.mpr ⟨ih₁ around, ih₂ _⟩

theorem isName_of_unbound {number : Text → ν} {C : Nonterminal} {u x : Text} {e : Expr ν}
    (h : Derives number C u e) {A : Arithmetic ν} (hx : e.value A = .error (.unbound x)) :
    IsName x := by
  have answers : Answers (e.firstUnbound []) (e.value A) := e.eval_answers A []
  rw [hx] at answers
  obtain ⟨o, first, same⟩ := answers.of_error
  obtain rfl : x = o.name := EvalError.unbound.inj same
  exact h.occurrences_isName [] o (List.mem_of_find?_eq_some first)

/-! ## Answers -/

theorem newline_notMem_text (d : Decimal) : '\n' ∉ d.text := by
  have digits := newline_notMem_toDigits (b := 10) (by decide) d.digits
  unfold Decimal.text
  split
  · simp [digits]
  · have padded (n : Nat) : '\n' ∉ List.replicate n '0' ++ Nat.toDigits 10 d.digits := by
      simp [digits]
    intro h
    rcases List.mem_append.mp h with h | h
    · exact padded _ (List.mem_of_mem_take h)
    · rcases List.mem_cons.mp h with h | h
      · cases h
      · exact padded _ (List.mem_of_mem_drop h)

theorem newline_notMem_write (x : Float) : '\n' ∉ Decimal.write x := by
  have magnitude (m : Magnitude) : '\n' ∉ Decimal.magnitudeText m := by
    unfold Decimal.magnitudeText
    split
    · decide
    · exact newline_notMem_text _
  unfold Decimal.write
  cases Binary64.ofFloat x with
  | notANumber => decide
  | infinite negative => cases negative <;> decide
  | finite negative m => cases negative <;> simp [magnitude m]

theorem newline_notMem_of_isName {x : Text} (h : IsName x) : '\n' ∉ x := by
  obtain ⟨⟨c, u, rfl, hc, hu⟩, -⟩ := h
  intro newline
  rcases List.mem_cons.mp newline with rfl | newline
  · exact absurd hc (by decide)
  · exact absurd (hu _ newline) (by decide)

theorem newline_notMem_message (e : ParseError) : '\n' ∉ e.message.toList := by
  unfold ParseError.message
  cases e with
  | noMatch => simp
  | incomplete remaining => dsimp only; split <;> simp [newline_notMem_quote]
  | ambiguous n => simp [newline_notMem_toDigits]

theorem newline_notMem_unbound {x : Text} (h : IsName x) :
    '\n' ∉ (EvalError.unbound x).message.toList := by
  unfold EvalError.message
  simp [newline_notMem_of_isName h]

/-- What is answered for a word of the language is on one line. -/
theorem newline_notMem_answer {number : Text → Float} {u : Text} {e : Expr Float}
    (h : Derives number .decl u e) : '\n' ∉ (answer (.ok e)).toList := by
  unfold answer
  dsimp only
  cases value : e.value .double with
  | ok x => simp [newline_notMem_write]
  | error missing =>
    obtain ⟨x⟩ := missing
    simp [newline_notMem_unbound (isName_of_unbound h value)]

/-- **Every text is answered, and on one line.** -/
theorem evaluate_eq_ok (source : Text) :
    ∃ line, evaluate source = .ok line ∧ '\n' ∉ line.toList := by
  have refused (e : ParseError) : '\n' ∉ (answer (.error e)).toList := by
    simp [answer, newline_notMem_message]
  rcases parse_cases Decimal.read source with none | ⟨w, u, rest, e, -, -, hu, parsed⟩
  · exact ⟨_, congrArg (Except.map answer) none, refused _⟩
  · refine ⟨_, congrArg (Except.map answer) parsed, ?_⟩
    cases rest with
    | nil => exact newline_notMem_answer hu
    | cons c rest => exact refused _

/-! ## Numerals -/

/-- The conversion of numerals is only asked for what it can convert: one that fails on all other
texts can be put in its place. -/
theorem numeral_behaviour_of_partial {convert : Text → Attempt ν} {number : Text → ν}
    (h : ∀ x, IsNumeral x → convert x = .ok (number x)) {σ : Type} {Γ : Scopes} (d : Debugger σ)
    (depth : Nat) (s : Store σ Γ) :
    (((pattern Lexeme.numeral).tryMap fun x => (convert x).map Expr.number).token).behaviour d depth
      s = (numeral number).behaviour d depth s := by
  have same : Behaviour.tryMap (.split Lexeme.numeral.split) (fun x => (convert x).map Expr.number)
      = (Behaviour.tryMap (.split Lexeme.numeral.split) fun x => .ok (Expr.number (number x)) :
        Behaviour σ (Expr ν)) := by
    funext t
    rcases numeral_split_cases t with none | ⟨x, rest, -, hx, found⟩
    · simp only [Behaviour.tryMap, Behaviour.split, none]
      rfl
    · simp only [Behaviour.tryMap, Behaviour.split, found, Option.toList_some, pure_bind, mapEach,
        h x hx]
      rfl
  exact congrArg Behaviour.token same

/-! ## The trace -/

section

variable {Γ : Scopes} (number : Text → ν)

/-- The marks of the calculator. -/
def marks : Set Mark := {declMark, atomMark}

theorem declMark_mem : declMark ∈ marks := .inl rfl

theorem atomMark_mem : atomMark ∈ marks := .inr rfl

theorem line_oneLine_of_mark {s : Scope} (h : s.mark ∈ marks) (depth : Nat) :
    OneLine (s.line depth) := by
  apply Scope.line_oneLine <;> rcases h with h | h <;> rw [h] <;> decide

theorem unary_marks (sum : Handle Γ (Expr ν)) : (unary number sum).MarksIn marks := by
  simp [unary, recursive, MarksIn, atom, numeral, identifier, delimitedBy, ignoreThen, thenIgnore,
    map, filter, symbol, self, atomMark_mem]

theorem sum_marks : (sum number : Parser Γ (Expr ν)).MarksIn marks := by
  simp [sum, recursive, MarksIn, product, unary_marks, operator, replace, map, symbol]

theorem binding_marks : (binding number self : Parser (Expr ν :: Γ) _).MarksIn marks := by
  simp [binding, MarksIn, sum_marks, identifier, ignoreThen, thenIgnore, map, filter, symbol, self]

/-- The grammar without the mark on the whole expression. -/
def markless : Parser [] (Expr ν) :=
  let inner := (binding number self).orElse (sum number)
  define .alive (debug declMark inner) inner

theorem behaviour_grammar {σ : Type} (d : Debugger σ) (depth : Nat) :
    (grammar number).behaviour d depth .empty =
      ((markless number).behaviour d depth .empty).debug d declMark := rfl

theorem markless_marks : (markless number).MarksIn marks := by
  simp [markless, MarksIn, binding_marks, sum_marks, declMark_mem]

end

/-- A run of the grammar reports one scope. -/
theorem grammar_traced (number : Text → ν) {depth : Nat} {t : Text} {cs : Candidates (Expr ν)}
    (h : ((grammar number).behaviour .silent depth .empty t).outcome () = (.ok cs, ())) :
    ∃ forest, Scope.AllEnded (fun s => ∀ depth, OneLine (s.line depth)) forest ∧
      ∀ trace : Trace, ((grammar number).behaviour .tracer depth .empty t).outcome trace =
        (.ok cs, trace.grow [⟨declMark, t, Option.some cs.length, forest⟩]) := by
  have enclosed : (Store.empty : Store Trace []).Corresponds (.deeper Trace) Set.univ
      (Definitions.none.store .tracer depth) := nofun
  have lines : ∀ x ∈ (markless number).marked .none, ∀ s, x.Explains depth s →
      ∀ depth, OneLine (s.line depth) :=
    fun x hx s explains => line_oneLine_of_mark
      (explains.mark ▸ (markless_marks number).mark_mem hx)
  obtain ⟨result, report, reports, sound, ended⟩ :=
    (markless number).reports lines (Store.empty_corresponds _ _) enclosed t trivial
  obtain rfl : result = .ok cs := by
    have silent := (Observer.recording #[]).outcome_behaviour (markless number) depth t
    rw [behaviour_grammar, debug_silent] at h
    rw [h, Observer.outcome, reports.logged] at silent
    exact silent
  obtain ⟨-, closed⟩ := ended cs rfl
  obtain ⟨forest, _⟩ := report
  cases closed
  exact ⟨forest, sound.1, (reports.debug_of_ok declMark).traced⟩

/-- The trace of an expression is one scope for the text behind the white space, with one line for
each scope in it. -/
theorem applyVerbose_eq_ok (number : Text → ν) (source : Text) :
    ∃ cs, ∃ root : Scope, (grammar number).applyVerbose source = .ok (cs, root.render 0) ∧
      root.mark = declMark ∧ root.input = source.dropWhile isBlank ∧
      root.Ended fun s => ∀ depth, OneLine (s.line depth) := by
  have short := length_dropWhile_lt_depthFor isBlank source
  obtain ⟨cs, ran⟩ : ∃ cs, ((grammar number).behaviour .silent (depthFor source) .empty
      (source.dropWhile isBlank)).outcome () = (.ok cs, ()) := by
    rcases (grammar_recognises (s := .empty)).cases_single short with none | ⟨_, _, _, -, -, found⟩
    · exact ⟨_, congrArg (Run.outcome · ()) none⟩
    · exact ⟨_, congrArg (Run.outcome · ()) found⟩
  obtain ⟨forest, ended, traced⟩ := grammar_traced number ran
  have whole : ((grammar number).applyWith .tracer source).outcome {} =
      (.ok cs, ⟨[⟨declMark, source.dropWhile isBlank, Option.some cs.length, forest⟩], []⟩) := by
    rw [outcome_applyWith, Pattern.blanks_split]
    exact traced {}
  refine ⟨cs, ⟨declMark, source.dropWhile isBlank, Option.some cs.length, forest⟩, ?_, rfl, rfl,
    line_oneLine_of_mark declMark_mem, ended⟩
  rw [applyVerbose, whole]
  change Except.ok (cs, Scope.render 0 _ ++ "") = _
  rw [String.append_empty]

/-! ## The program -/

theorem output_of_untraced {word line : String} {words : List String} (h : word ≠ traceFlag)
    (answered : evaluate (" ".intercalate (word :: words)).toList = .ok line) :
    output (word :: words) = .ok (line ++ "\n") := by
  have untraced : ((word :: words).head? == Option.some traceFlag) = false :=
    beq_eq_false_iff_ne.mpr fun same => h (Option.some.inj same)
  rw [output, untraced]
  change (do return "" ++ (← evaluate (" ".intercalate (word :: words)).toList) ++ "\n") = _
  rw [answered]
  change Except.ok ("" ++ line ++ "\n") = _
  rw [String.empty_append]

theorem output_of_traced {word line trace : String} {words : List String} {cs}
    (traced : parser.applyVerbose (" ".intercalate (word :: words)).toList = .ok (cs, trace))
    (answered : evaluate (" ".intercalate (word :: words)).toList = .ok line) :
    output (traceFlag :: word :: words) = .ok (trace ++ line ++ "\n") := by
  have flag : ((traceFlag :: word :: words).head? == Option.some traceFlag) = true :=
    beq_self_eq_true _
  rw [output, flag]
  change (do
    let trace ← Prod.snd <$> parser.applyVerbose (" ".intercalate (word :: words)).toList
    return trace ++ (← evaluate (" ".intercalate (word :: words)).toList) ++ "\n") = _
  rw [traced, answered]
  rfl

theorem output_eq_ok (args : List String) : ∃ text, output args = .ok text := by
  have answers (words : List String) := evaluate_eq_ok (" ".intercalate words).toList
  rcases args with _ | ⟨word, words⟩
  · exact ⟨_, rfl⟩
  · by_cases h : word = traceFlag
    · subst h
      rcases words with _ | ⟨word, words⟩
      · exact ⟨_, rfl⟩
      · obtain ⟨_, _, traced, -⟩ := applyVerbose_eq_ok Decimal.read
          (" ".intercalate (word :: words)).toList
        obtain ⟨_, answered, -⟩ := answers (word :: words)
        exact ⟨_, output_of_traced traced answered⟩
    · obtain ⟨_, answered, -⟩ := answers (word :: words)
      exact ⟨_, output_of_untraced h answered⟩

/-- **The program answers every list of arguments,** and ends with status 0. Without an expression
it shows the usage. Otherwise there is one line that depends on the expression only. With a trace
there is the same line behind the lines of one scope, that of the whole expression, in which all
scopes have ended and have one line each. Numerals are only converted where they are numerals, so
that a conversion that fails on other texts would do. -/
theorem program_answers :
    (∀ args, ∃ text, output args = .ok text ∧ main args = do IO.print text; return 0) ∧
    OneLine (usage ++ "\n") ∧ output [] = .ok (usage ++ "\n") ∧
    output [traceFlag] = .ok (usage ++ "\n") ∧
    (∀ source, ∃ line, evaluate source = .ok line ∧ OneLine (line ++ "\n") ∧
      ∃ root : Scope, root.mark = declMark ∧ root.input = source.dropWhile isBlank ∧
        root.Ended (fun s => ∀ depth, OneLine (s.line depth)) ∧
        (root.render 0).toList.count '\n' = root.size ∧
        ∀ word words, (" ".intercalate (word :: words)).toList = source →
          (word ≠ traceFlag → output (word :: words) = .ok (line ++ "\n")) ∧
          output (traceFlag :: word :: words) = .ok (root.render 0 ++ line ++ "\n")) ∧
    ∀ convert : Text → Attempt Float, (∀ x, IsNumeral x → convert x = .ok (Decimal.read x)) →
      ∀ (σ : Type) (Γ : Scopes) (d : Debugger σ) (depth : Nat) (s : Store σ Γ),
        (((pattern Lexeme.numeral).tryMap fun x => (convert x).map Expr.number).token).behaviour d
          depth s = (numeral Decimal.read).behaviour d depth s := by
  refine ⟨?_, oneLine_append (by decide), rfl, rfl, ?_, ?_⟩
  · intro args
    obtain ⟨text, h⟩ := output_eq_ok args
    exact ⟨text, h, by rw [main, h]⟩
  · intro source
    obtain ⟨line, answered, newline⟩ := evaluate_eq_ok source
    obtain ⟨cs, root, traced, mark, input, ended⟩ := applyVerbose_eq_ok Decimal.read source
    refine ⟨line, answered, oneLine_append newline, root, mark, input, ended,
      root.count_newline_render ended 0, ?_⟩
    rintro word words rfl
    exact ⟨fun h => output_of_untraced h answered, output_of_traced traced answered⟩
  · intro convert h σ Γ d depth s
    exact numeral_behaviour_of_partial h d depth s

/-- A conversion that raises a fault on all texts but numerals. -/
def strict (x : Text) : Attempt Float :=
  match x.takeWhile Char.isDigit, x.dropWhile Char.isDigit with
  | _ :: _, [] => .ok (Decimal.read x)
  | _ :: _, '.' :: c :: fs =>
    if (c :: fs).all Char.isDigit then .ok (Decimal.read x) else .error (.raised "no numeral")
  | _, _ => .error (.raised "no numeral")

theorem strict_eq_ok {x : Text} (h : IsNumeral x) : strict x = .ok (Decimal.read x) := by
  rcases h with ⟨hne, hd⟩ | ⟨ds, fs, rfl, ⟨hne, hd⟩, hne', hf⟩
  · obtain ⟨c, cs, rfl⟩ := List.exists_cons_of_ne_nil hne
    have whole := takeWhile_append_of_stops hd (stops_nil _)
    have rest := dropWhile_append_of_stops hd (stops_nil _)
    rw [List.append_nil] at whole rest
    simp only [strict, whole, rest]
  · obtain ⟨c, cs, rfl⟩ := List.exists_cons_of_ne_nil hne
    obtain ⟨f, fs, rfl⟩ := List.exists_cons_of_ne_nil hne'
    have point : Stops Char.isDigit ('.' :: f :: fs) := stops_cons rfl _
    have digits : (f :: fs).all Char.isDigit := List.all_eq_true.mpr hf
    simp only [strict, takeWhile_append_of_stops hd point, dropWhile_append_of_stops hd point,
      digits, ↓reduceIte]

/-- A name that is not bound, with a newline and a quote behind it. -/
theorem program_answers_unbound :
    "x\n\"" ≠ traceFlag ∧ (∀ x, IsNumeral x → strict x = .ok (Decimal.read x)) ∧
    (∃ line, output ["x\n\""] = .ok (line ++ "\n") ∧ OneLine (line ++ "\n") ∧
      ∃ root : Scope, output [traceFlag, "x\n\""] = .ok (root.render 0 ++ line ++ "\n") ∧
        root.input = ['x', '\n', '"'] ∧ (root.render 0).toList.count '\n' = root.size) ∧
    ((pattern Lexeme.numeral).tryMap fun x => (strict x).map Expr.number).token.behaviour .silent 1
      .empty = (numeral Decimal.read).behaviour .silent 1 .empty := by
  have word : "x\n\"" ≠ traceFlag := by decide
  obtain ⟨-, -, -, -, answers, converts⟩ := program_answers
  obtain ⟨line, -, one, root, -, input, -, lines, shows⟩ := answers ['x', '\n', '"']
  obtain ⟨untraced, traced⟩ := shows "x\n\"" [] rfl
  exact ⟨word, fun _ => strict_eq_ok, ⟨line, untraced word, one, root, traced, input, lines⟩,
    converts strict (fun _ => strict_eq_ok) Unit [] .silent 1 .empty⟩

end Backtrack.Calculator
