import Backtrack.Parser.Basic

/-!
# Derivations

What a grammar means if it is read as a set of rules: a derivation says how a parser can
read the start of a text, with a choice wherever there is more than one way to go on. No
debugger takes part, and nothing bounds how often a definition is used within itself.

The rules are for the parsers that try every alternative, which are `Exhaustive`.
-/

namespace Backtrack

/-- The definitions that the handles of a scope refer to. -/
inductive Definitions : Scopes → Type 1
  | none : Definitions []
  | with {Γ : Scopes} {β : Type} (outer : Definitions Γ) (state : Lifetime)
    (definition : Parser (β :: Γ) β) : Definitions (β :: Γ)

/-- The ways in which a parser can read the start of the text, with the result and what is left. -/
inductive Derivation : {Γ : Scopes} → {α : Type} → Definitions Γ → Parser Γ α → Text → α → Text →
    Type 1
  | pure {Γ : Scopes} {α : Type} {D : Definitions Γ} {t : Text} {a : α} :
    Derivation D (.pure a) t a t
  | endOfText {Γ : Scopes} {D : Definitions Γ} {t : Text} (h : t = []) :
    Derivation D .endOfText t () t
  | item {Γ : Scopes} {D : Definitions Γ} {t rest : Text} {c : Char} (h : t = c :: rest) :
    Derivation D .item t c rest
  | grapheme {Γ : Scopes} {D : Definitions Γ} {t g rest : Text}
    (h : Grapheme.splitFirst? t = some (g, rest)) : Derivation D .grapheme t g rest
  | literal {Γ : Scopes} {D : Definitions Γ} {t text rest : Text} (h : t = text ++ rest) :
    Derivation D (.literal text) t text rest
  | pattern {Γ : Scopes} {D : Definitions Γ} {p : Pattern} {t slice rest : Text}
    (h : p.split t = some (slice, rest)) : Derivation D (.pattern p) t slice rest
  /-- One of the candidates that the function gives. -/
  | custom {Γ : Scopes} {α : Type} {D : Definitions Γ} {f : Text → Attempt (Candidates α)}
    {t rest : Text} {a : α} {cs : Candidates α} (h : f t = .ok cs) (i : Nat)
    (hi : cs[i]? = some (a, rest)) : Derivation D (.custom f) t a rest
  | tryMap {Γ : Scopes} {α β : Type} {D : Definitions Γ} {p : Parser Γ α} {f : α → Attempt β}
    {t rest : Text} {a : α} {b : β} (first : Derivation D p t a rest) (h : f a = .ok b) :
    Derivation D (.tryMap p f) t b rest
  | bind {Γ : Scopes} {α β : Type} {D : Definitions Γ} {p : Parser Γ α} {next : α → Parser Γ β}
    {t mid rest : Text} {a : α} {b : β} (first : Derivation D p t a mid)
    (second : Derivation D (next a) mid b rest) : Derivation D (.bind p next) t b rest
  | left {Γ : Scopes} {α : Type} {D : Definitions Γ} {p q : Parser Γ α} {t rest : Text} {a : α}
    (first : Derivation D p t a rest) : Derivation D (.union p q) t a rest
  | right {Γ : Scopes} {α : Type} {D : Definitions Γ} {p q : Parser Γ α} {t rest : Text} {a : α}
    (second : Derivation D q t a rest) : Derivation D (.union p q) t a rest
  | tryFilter {Γ : Scopes} {α : Type} {D : Definitions Γ} {p : Parser Γ α}
    {keep : α → Attempt Bool} {t rest : Text} {a : α} (first : Derivation D p t a rest)
    (h : keep a = .ok true) : Derivation D (.tryFilter p keep) t a rest
  | present {Γ : Scopes} {α : Type} {D : Definitions Γ} {p : Parser Γ α} {t rest : Text} {a : α}
    (first : Derivation D p t a rest) : Derivation D (.optional p) t (some a) rest
  | absent {Γ : Scopes} {α : Type} {D : Definitions Γ} {p : Parser Γ α} {t : Text} :
    Derivation D (.optional p) t none t
  | then {Γ : Scopes} {α β : Type} {D : Definitions Γ} {p : Parser Γ α} {q : Parser Γ β}
    {t mid rest : Text} {a : α} {b : β} (first : Derivation D p t a mid)
    (second : Derivation D q mid b rest) : Derivation D (.then p q) t (a, b) rest
  | ap {Γ : Scopes} {α β : Type} {D : Definitions Γ} {p : Parser Γ (α → Attempt β)}
    {q : Parser Γ α} {t mid rest : Text} {f : α → Attempt β} {a : α} {b : β}
    (first : Derivation D p t f mid) (second : Derivation D q mid a rest) (h : f a = .ok b) :
    Derivation D (.ap p q) t b rest
  | token {Γ : Scopes} {α : Type} {D : Definitions Γ} {p : Parser Γ α} {t mid skipped rest : Text}
    {a : α} (first : Derivation D p t a mid) (h : Pattern.blanks.split mid = some (skipped, rest)) :
    Derivation D (.token p) t a rest
  | debug {Γ : Scopes} {α : Type} {D : Definitions Γ} {p : Parser Γ α} {mark : Mark}
    {t rest : Text} {a : α} (inner : Derivation D p t a rest) :
    Derivation D (.debug mark p) t a rest
  | here {Γ : Scopes} {β : Type} {D : Definitions Γ} {definition : Parser (β :: Γ) β}
    {t rest : Text} {b : β} (inner : Derivation (D.with .alive definition) definition t b rest) :
    Derivation (D.with .alive definition) (.handle .here) t b rest
  | outer {Γ : Scopes} {α β : Type} {D : Definitions Γ} {state : Lifetime}
    {definition : Parser (β :: Γ) β} {h : Handle Γ α} {t rest : Text} {a : α}
    (inner : Derivation D (.handle h) t a rest) :
    Derivation (D.with state definition) (.handle (.outer h)) t a rest
  | define {Γ : Scopes} {α β : Type} {D : Definitions Γ} {state : Lifetime}
    {definition : Parser (β :: Γ) β} {body : Parser (β :: Γ) α} {t rest : Text} {a : α}
    (inner : Derivation (D.with state definition) body t a rest) :
    Derivation D (.define state definition body) t a rest

/-- The choices that a derivation makes, in order: the first alternative of a union or the presence
of an optional part is 0, the other way is 1, and a function's candidates are counted from 0. -/
def Derivation.choices : {Γ : Scopes} → {α : Type} → {D : Definitions Γ} → {p : Parser Γ α} →
    {t : Text} → {a : α} → {rest : Text} → Derivation D p t a rest → List Nat
  | _, _, _, _, _, _, _, pure | _, _, _, _, _, _, _, endOfText _ | _, _, _, _, _, _, _, item _ => []
  | _, _, _, _, _, _, _, grapheme _ | _, _, _, _, _, _, _, literal _ => []
  | _, _, _, _, _, _, _, pattern _ => []
  | _, _, _, _, _, _, _, custom _ i _ => [i]
  | _, _, _, _, _, _, _, left first => 0 :: first.choices
  | _, _, _, _, _, _, _, right second => 1 :: second.choices
  | _, _, _, _, _, _, _, present first => 0 :: first.choices
  | _, _, _, _, _, _, _, absent => [1]
  | _, _, _, _, _, _, _, bind first second => first.choices ++ second.choices
  | _, _, _, _, _, _, _, .then first second => first.choices ++ second.choices
  | _, _, _, _, _, _, _, ap first second _ => first.choices ++ second.choices
  | _, _, _, _, _, _, _, tryMap first _ | _, _, _, _, _, _, _, tryFilter first _ => first.choices
  | _, _, _, _, _, _, _, token first _ => first.choices
  | _, _, _, _, _, _, _, debug inner | _, _, _, _, _, _, _, here inner => inner.choices
  | _, _, _, _, _, _, _, outer inner | _, _, _, _, _, _, _, define inner => inner.choices

/-- A derivation with its result and what it leaves. -/
structure Reading {Γ : Scopes} {α : Type} (D : Definitions Γ) (p : Parser Γ α) (t : Text) where
  value : α
  rest : Text
  derivation : Derivation D p t value rest

namespace Reading

variable {Γ : Scopes} {α : Type} {D : Definitions Γ} {p : Parser Γ α} {t : Text}

def candidate (x : Reading D p t) : α × Text := (x.value, x.rest)

def choices (x : Reading D p t) : List Nat := x.derivation.choices

/-- How a reading of the parser is made, by the form of the parser. -/
def Made : {Γ : Scopes} → {α : Type} → {D : Definitions Γ} → (p : Parser Γ α) → {t : Text} →
    Reading D p t → Prop
  | _, _, _, .pure a, t, x => x = ⟨a, t, .pure⟩
  | _, _, _, .endOfText, t, x => ∃ h, x = ⟨(), t, .endOfText h⟩
  | _, _, _, .item, _, x => ∃ c rest h, x = ⟨c, rest, .item h⟩
  | _, _, _, .grapheme, _, x => ∃ g rest h, x = ⟨g, rest, .grapheme h⟩
  | _, _, _, .literal text, _, x => ∃ rest h, x = ⟨text, rest, .literal h⟩
  | _, _, _, .pattern _, _, x => ∃ slice rest h, x = ⟨slice, rest, .pattern h⟩
  | _, _, _, .custom f, t, x =>
    ∃ (a : _) (rest : Text) (cs : _) (h : f t = .ok cs) (i : Nat) (hi : cs[i]? = some (a, rest)),
      x = ⟨a, rest, .custom h i hi⟩
  | _, _, D, .tryMap p f, t, x =>
    ∃ (y : Reading D p t) (b : _) (h : f y.value = .ok b), x = ⟨b, y.rest, .tryMap y.derivation h⟩
  | _, _, D, .bind p next, t, x =>
    ∃ (y : Reading D p t) (z : Reading D (next y.value) y.rest),
      x = ⟨z.value, z.rest, .bind y.derivation z.derivation⟩
  | _, _, D, .union p q, t, x =>
    (∃ y : Reading D p t, x = ⟨y.value, y.rest, .left y.derivation⟩) ∨
      ∃ y : Reading D q t, x = ⟨y.value, y.rest, .right y.derivation⟩
  | _, _, D, .tryFilter p _, t, x =>
    ∃ (y : Reading D p t) (h : _), x = ⟨y.value, y.rest, .tryFilter y.derivation h⟩
  | _, _, D, .optional p, t, x =>
    (∃ y : Reading D p t, x = ⟨some y.value, y.rest, .present y.derivation⟩) ∨
      x = ⟨none, t, .absent⟩
  | _, _, D, .then p q, t, x =>
    ∃ (y : Reading D p t) (z : Reading D q y.rest),
      x = ⟨(y.value, z.value), z.rest, .then y.derivation z.derivation⟩
  | _, _, D, .ap p q, t, x =>
    ∃ (y : Reading D p t) (z : Reading D q y.rest) (b : _) (h : y.value z.value = .ok b),
      x = ⟨b, z.rest, .ap y.derivation z.derivation h⟩
  | _, _, D, .token p, t, x =>
    ∃ (y : Reading D p t) (skipped rest : Text)
      (h : Pattern.blanks.split y.rest = some (skipped, rest)),
        x = ⟨y.value, rest, .token y.derivation h⟩
  | _, _, D, .debug _ p, t, x => ∃ y : Reading D p t, x = ⟨y.value, y.rest, .debug y.derivation⟩
  | _, _, .with D .alive definition, .handle .here, t, x =>
    ∃ y : Reading (D.with .alive definition) definition t, x = ⟨y.value, y.rest, .here y.derivation⟩
  | _, _, .with D _ _, .handle (.outer h), t, x =>
    ∃ y : Reading D (.handle h) t, x = ⟨y.value, y.rest, .outer y.derivation⟩
  | _, _, D, .define state definition body, t, x =>
    ∃ y : Reading (D.with state definition) body t, x = ⟨y.value, y.rest, .define y.derivation⟩
  | _, _, _, _, _, _ => False

theorem made (x : Reading D p t) : x.Made := by
  obtain ⟨a, rest, d⟩ := x
  cases d with
  | pure => exact Eq.refl _
  | endOfText h => exact ⟨h, rfl⟩
  | item h | grapheme h | pattern h => exact ⟨_, _, h, rfl⟩
  | literal h => exact ⟨_, h, rfl⟩
  | custom h i hi => exact ⟨_, _, _, h, i, hi, rfl⟩
  | tryMap first h => exact ⟨⟨_, _, first⟩, _, h, rfl⟩
  | bind first second => exact ⟨⟨_, _, first⟩, ⟨_, _, second⟩, rfl⟩
  | left first => exact Or.inl ⟨⟨_, _, first⟩, rfl⟩
  | right second => exact Or.inr ⟨⟨_, _, second⟩, rfl⟩
  | tryFilter first h => exact ⟨⟨_, _, first⟩, h, rfl⟩
  | present first => exact Or.inl ⟨⟨_, _, first⟩, rfl⟩
  | absent => exact Or.inr rfl
  | «then» first second => exact ⟨⟨_, _, first⟩, ⟨_, _, second⟩, rfl⟩
  | ap first second h => exact ⟨⟨_, _, first⟩, ⟨_, _, second⟩, _, h, rfl⟩
  | token first h => exact ⟨⟨_, _, first⟩, _, _, h, rfl⟩
  | debug inner | here inner | outer inner | define inner => exact ⟨⟨_, _, inner⟩, rfl⟩

end Reading

end Backtrack
