import Backtrack.Parser.Combinators
import Backtrack.Parser.Renaming

/-!
# Substitution

A parser can be given a parser for each of its handles. What it does then is what it did
with the behaviours of these for the handles: `Parser.behaviour_substitute`. In particular
the handle of a definition can give way to the definition, any number of times:
`Parser.behaviour_unfolded`.
-/

namespace Backtrack

/-- A parser of the second scope for each handle of the first one. -/
def Substitution (Γ Δ : Scopes) : Type 1 := ⦃α : Type⦄ → Handle Γ α → Parser Δ α

/-- The place of each handle inside of one more definition. -/
def Renaming.weaken {Γ : Scopes} {β : Type} : Renaming Γ (β :: Γ) := fun _ h => .outer h

namespace Substitution

variable {Γ Δ : Scopes} {β : Type}

/-- The substitution inside of one more definition, whose handle stays. -/
def under (θ : Substitution Γ Δ) : Substitution (β :: Γ) (β :: Δ)
  | _, .here => .handle .here
  | _, .outer h => (θ h).rename .weaken

/-- The parser for the innermost handle. The other handles stay. -/
def fill (p : Parser Γ β) : Substitution (β :: Γ) Γ
  | _, .here => p
  | _, .outer h => .handle h

end Substitution

namespace Parser

/-- The parser with another one for each of its handles. -/
def substitute : {Γ Δ : Scopes} → {α : Type} → Substitution Γ Δ → Parser Γ α → Parser Δ α
  | _, _, _, θ, handle h => θ h
  | _, _, _, θ, define state definition body =>
    define state (definition.substitute θ.under) (body.substitute θ.under)
  | _, _, _, _, pure value => pure value
  | _, _, _, _, empty => empty
  | _, _, _, _, raise f => raise f
  | _, _, _, _, endOfText => endOfText
  | _, _, _, _, item => item
  | _, _, _, _, grapheme => grapheme
  | _, _, _, _, literal text => literal text
  | _, _, _, _, pattern p => pattern p
  | _, _, _, _, custom f => custom f
  | _, _, _, θ, tryMap p f => tryMap (p.substitute θ) f
  | _, _, _, θ, bind p next => bind (p.substitute θ) fun a => (next a).substitute θ
  | _, _, _, θ, union p q => union (p.substitute θ) (q.substitute θ)
  | _, _, _, θ, committed p q => committed (p.substitute θ) (q.substitute θ)
  | _, _, _, θ, orElse p q => orElse (p.substitute θ) (q.substitute θ)
  | _, _, _, θ, tryFilter p keep => tryFilter (p.substitute θ) keep
  | _, _, _, θ, optional p => optional (p.substitute θ)
  | _, _, _, θ, many p => many (p.substitute θ)
  | _, _, _, θ, some p => some (p.substitute θ)
  | _, _, _, θ, separatedByAtLeastOne p q =>
    separatedByAtLeastOne (p.substitute θ) (q.substitute θ)
  | _, _, _, θ, separatedBy p q => separatedBy (p.substitute θ) (q.substitute θ)
  | _, _, _, θ, chain p q => chain (p.substitute θ) (q.substitute θ)
  | _, _, _, θ, «then» p q => «then» (p.substitute θ) (q.substitute θ)
  | _, _, _, θ, ap p q => ap (p.substitute θ) (q.substitute θ)
  | _, _, _, θ, token p => token (p.substitute θ)
  | _, _, _, θ, debug mark p => debug mark (p.substitute θ)

variable {σ : Type} {d : Debugger σ} {depth : Nat}

/-- A renamed parser does what the parser does, if the handles do alike. -/
theorem behaviour_rename {Γ Δ : Scopes} {α : Type} (p : Parser Γ α) (r : Renaming Γ Δ)
    {s : Store σ Γ} {s' : Store σ Δ}
    (h : ∀ ⦃β : Type⦄ (x : Handle Γ β), (s' (r x)).behaviour = (s x).behaviour) :
    (p.rename r).behaviour d depth s' = p.behaviour d depth s := by
  induction p generalizing Δ with
  | pure | empty | raise | endOfText | item | grapheme | literal | pattern | custom => rfl
  | tryMap _ _ ih | tryFilter _ _ ih | optional _ ih | many _ ih | some _ ih | token _ ih
  | debug _ _ ih => simp only [rename, behaviour, ih r h]
  | bind _ _ ih ihn => simp only [rename, behaviour, ih r h, ihn _ r h]
  | union _ _ ih₁ ih₂ | committed _ _ ih₁ ih₂ | orElse _ _ ih₁ ih₂
  | separatedByAtLeastOne _ _ ih₁ ih₂ | separatedBy _ _ ih₁ ih₂ | chain _ _ ih₁ ih₂
  | «then» _ _ ih₁ ih₂ | ap _ _ ih₁ ih₂ => simp only [rename, behaviour, ih₁ r h, ih₂ r h]
  | handle x => exact h x
  | define state definition body ih₁ ih₂ =>
    have under {β : Type} (c : Cell σ β) ⦃γ : Type⦄ (x : Handle (β :: _) γ) :
        (s'.push c (r.under x)).behaviour = (s.push c x).behaviour := by
      cases x with
      | here => rfl
      | outer x => exact h x
    simp only [rename, behaviour, ih₁ r.under (under _), ih₂ r.under (under _)]

/-- A parser with others for its handles does what it does with the behaviours of these. -/
theorem behaviour_substitute {Γ Δ : Scopes} {α : Type} (p : Parser Γ α) (θ : Substitution Γ Δ)
    {s : Store σ Γ} {s' : Store σ Δ}
    (h : ∀ ⦃β : Type⦄ (x : Handle Γ β), (θ x).behaviour d depth s' = (s x).behaviour) :
    (p.substitute θ).behaviour d depth s' = p.behaviour d depth s := by
  induction p generalizing Δ with
  | pure | empty | raise | endOfText | item | grapheme | literal | pattern | custom => rfl
  | tryMap _ _ ih | tryFilter _ _ ih | optional _ ih | many _ ih | some _ ih | token _ ih
  | debug _ _ ih => simp only [substitute, behaviour, ih θ h]
  | bind _ _ ih ihn => simp only [substitute, behaviour, ih θ h, ihn _ θ h]
  | union _ _ ih₁ ih₂ | committed _ _ ih₁ ih₂ | orElse _ _ ih₁ ih₂
  | separatedByAtLeastOne _ _ ih₁ ih₂ | separatedBy _ _ ih₁ ih₂ | chain _ _ ih₁ ih₂
  | «then» _ _ ih₁ ih₂ | ap _ _ ih₁ ih₂ => simp only [substitute, behaviour, ih₁ θ h, ih₂ θ h]
  | handle x => exact h x
  | define state definition body ih₁ ih₂ =>
    have under {β : Type} (c : Cell σ β) ⦃γ : Type⦄ (x : Handle (β :: _) γ) :
        (θ.under x).behaviour d depth (s'.push c) = (s.push c x).behaviour := by
      cases x with
      | here => rfl
      | outer x => exact ((θ x).behaviour_rename .weaken fun _ _ => rfl).trans (h x)
    simp only [substitute, behaviour, ih₁ θ.under (under _), ih₂ θ.under (under _)]

variable {Γ : Scopes} {α β : Type}

/-- The parser with another one for its innermost handle. -/
def fill (p : Parser (β :: Γ) α) (q : Parser Γ β) : Parser Γ α := p.substitute (.fill q)

theorem behaviour_fill (p : Parser (β :: Γ) α) (q : Parser Γ β) (s : Store σ Γ) :
    (p.fill q).behaviour d depth s =
      p.behaviour d depth (s.push (.alive (q.behaviour d depth s))) := by
  apply behaviour_substitute
  intro γ x
  cases x with
  | here => rfl
  | outer x => rfl

/-- A definition with its handle replaced by the definition, and so on `k` times. The innermost
handle refers to the definition as it was made. -/
def unfolded (definition : Parser (β :: Γ) β) : Nat → Parser Γ β
  | 0 => recursive definition
  | k + 1 => definition.fill (definition.unfolded k)

/-- Each unfolding is one more use of the definition. -/
theorem behaviour_unfolded (definition : Parser (β :: Γ) β) (k : Nat) (s : Store σ Γ) :
    (definition.unfolded k).behaviour d depth s =
      unfold (fun b => definition.behaviour d depth (s.push (.alive b))) (depth + 1 + k) := by
  induction k with
  | zero => rfl
  | succ k ih => rw [unfolded, behaviour_fill, ih]; rfl

end Parser

end Backtrack
