import Backtrack.Parser.Basic

/-!
# Renaming handles

A parser can be moved to another scope if each of its handles has a place there. In
particular, a parser that uses no handles from outside can be used in any scope.
-/

namespace Backtrack

/-- A place in the second scope for each handle of the first one. -/
def Renaming (Γ Δ : Scopes) : Type 1 := ⦃α : Type⦄ → Handle Γ α → Handle Δ α

/-- The renaming inside of one more definition. -/
def Renaming.under {Γ Δ : Scopes} {β : Type} (r : Renaming Γ Δ) : Renaming (β :: Γ) (β :: Δ)
  | _, .here => .here
  | _, .outer h => .outer (r h)

/-- There are no handles without definitions. -/
def Renaming.ofEmpty {Γ : Scopes} : Renaming [] Γ := nofun

namespace Parser

/-- The parser with its handles renamed. -/
def rename : {Γ Δ : Scopes} → {α : Type} → Renaming Γ Δ → Parser Γ α → Parser Δ α
  | _, _, _, _, pure value => pure value
  | _, _, _, _, empty => empty
  | _, _, _, _, raise f => raise f
  | _, _, _, _, endOfText => endOfText
  | _, _, _, _, item => item
  | _, _, _, _, grapheme => grapheme
  | _, _, _, _, literal text => literal text
  | _, _, _, _, pattern p => pattern p
  | _, _, _, _, custom f => custom f
  | _, _, _, r, tryMap p f => tryMap (p.rename r) f
  | _, _, _, r, bind p next => bind (p.rename r) fun a => (next a).rename r
  | _, _, _, r, union p q => union (p.rename r) (q.rename r)
  | _, _, _, r, committed p q => committed (p.rename r) (q.rename r)
  | _, _, _, r, orElse p q => orElse (p.rename r) (q.rename r)
  | _, _, _, r, tryFilter p keep => tryFilter (p.rename r) keep
  | _, _, _, r, optional p => optional (p.rename r)
  | _, _, _, r, many p => many (p.rename r)
  | _, _, _, r, some p => some (p.rename r)
  | _, _, _, r, separatedByAtLeastOne p q => separatedByAtLeastOne (p.rename r) (q.rename r)
  | _, _, _, r, separatedBy p q => separatedBy (p.rename r) (q.rename r)
  | _, _, _, r, chain p q => chain (p.rename r) (q.rename r)
  | _, _, _, r, «then» p q => «then» (p.rename r) (q.rename r)
  | _, _, _, r, ap p q => ap (p.rename r) (q.rename r)
  | _, _, _, r, token p => token (p.rename r)
  | _, _, _, r, debug mark p => debug mark (p.rename r)
  | _, _, _, r, handle h => handle (r h)
  | _, _, _, r, define state definition body =>
    define state (definition.rename r.under) (body.rename r.under)

/-- A parser without handles, for use in any scope. -/
def anywhere {Γ : Scopes} {α : Type} (p : Parser [] α) : Parser Γ α := p.rename .ofEmpty

end Parser

end Backtrack
