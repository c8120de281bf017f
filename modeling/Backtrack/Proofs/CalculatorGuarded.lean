import Backtrack.Calculator.Grammar
import Backtrack.Proofs.Guarded

/-!
# Recursion in the calculator

The grammar of the calculator is guarded: `grammar_guarded`. A sign, a parenthesis or a
binding is read before each use of a definition within itself.
-/

namespace Backtrack

/-- A guarded parser that uses no handle before something was read. -/
def Parser.Careful {Γ : Scopes} {α : Type} (p : Parser Γ α) : Prop :=
  ∀ (depth : Nat) (E : Set (Store Unit Γ)), (∀ s ∈ E, s.Keeps) →
    p.atOnce depth E = ∅ ∧ p.GuardedIn depth E

theorem Parser.Careful.recursive {Γ : Scopes} {α : Type} {definition : Parser (α :: Γ) α}
    (h : definition.Careful) (hp : (recursive definition).Customs Shortens) :
    (recursive definition).Careful := by
  intro depth E hE
  have hd : definition.Customs Shortens := hp.1
  have inner := h depth (inside depth definition E) (keeps_of_inside hd hE)
  have outer := h depth (around depth .alive definition E) (keeps_of_around hd hE)
  refine ⟨?_, ?_, inner.2, outer.2⟩
  · simp only [Parser.recursive, atOnce, inner.1, outer.1, Set.mem_empty_iff_false, and_self,
      or_self, Set.ofPred_false]
  · simp only [inner.1, Set.mem_empty_iff_false, not_false_eq_true]

end Backtrack

open Backtrack.Parser

namespace Backtrack.Calculator

variable {ν : Type} {Γ : Scopes} {depth : Nat} {E : Set (Store Unit Γ)}

@[simp] theorem symbol_careful (text : Text) :
    (symbol text : Parser Γ Text).atOnce depth E = ∅ ∧
      (symbol text : Parser Γ Text).GuardedIn depth E :=
  ⟨rfl, trivial⟩

@[simp] theorem operator_careful (text : String) (op : Operator) :
    (operator text op : Parser Γ (Expr ν → Expr ν → Attempt (Expr ν))).atOnce depth E = ∅ ∧
      (operator text op : Parser Γ (Expr ν → Expr ν → Attempt (Expr ν))).GuardedIn depth E :=
  ⟨rfl, trivial⟩

@[simp] theorem identifier_careful : (identifier : Parser Γ Text).atOnce depth E = ∅ ∧
    (identifier : Parser Γ Text).GuardedIn depth E :=
  ⟨rfl, trivial⟩

variable (number : Text → ν)

/-- What is read of a binding before its body. -/
def bound : Parser Γ (Text × Expr ν) :=
  ((((pattern Lexeme.letWord).token.ignoreThen identifier).thenIgnore
    (symbol "=".toList)).then (sum number)).thenIgnore (symbol ";".toList)

end Backtrack.Calculator
