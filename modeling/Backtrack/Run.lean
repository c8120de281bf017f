import Backtrack.Fault
import Backtrack.Text.Basic

/-!
# Runs

A run works on the state of a debugger and ends with a result, with a fault, or
because it went deeper than it was allowed to. The state is kept in all three cases.
-/

namespace Backtrack

/-- How a run ends without a result. -/
inductive Halt
  | fault (f : Fault)
  /-- A definition was used within itself more often than allowed. -/
  | tooDeep
  deriving DecidableEq, Repr

/-- Why there is no result, in one line. -/
def Halt.message : Halt → String
  | fault f => f.message
  | tooDeep => "a definition was used within itself too often"

/-- A run on a debugger's state `σ` that has a result in `α`. -/
abbrev Run (σ α : Type) := ExceptT Halt (StateM σ) α

namespace Run

variable {σ α β : Type}

/-- The outcome of a run from the given state, and the state after it. -/
def outcome (r : Run σ α) (state : σ) : Except Halt α × σ := ExceptT.run r state

def halt (h : Halt) : Run σ α := throw h

/-- The value of an attempt, or its fault. -/
def attempt : Attempt α → Run σ α
  | .ok a => pure a
  | .error f => halt (.fault f)

/-- A run that changes the state only. -/
def update (f : σ → σ) : Run σ Unit := modify f

@[simp] theorem outcome_pure (a : α) (state : σ) :
    (pure a : Run σ α).outcome state = (.ok a, state) := rfl

theorem outcome_bind (r : Run σ α) (next : α → Run σ β) (state : σ) :
    (r >>= next).outcome state =
      match r.outcome state with
      | (.ok a, state) => (next a).outcome state
      | (.error h, state) => (.error h, state) := by
  change (ExceptT.run (ExceptT.bind r next)) state = _
  simp only [ExceptT.run, ExceptT.bind, ExceptT.mk, outcome, bind, StateT.bind]
  rcases r state with ⟨_ | _, _⟩ <;> rfl

theorem outcome_bind_of_ok {r : Run σ α} {next : α → Run σ β} {state state' : σ} {a : α}
    (h : r.outcome state = (.ok a, state')) :
    (r >>= next).outcome state = (next a).outcome state' := by
  rw [outcome_bind, h]

theorem outcome_bind_of_error {r : Run σ α} {next : α → Run σ β} {state state' : σ} {e : Halt}
    (h : r.outcome state = (.error e, state')) :
    (r >>= next).outcome state = (.error e, state') := by
  rw [outcome_bind, h]

/-- A run of two parts has a result if the first part has one and the second one too. -/
theorem outcome_bind_eq_ok {r : Run σ α} {next : α → Run σ β} {state state₂ : σ} {b : β}
    (h : (r >>= next).outcome state = (.ok b, state₂)) :
    ∃ a state₁, r.outcome state = (.ok a, state₁) ∧ (next a).outcome state₁ = (.ok b, state₂) := by
  rw [outcome_bind] at h
  rcases hr : r.outcome state with ⟨e | a, state₁⟩ <;> rw [hr] at h
  · cases h
  · exact ⟨a, state₁, rfl, h⟩

end Run

/-- The ways in which a parser can read the start of a text, in order: each with its result
and the text that is left. -/
abbrev Candidates (α : Type) := List (α × Text)

end Backtrack
