import Mathlib.Logic.Function.Basic
import Shuli.Runs

/-!
Two copies of one machine that run side by side. An input goes to one of the two ends; what an end knows
of the other is a relation between the two states, which has to survive a step of either.
-/

namespace Shuli

inductive End
  | left | right
  deriving DecidableEq, Repr

namespace End

def other : End → End
  | left => right
  | right => left

@[simp] theorem other_other (side : End) : side.other.other = side := by cases side <;> rfl

theorem other_ne (side : End) : side.other ≠ side := by cases side <;> decide

theorem eq_or_eq_other (side moved : End) : side = moved ∨ side = moved.other := by
  cases side <;> cases moved <;> decide

end End

variable {σ ι : Type}

def pairStep (step : σ → ι → σ) (pair : End → σ) (input : End × ι) : End → σ :=
  Function.update pair input.1 (step (pair input.1) input.2)

@[simp] theorem pairStep_self (step : σ → ι → σ) (pair : End → σ) (input : End × ι) :
    pairStep step pair input input.1 = step (pair input.1) input.2 := Function.update_self ..

@[simp] theorem pairStep_other (step : σ → ι → σ) (pair : End → σ) (input : End × ι) :
    pairStep step pair input input.1.other = pair input.1.other :=
  Function.update_of_ne (End.other_ne _) ..

theorem pairStep_keeps {step : σ → ι → σ} {R : σ → σ → Prop} {pair : End → σ} {input : End × ι}
    (own : R (step (pair input.1) input.2) (pair input.1.other))
    (peer : R (pair input.1.other) (step (pair input.1) input.2)) (side : End) :
    R (pairStep step pair input side) (pairStep step pair input side.other) := by
  rcases side.eq_or_eq_other input.1 with rfl | same
  · simpa using own
  · subst same
    simpa using peer

end Shuli
