import Dfis.Base.Machine

/-! Ranks of runs: a part of the state that every change brings to a lower rank
changes only so many times, whatever else the run does. -/

namespace Dfis.Base

namespace Machine

variable {S I O V : Type} [DecidableEq V]

/-- How many steps of a run change this part of the state. -/
def changes (machine : Machine S I O) (view : S → V) (state : S) : List I → Nat
  | [] => 0
  | input :: inputs =>
    (if view (machine state input).1 = view state then 0 else 1) +
      changes machine view (machine state input).1 inputs

/-- Its rank counts the changes that are left. -/
theorem changes_add_rank {P : S → Prop} (machine : Machine S I O) (view : S → V) (rank : V → Nat)
    (keeps : ∀ state input, P state → P (machine state input).1)
    (falls : ∀ state input, P state → view (machine state input).1 ≠ view state →
      rank (view (machine state input).1) < rank (view state))
    {state : S} (start : P state) (inputs : List I) :
    changes machine view state inputs + rank (view (after machine state inputs)) ≤
      rank (view state) := by
  induction inputs generalizing state with
  | nil => simp [changes, after]
  | cons input inputs ih =>
    have rest := ih (keeps state input start)
    have step : rank (view (machine state input).1) +
        (if view (machine state input).1 = view state then 0 else 1) ≤ rank (view state) := by
      split
      · rename_i same
        exact same ▸ Nat.le_refl _
      · rename_i changed
        exact falls state input start changed
    simp only [changes, after]
    omega

end Machine

end Dfis.Base
