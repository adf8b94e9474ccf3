/-!
# Refused writes

Why a write into a cell is refused: a cell that takes one value already has it, or a bounded queue
is full.
-/

namespace StreamConformance

/-- Why a write into a cell is refused. -/
inductive Refusal where
  /-- The value or the end marker is already there. -/
  | alreadyCompleted
  /-- The queue holds as many elements as it may. -/
  | overflow (capacity : Nat)
  deriving DecidableEq, Inhabited

namespace Refusal

/-- The refusal as a sentence. -/
def message : Refusal → String
  | alreadyCompleted => "already completed"
  | overflow capacity => "capacity of " ++ toString capacity ++ " exceeded"

/-- The refusal as a value. -/
def debugText : Refusal → String
  | alreadyCompleted => "AlreadyCompleted"
  | overflow capacity => "Overflow(" ++ toString capacity ++ ")"

end Refusal

end StreamConformance
