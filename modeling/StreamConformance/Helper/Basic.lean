import StreamConformance.Panic
import StreamConformance.StreamError

/-!
# Helper publishers

A helper publisher supplies elements to the one subscriber of the harness that pulls them. It is a
machine: subscribing, requesting and cancelling make it signal at once, and then it returns or
panics. What it does after it has offered a subscription may depend on whether the offer was kept,
since a subscriber that does not keep it cancels it on the spot. A cancellation always returns.

## Main definitions

* `Emission` — what a helper does in one call.
* `Helper` — the machine.
-/

namespace StreamConformance

/-- What a helper with states of type `η` does in one call; the panics that may end it are of
type `π`. -/
inductive Emission (α η π : Type) where
  /-- Returns and leaves a state. -/
  | done (state : η)
  /-- Panics and leaves a state. -/
  | panic (p : π) (state : η)
  | next (a : α) (rest : Emission α η π)
  | error (e : StreamError) (rest : Emission α η π)
  | complete (rest : Emission α η π)
  /-- Offers the subscription with this number, and goes on depending on whether it is kept. -/
  | offer (subscription : Nat) (rest : (isKept : Bool) → Emission α η π)
  /-- Records a violation of its own in the log. -/
  | record (v : Violation) (rest : Emission α η π)

namespace Emission

variable {α η π : Type}

/-- Signals elements before the rest. -/
def nexts (elements : List α) (rest : Emission α η π) : Emission α η π :=
  elements.foldr .next rest

end Emission

/-- A publisher of elements of type `α` for one subscriber, with states of type `η`. -/
structure Helper (α η : Type) where
  /-- The state of a fresh helper. -/
  start : η
  /-- The subscriber subscribes, perhaps not for the first time. -/
  subscribe : η → Emission α η Panic
  /-- The subscriber requests on the subscription with this number. -/
  request : η → Nat → UInt64 → Emission α η Panic
  /-- The subscriber cancels the subscription with this number. -/
  cancel : η → Nat → Emission α η Empty

end StreamConformance
