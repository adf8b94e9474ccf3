import StreamConformance.Expectation
import StreamConformance.Refusal

/-!
# Promises

A promise is a cell that takes one value; the first value stays.

## Main definitions

* `Promise.complete` — offer a value.
* `Promise.value` — the value, if there is one.
* `Promise.completion` — expect a value.
-/

namespace StreamConformance

/-- A cell that takes one value. -/
structure Promise (α : Type) where
  /-- The value, once there is one. -/
  value : Option α
  deriving DecidableEq

namespace Promise

variable {α : Type}

/-- A promise without a value. -/
def empty : Promise α := ⟨none⟩

/-- A promise that has its value. -/
def completed (a : α) : Promise α := ⟨some a⟩

/-- Whether the promise has its value. -/
def isCompleted (p : Promise α) : Bool := p.value.isSome

/-- Offers a value; a promise that has one refuses. -/
def complete (a : α) (p : Promise α) : Except Refusal Unit × Promise α :=
  if p.isCompleted then (.error .alreadyCompleted, p) else (.ok (), completed a)

/-- Expects the value. -/
def completion (timeout : Duration) (message : String) : Expectation (Promise α) α where
  timeout := timeout
  ready := isCompleted
  finish found p :=
    match found, p.value with
    | true, some a => (.ok a, p)
    | _, _ => (.error (.timeout message timeout), p)

end Promise

end StreamConformance
