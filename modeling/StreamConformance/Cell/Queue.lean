import StreamConformance.Cell.Fifo
import StreamConformance.Element
import StreamConformance.Expectation
import StreamConformance.Refusal

/-!
# Bounded queues

A queue holds a bounded number of elements and ends, at most once, with an end marker. The marker is
never consumed: once it is at the front every further reading sees it.

## Main definitions

* `Queue.add`, `Queue.complete` — append an element, append the marker.
* `Queue.next`, `Queue.completion`, `Queue.silence` — expect an element, the marker, or nothing at
  all.
* `Queue.nextN` — take several elements, stopping at the first failure.
* `Queue.entries` — what is queued, front first, the marker included.
* `Queue.elements` — the elements queued, which is how the content is seen from outside.
-/

namespace StreamConformance

/-- What stands in a queue. -/
inductive Queued (α : Type) where
  | element (a : α)
  | endMarker
  deriving DecidableEq

namespace Queued

variable {α : Type}

/-- The element that stands here, if any. -/
def element? : Queued α → Option α
  | .element a => some a
  | .endMarker => none

end Queued

/-- A bounded queue of elements followed by at most one end marker. -/
structure Queue (α : Type) where
  capacity : Nat
  /-- What is queued. -/
  line : Fifo (Queued α)
  /-- Whether the end marker has been appended. -/
  isCompleted : Bool

namespace Queue

variable {α : Type}

/-- An empty queue. -/
def empty (capacity : Nat) : Queue α := ⟨capacity, .empty, false⟩

/-- The largest number of bytes that storage can be reserved for, `2 ^ 63 - 1`. -/
def maxBytes : Nat := 9223372036854775807

/-- Whether storage for a queue of `capacity` elements can be reserved. -/
def fits (α : Type) [Element α] (capacity : Nat) : Bool :=
  capacity * Element.placeBytes α ≤ maxBytes

/-- What is queued, front first. -/
def entries (q : Queue α) : List (Queued α) := q.line.toList

/-- The queued elements, front first. -/
def elements (q : Queue α) : List α := q.entries.filterMap Queued.element?

/-- The number of queued elements. -/
def length (q : Queue α) : Nat := q.elements.length

/-- Appends an element. A completed queue refuses, and so does a full one. -/
def add (a : α) (q : Queue α) : Except Refusal Unit × Queue α :=
  if q.isCompleted then (.error .alreadyCompleted, q)
  else if q.line.size ≥ q.capacity then (.error (.overflow q.capacity), q)
  else (.ok (), { q with line := q.line.push (.element a) })

/-- Appends the end marker, for which there is always room. A completed queue refuses. -/
def complete (q : Queue α) : Except Refusal Unit × Queue α :=
  if q.isCompleted then (.error .alreadyCompleted, q)
  else (.ok (), { q with line := q.line.push .endMarker, isCompleted := true })

/-- Expects an element and takes it. -/
def next (timeout : Duration) (message : String) : Expectation (Queue α) α where
  timeout := timeout
  ready q := !q.line.isEmpty
  finish found q :=
    if !found then (.error (.timeout message timeout), q)
    else
      match q.line.pop? with
      | some (.endMarker, _) =>
        (.error (.mismatch ("Expected element but got end-of-stream (" ++ message ++ ")")), q)
      | some (.element a, rest) => (.ok a, { q with line := rest })
      | none => (.error (.timeout message timeout), q)

/-- Expects `n` elements, waiting for each, and stops at the first failure. -/
def nextN (timeout : Duration) (message : String) (n : Nat) (q : Queue α) :
    Except Violation (List α) × Queue α :=
  Expectation.collect (next timeout message).now n q

/-- Expects the end marker. An element in its place is taken and reported. -/
def completion [Element α] (timeout : Duration) (message : String) :
    Expectation (Queue α) Unit where
  timeout := timeout
  ready q := !q.line.isEmpty
  finish found q :=
    if !found then (.error (.timeout message timeout), q)
    else
      match q.line.pop? with
      | some (.endMarker, _) => (.ok (), q)
      | some (.element a, rest) =>
        (.error (.mismatch ("Expected end-of-stream but got element [" ++ Element.debugText a ++
          "] (" ++ message ++ ")")), { q with line := rest })
      | none => (.error (.timeout message timeout), q)

/-- Expects that nothing arrives. The first element, at whatever place it stands, is taken and
reported. -/
def silence [Element α] (within : Duration) (message : String) :
    Expectation (Queue α) Unit where
  timeout := within
  ready q := q.entries.any (·.element?.isSome) || q.isCompleted
  finish found q :=
    if !found then (.ok (), q)
    else
      match q.line.extract? Queued.element? with
      | some (a, rest) =>
        (.error (.oversupply (message ++ ": expected no element but got [" ++
          Element.debugText a ++ "]")), { q with line := rest })
      | none =>
        (.error (.mismatch (message ++ ": expected no element but got onComplete")), q)

/-! ### The entries -/

@[simp] theorem entries_empty (capacity : Nat) : (empty capacity : Queue α).entries = [] := rfl

theorem entries_add {a : α} {q r : Queue α} (h : q.add a = (.ok (), r)) :
    r.entries = q.entries ++ [.element a] := by
  unfold add at h
  grind [entries, Fifo.toList_push]

theorem entries_complete {q r : Queue α} (h : q.complete = (.ok (), r)) :
    r.entries = q.entries ++ [.endMarker] := by
  unfold complete at h
  grind [entries, Fifo.toList_push]

end Queue

end StreamConformance
