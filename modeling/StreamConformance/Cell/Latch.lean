import StreamConformance.Expectation

/-!
# Latches

A latch is a gate that is open until it is closed, and stays closed.

## Main definitions

* `Latch.close` — close the gate.
* `Latch.closing` — expect the gate to be closed.
* `Latch.assertOpen` — insist that it is open.
-/

namespace StreamConformance

/-- A gate that can be closed once. -/
structure Latch where
  /-- Whether the gate is closed. -/
  isClosed : Bool
  deriving DecidableEq, Inhabited

namespace Latch

/-- An open gate. -/
def opened : Latch := ⟨false⟩

/-- Closes the gate; closing it again does nothing. -/
def close (_ : Latch) : Latch := ⟨true⟩

/-- Expects the gate to be closed. -/
def closing (timeout : Duration) (message : String) : Expectation Latch Unit where
  timeout := timeout
  ready := isClosed
  finish found l := (if found then .ok () else .error (.timeout message timeout), l)

/-- A gate is expected to be closed with success if and only if it is, and stays as it is. -/
theorem closing_eq_ok_iff {timeout : Duration} {message : String} {l l' : Latch} {u : Unit} :
    (closing timeout message).now l = (.ok u, l') ↔ l.isClosed = true ∧ l' = l := by
  cases h : l.isClosed <;> simp [Expectation.now, closing, h, eq_comm]

theorem isClosed_of_closing_error {timeout : Duration} {message : String} {l l' : Latch}
    {x : Violation} (h : (closing timeout message).now l = (.error x, l')) :
    l'.isClosed = false := by
  cases hl : l.isClosed <;> simp [Expectation.now, closing, hl] at h
  rw [← h.2, hl]

theorem closing_of_open (timeout : Duration) (message : String) {l : Latch}
    (h : l.isClosed = false) :
    (closing timeout message).now l = (.error (.timeout message timeout), l) := by
  simp [Expectation.now, closing, h]

/-- Insists that the gate is open. -/
def assertOpen (message : String) (l : Latch) : Except Violation Unit :=
  if l.isClosed then .error (.protocol message) else .ok ()

end Latch

end StreamConformance
