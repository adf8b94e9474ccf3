import StreamConformance.Panic
import StreamConformance.Violation

/-!
# Signals and their marks

A subscriber receives signals of four kinds. While the harness delivers one, the thread carries a
mark of its kind; a *sentinel* subscription reads the marks when it is called, and so notices calls
made from within a forbidden signal on the same thread.

## Main definitions

* `Signal` — the kinds of signals.
* `Marks` — the marks of one thread, the innermost first.
* `Scopes`, `Scopes.deliver` — scopes in states of any kind, and a delivery: what happens inside it
  sees the mark, what follows does not.
* `Sentinel` — a subscription that must not be called from within one kind of signal.
-/

namespace StreamConformance

/-- The kinds of signals that a subscriber receives. -/
inductive Signal where
  | onSubscribe
  | onNext
  | onError
  | onComplete
  deriving DecidableEq, Inhabited

namespace Signal

/-- All kinds of signals. -/
def all : List Signal := [onSubscribe, onNext, onError, onComplete]

/-- The name of a kind of signal in messages. -/
def name : Signal → String
  | onSubscribe => "onSubscribe"
  | onNext => "onNext"
  | onError => "onError"
  | onComplete => "onComplete"

/-- The kind of signal as a value. -/
def debugText : Signal → String
  | onSubscribe => "OnSubscribe"
  | onNext => "OnNext"
  | onError => "OnError"
  | onComplete => "OnComplete"

end Signal

/-- The marks of one thread, the innermost first. -/
abbrev Marks := List Signal

namespace Marks

/-- Enters a scope. -/
def enter (s : Signal) (m : Marks) : Marks := s :: m

/-- Leaves a scope: the innermost mark of its kind goes. -/
def leave (s : Signal) (m : Marks) : Marks := m.erase s

/-- Whether a signal of this kind is being delivered on the thread. -/
def isActive (s : Signal) (m : Marks) : Bool := m.contains s

/-- The kinds of signals being delivered on the thread. -/
def active (m : Marks) : List Signal := Signal.all.filter (isActive · m)

@[simp] theorem leave_enter (s : Signal) (m : Marks) : leave s (enter s m) = m := by
  simp [leave, enter]

end Marks

/-! ### Scopes -/

/-- How the scope of a signal is entered and left in states of type `τ`. -/
structure Scopes (τ : Type) where
  enter : Signal → τ → τ
  leave : Signal → τ → τ

namespace Scopes

variable {τ ρ : Type}

/-- Scopes in states that have the marks of a thread among other things. -/
def ofMarks (onMarks : (Marks → Marks) → τ → τ) : Scopes τ where
  enter s := onMarks (Marks.enter s)
  leave s := onMarks (Marks.leave s)

/-- Runs `body` within the scope of a signal, which is left also when `body` ends by a panic. -/
def deliver (c : Scopes τ) (s : Signal) (body : τ → Except Panic ρ × τ) (t : τ) :
    Except Panic ρ × τ :=
  let r := body (c.enter s t)
  (r.1, c.leave s r.2)

end Scopes

/-- A subscription that must not be called from within signals of one kind. -/
structure Sentinel where
  forbidden : Signal
  deriving DecidableEq, Inhabited

namespace Sentinel

/-- What a request noticed on a thread with the given marks amounts to. -/
def request (s : Sentinel) (m : Marks) : Option Violation :=
  if m.isActive s.forbidden then
    some (.illegalReentrancy ("Subscription::request MUST NOT be called from " ++
      s.forbidden.name ++ " (Rule 2.3)"))
  else none

/-- What a cancellation noticed on a thread with the given marks amounts to. -/
def cancel (s : Sentinel) (m : Marks) : Option Violation :=
  if m.isActive s.forbidden then
    some (.illegalReentrancy ("Subscriber::" ++ s.forbidden.name ++
      " MUST NOT call Subscription::cancel (Rule 2.3)"))
  else none

end Sentinel

end StreamConformance
