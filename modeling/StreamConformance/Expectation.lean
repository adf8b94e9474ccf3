import StreamConformance.Violation

/-!
# Bounded waits

A wait blocks until a predicate holds of a shared state or a deadline passes. While it blocks, other
threads change the state; the waiter sees the state at the start, at every wake-up, and once more at
the deadline. An *expectation* is a wait together with what is done with the state afterwards.

## Main definitions

* `Interference` — what other threads do to the state while a wait blocks.
* `Wait.run` — whether a wait is satisfied, and the state it leaves.
* `Expectation` — a wait and what follows it; `Expectation.now` is the expectation while nothing
  else happens, `Expectation.during` the expectation under interference.

## Main results

* `Wait.satisfied_run` — what a wait finds is so in the state at its end.
-/

namespace StreamConformance

/-- What other threads do to a state while a wait on it blocks: the changes before each wake-up, in
order, whether or not a notification caused it, and the changes after the last wake-up and before
the deadline. -/
structure Interference (σ : Type) where
  wakeups : List (σ → σ)
  deadline : σ → σ

/-- Nothing happens until the deadline. -/
def Interference.quiet {σ : Type} : Interference σ := ⟨[], id⟩

/-- How a wait ends. -/
structure Wait (σ : Type) where
  /-- Whether the predicate was found to hold. -/
  satisfied : Bool
  /-- The state at the end of the wait. -/
  state : σ
  /-- The number of wake-ups after which the wait ended. -/
  wakeups : Nat

namespace Wait

variable {σ : Type}

/-- Waits until `ready` holds. The predicate is tested at the start, at each wake-up, and for the
last time when the deadline has passed. -/
def run (ready : σ → Bool) (s : σ) : List (σ → σ) → (σ → σ) → Wait σ
  | [], deadline =>
    if ready s then ⟨true, s, 0⟩ else ⟨ready (deadline s), deadline s, 0⟩
  | f :: rest, deadline =>
    if ready s then ⟨true, s, 0⟩
    else
      let w := run ready (f s) rest deadline
      ⟨w.satisfied, w.state, w.wakeups + 1⟩

/-- A wait is satisfied if and only if its predicate holds in the state at its end. -/
theorem satisfied_run (ready : σ → Bool) (s : σ) (wakeups : List (σ → σ)) (deadline : σ → σ) :
    (run ready s wakeups deadline).satisfied = ready (run ready s wakeups deadline).state := by
  induction wakeups generalizing s with
  | nil =>
    rw [run]
    split
    next hready => exact hready.symm
    next => rfl
  | cons f wakeups ih =>
    rw [run]
    split
    next hready => exact hready.symm
    next => exact ih (f s)

end Wait

/-- A wait on a state of type `σ`, and what is done with the state afterwards. -/
structure Expectation (σ ρ : Type) where
  /-- How long is waited at most. -/
  timeout : Duration
  /-- What is waited for. -/
  ready : σ → Bool
  /-- What follows, given whether the wait was satisfied. -/
  finish : Bool → σ → Except Violation ρ × σ

namespace Expectation

variable {σ τ ρ : Type}

/-- The expectation on a state that nothing else changes. -/
def now (e : Expectation σ ρ) (s : σ) : Except Violation ρ × σ := e.finish (e.ready s) s

/-- The expectation while other threads change the state. -/
def during (e : Expectation σ ρ) (i : Interference σ) (s : σ) : Except Violation ρ × σ :=
  let w := Wait.run e.ready s i.wakeups i.deadline
  e.finish w.satisfied w.state

/-- An expectation on a part of a larger state. -/
def onPart (get : τ → σ) (set : τ → σ → τ) (e : Expectation σ ρ) : Expectation τ ρ where
  timeout := e.timeout
  ready t := e.ready (get t)
  finish found t :=
    let r := e.finish found (get t)
    (r.1, set t r.2)

/-- The expectation with another verdict, which may depend on the state that the expectation
leaves. -/
def judge {ρ' : Type} (e : Expectation σ ρ)
    (f : σ → Except Violation ρ → Except Violation ρ') : Expectation σ ρ' where
  timeout := e.timeout
  ready := e.ready
  finish found s :=
    let r := e.finish found s
    (f r.2 r.1, r.2)

/-- The time that the expectation takes on a state that nothing else changes. -/
def cost (e : Expectation σ ρ) (s : σ) : Duration := if e.ready s then .zero else e.timeout

/-- Repeats a step that yields a value, `n` times or until the first failure. -/
def collect (step : σ → Except Violation ρ × σ) : Nat → σ → Except Violation (List ρ) × σ
  | 0, s => (.ok [], s)
  | n + 1, s =>
    match step s with
    | (.error v, s) => (.error v, s)
    | (.ok a, s) =>
      match collect step n s with
      | (.error v, s) => (.error v, s)
      | (.ok rest, s) => (.ok (a :: rest), s)

theorem now_onPart (get : τ → σ) (set : τ → σ → τ) (e : Expectation σ ρ) (t : τ) :
    (e.onPart get set).now t = ((e.now (get t)).1, set t (e.now (get t)).2) := rfl

theorem now_judge {ρ' : Type} (e : Expectation σ ρ)
    (f : σ → Except Violation ρ → Except Violation ρ') (s : σ) :
    (e.judge f).now s = (f (e.now s).2 (e.now s).1, (e.now s).2) := rfl

theorem during_quiet (e : Expectation σ ρ) (s : σ) : e.during .quiet s = e.now s := by
  simp only [during, now, Interference.quiet, Wait.run, id]
  split <;> simp_all

end Expectation

end StreamConformance
