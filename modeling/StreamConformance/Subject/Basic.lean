import StreamConformance.Panic
import StreamConformance.StreamError

/-!
# Subscribers under test

A subscriber under test is a machine. It is stimulated by the signals of a publisher and by its own
puppet, and it reacts at once by a finite sequence of calls, after which it returns or panics. It
knows the subscriptions that it has been offered by their numbers, in the order of the offers, and
its puppets by numbers that it chooses itself.

## Main definitions

* `Stimulus` — what a subject receives.
* `Call`, `Lane` — what it does in return, and on which thread.
* `Reaction`, `Subject` — the whole answer to a stimulus, and the machine.
-/

namespace StreamConformance

/-- The thread on which a subject makes a call. -/
inductive Lane where
  /-- The thread that delivers the signal. -/
  | delivering
  /-- A thread that the subject starts and joins. -/
  | other
  deriving DecidableEq, Inhabited

/-- What a subject receives. -/
inductive Stimulus (α : Type) where
  /-- The offer of a subscription, with its number. -/
  | onSubscribe (offer : Nat)
  | onNext (a : α)
  | onError (e : StreamError)
  | onComplete
  /-- The puppet is told to request elements. -/
  | triggerRequest (puppet : Nat) (n : UInt64)
  /-- The puppet is told to cancel. -/
  | signalCancel (puppet : Nat)
  deriving DecidableEq

/-- What a subject does. -/
inductive Call (α : Type) where
  /-- Requests `n` elements on an offered subscription. -/
  | request (offer : Nat) (n : UInt64)
  /-- Cancels an offered subscription. -/
  | cancel (offer : Nat)
  /-- Registers a puppet with the probe. -/
  | registerPuppet (puppet : Nat)
  /-- Reports an element to the probe. -/
  | registerNext (a : α)
  /-- Reports a completion to the probe. -/
  | registerComplete
  /-- Reports an error to the probe. -/
  | registerError (e : StreamError)
  /-- Records a violation of its own in the log. -/
  | record (v : Violation)
  deriving DecidableEq

/-- The answer of a subject to a stimulus: its calls, in order, how the callback ends, and the state
that is left. -/
structure Reaction (α σ : Type) where
  calls : List (Lane × Call α)
  panic : Option Panic
  state : σ

/-- A subscriber of elements of type `α`, with states of type `σ`. -/
structure Subject (α σ : Type) where
  /-- The name of the subscriber in messages. -/
  name : String
  /-- The state of a fresh subscriber. -/
  start : σ
  react : σ → Stimulus α → Reaction α σ

end StreamConformance
