import StreamConformance.Cell.Promise
import StreamConformance.Cell.Queue
import StreamConformance.Probe.Blackbox
import StreamConformance.StreamError

/-!
# The manual subscriber

A subscriber that requests only what a test asks for. It keeps the first subscription that it is
offered and refuses every other one. Subscriptions are known by identities of a type `ι`.

## Main definitions

* `ManualSubscriber.onSubscribe`, `onNext`, `onError`, `onComplete` — the signals that it receives.
* `ManualSubscriber.expectSubscription`, `expectElement`, `expectNone`, `expectCompletion`,
  `expectError` — what can be asserted of them.
-/

namespace StreamConformance

/-- The record of a manual subscriber. -/
structure ManualSubscriber (α ι : Type) where
  subscription : Promise ι
  received : Queue α
  error : Promise StreamError

namespace ManualSubscriber

variable {α ι : Type}

/-- A subscriber that has received nothing. -/
def empty (capacity : Nat) : ManualSubscriber α ι := ⟨.empty, .empty capacity, .empty⟩

/-- The name of a manual subscriber of elements of type `α`. -/
def name (α : Type) [Element α] : String :=
  "rstreams_tck::manual::ManualSubscriber<" ++ Element.typeName α ++ ">"

/-! ### Signals -/

/-- Offers a subscription and says whether it is kept; one that is not must be cancelled. -/
def onSubscribe (s : ι) (m : ManualSubscriber α ι) : Bool × ManualSubscriber α ι :=
  match m.subscription.complete s with
  | (.ok (), c) => (true, { m with subscription := c })
  | (.error _, _) => (false, m)

/-- The violation of an element that the queue refuses. -/
def elementRefused : Refusal → Violation
  | .alreadyCompleted => .protocol "Received `onNext` after `onComplete`"
  | .overflow capacity =>
    .oversupply ("Received more than " ++ toString capacity ++
      " elements without consuming them")

/-- Receives an element. -/
def onNext (a : α) (m : ManualSubscriber α ι) : Option Violation × ManualSubscriber α ι :=
  match m.received.add a with
  | (.ok (), q) => (none, { m with received := q })
  | (.error e, _) => (some (elementRefused e), m)

/-- The violation of a second error. -/
def secondError : Violation :=
  .doubleTerminal "Received `onError` a second time, which is illegal according to Rule 1.7"

/-- Receives an error. -/
def onError (e : StreamError) (m : ManualSubscriber α ι) :
    Option Violation × ManualSubscriber α ι :=
  match m.error.complete e with
  | (.ok (), c) => (none, { m with error := c })
  | (.error _, _) => (some secondError, m)

/-- The violation of a second completion. -/
def secondCompletion : Violation :=
  .doubleTerminal "Received `onComplete` a second time, which is illegal according to Rule 1.7"

/-- Receives a completion. -/
def onComplete (m : ManualSubscriber α ι) : Option Violation × ManualSubscriber α ι :=
  match m.received.complete with
  | (.ok (), q) => (none, { m with received := q })
  | (.error _, _) => (some secondCompletion, m)

/-! ### Demand -/

/-- The subscription on which to request `n` elements. -/
def subscriptionFor (n : UInt64) (m : ManualSubscriber α ι) : Except Violation ι :=
  match m.subscription.value with
  | some s => .ok s
  | none => .error (.protocol ("Cannot request(" ++ toString n.toNat ++
      ") before receiving a Subscription"))

/-! ### Assertions -/

/-- An expectation on the received elements. -/
def onReceived {ρ : Type} (e : Expectation (Queue α) ρ) :
    Expectation (ManualSubscriber α ι) ρ :=
  e.onPart received fun m q => { m with received := q }

/-- Expects a subscription. -/
def expectSubscription (timeout : Duration) : Expectation (ManualSubscriber α ι) ι :=
  (Promise.completion timeout "Subscriber did not receive expected `onSubscribe`").onPart
    subscription fun m c => { m with subscription := c }

/-- Expects an element and takes it. -/
def expectElement (timeout : Duration) : Expectation (ManualSubscriber α ι) α :=
  onReceived (Queue.next timeout "Did not receive expected element")

/-- Expects that nothing is received. -/
def expectNone [Element α] (within : Duration) : Expectation (ManualSubscriber α ι) Unit :=
  onReceived (Queue.silence within "Did not expect an element but got one")

/-- Expects the completion. -/
def expectCompletion [Element α] (timeout : Duration) : Expectation (ManualSubscriber α ι) Unit :=
  onReceived (Queue.completion timeout "Did not receive expected `onComplete`")

/-- Expects an error of type `kind` with `part` in its message. -/
def expectError (kind : Cause.Kind) (part : String) (timeout : Duration) :
    Expectation (ManualSubscriber α ι) StreamError :=
  ((Promise.completion timeout
    ("Subscriber didn't receive expected `onError(" ++ kind.typeName ++ ")`")).onPart
    error fun m c => { m with error := c }).judge fun _ r =>
    match r with
    | .error v => .error v
    | .ok e =>
      if !e.isOf kind then
        .error (.mismatch ("Expected `onError(" ++ kind.typeName ++ ")` but got `onError(" ++
          e.message ++ ")`"))
      else if Text.occursIn part e.message then .ok e
      else .error (BlackboxProbe.missingPart kind part e)

end ManualSubscriber

end StreamConformance
