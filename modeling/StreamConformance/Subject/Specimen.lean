import StreamConformance.Demand
import StreamConformance.Subject.Basic

/-!
# Specimens

Seven subscribers to try the rules on. The reference keeps every rule; each of the others has one
trait, which breaks a rule or only seems to.

## Main definitions

* `Specimen` — the seven kinds.
* `Specimen.subject` — the subscriber of a kind.
-/

namespace StreamConformance

/-- A subscriber to try the rules on. -/
inductive Specimen where
  /-- Keeps every rule. -/
  | reference
  /-- Requests without bound as soon as it is subscribed. -/
  | unbounded
  /-- Requests one more element after each element. -/
  | echoing
  /-- Requests and cancels from within terminal signals. -/
  | reentrant
  /-- Cancels from within terminal signals, but on another thread. -/
  | deferredReentrant
  /-- Accepts every subscription that it is offered. -/
  | greedy
  /-- Never registers its puppet. -/
  | silent
  deriving DecidableEq, Inhabited

namespace Specimen

/-- All specimens. -/
def all : List Specimen :=
  [reference, unbounded, echoing, reentrant, deferredReentrant, greedy, silent]

/-- The word by which a specimen is selected. -/
def word : Specimen → String
  | reference => "reference"
  | unbounded => "unbounded"
  | echoing => "echoing"
  | reentrant => "reentrant"
  | deferredReentrant => "deferred-reentrant"
  | greedy => "greedy"
  | silent => "silent"

/-- The specimen that a word selects. -/
def ofWord? (w : String) : Option Specimen := all.find? fun k => k.word == w

/-- The specimen as a value. -/
def debugText : Specimen → String
  | reference => "Reference"
  | unbounded => "Unbounded"
  | echoing => "Echoing"
  | reentrant => "Reentrant"
  | deferredReentrant => "DeferredReentrant"
  | greedy => "Greedy"
  | silent => "Silent"

/-- The name of the subscriber in messages. -/
def subscriberName (k : Specimen) : String := k.debugText ++ "Subscriber"

variable {α : Type}

/-- What a specimen that holds a subscription does in a terminal signal besides reporting it. -/
def terminalCalls (k : Specimen) : Option Nat → List (Lane × Call α)
  | none => []
  | some held =>
    match k with
    | reentrant => [(.delivering, .request held 1), (.delivering, .cancel held)]
    | deferredReentrant => [(.other, .cancel held)]
    | _ => []

/-- What a specimen does with a subscription that it accepts. -/
def acceptCalls (k : Specimen) (offer : Nat) : List (Lane × Call α) :=
  (if k = unbounded then [(.delivering, .request offer Demand.unbounded)] else []) ++
    (if k = silent then [] else [(.delivering, .registerPuppet offer)])

/-- The calls of a specimen that holds the subscription `held`, and the subscription that it holds
afterwards. Its puppets carry the numbers of their subscriptions. -/
def respond (k : Specimen) (held : Option Nat) : Stimulus α → List (Lane × Call α) × Option Nat
  | .onSubscribe offer =>
    if held.isSome && k != greedy then ([(.delivering, .cancel offer)], held)
    else (k.acceptCalls offer, some offer)
  | .onNext a =>
    ((.delivering, .registerNext a) ::
      (match k, held with
      | echoing, some s => [(.delivering, .request s 1)]
      | _, _ => []), held)
  | .onError e => ((.delivering, .registerError e) :: k.terminalCalls held, held)
  | .onComplete => ((.delivering, .registerComplete) :: k.terminalCalls held, held)
  | .triggerRequest puppet n => ([(.delivering, .request puppet n)], held)
  | .signalCancel puppet => ([(.delivering, .cancel puppet)], held)

/-- The subscriber of a kind. Its state is the subscription that it holds. -/
def subject (k : Specimen) : Subject α (Option Nat) where
  name := k.subscriberName
  start := none
  react held s :=
    let r := k.respond held s
    ⟨r.1, none, r.2⟩

end Specimen

end StreamConformance
