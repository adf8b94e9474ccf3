import StreamConformance.Cell.Latch
import StreamConformance.Cell.Promise
import StreamConformance.Cell.Queue
import StreamConformance.Demand

/-!
# The manual publisher

A publisher with a single subscriber to which a test sends whatever it likes. The subscription that
it hands out queues the requests and remembers a cancellation. Subscribers are known by identities
of a type `ι`.

## Main definitions

* `ManualPublisher.accept` — a subscriber offers itself.
* `ManualPublisher.request`, `ManualPublisher.cancel` — calls on the subscription.
* `ManualPublisher.expectRequest`, `expectDemand`, `expectNoRequest`, `expectCancelling` — what can
  be asserted of these calls.
-/

namespace StreamConformance

/-- The state of a manual publisher and of the subscription that it hands out. -/
structure ManualPublisher (ι : Type) where
  subscriber : Promise ι
  /-- The requests not yet looked at. -/
  requests : Queue UInt64
  cancelled : Latch
  /-- The demand taken from the queue by assertions. -/
  pendingDemand : UInt64

namespace ManualPublisher

variable {ι : Type}

/-- A publisher without a subscriber. -/
def empty (capacity : Nat) : ManualPublisher ι := ⟨.empty, .empty capacity, .opened, 0⟩

/-! ### The publisher and its subscription -/

/-- A subscriber offers itself. The first is accepted; every other one is a violation. -/
def accept (s : ι) (p : ManualPublisher ι) : Option Violation × ManualPublisher ι :=
  match p.subscriber.complete s with
  | (.ok (), c) => (none, { p with subscriber := c })
  | (.error _, _) =>
    (some (.protocol "ManualPublisher doesn't support more than one Subscriber"), p)

/-- The subscriber that `action` is meant for. -/
def subscriberFor (action : String) (p : ManualPublisher ι) : Except Violation ι :=
  match p.subscriber.value with
  | some s => .ok s
  | none => .error (.protocol ("Cannot " ++ action ++ " before having a Subscriber"))

/-- The violation of requesting no element. -/
def zeroRequest : Violation :=
  .protocol "Subscriber called `request(0)`, which is illegal according to Rule 3.9"

/-- The violation of requesting more often than requests are looked at. -/
def requestOverflow (capacity : Nat) : Violation :=
  .oversupply ("Received more than " ++ toString capacity ++
    " `request` calls that were never expected")

/-- A request on the subscription. -/
def request (n : UInt64) (p : ManualPublisher ι) : Option Violation × ManualPublisher ι :=
  if n = 0 then (some zeroRequest, p)
  else
    match p.requests.add n with
    | (.ok (), q) => (none, { p with requests := q })
    | (.error (.overflow capacity), _) => (some (requestOverflow capacity), p)
    | (.error .alreadyCompleted, _) => (none, p)

/-- A cancellation on the subscription. -/
def cancel (p : ManualPublisher ι) : ManualPublisher ι := { p with cancelled := p.cancelled.close }

/-- Whether the subscription has been cancelled. -/
def isCancelled (p : ManualPublisher ι) : Bool := p.cancelled.isClosed

/-! ### Assertions -/

/-- An expectation on the queue of requests. -/
def onRequests {ρ : Type} (e : Expectation (Queue UInt64) ρ) :
    Expectation (ManualPublisher ι) ρ :=
  e.onPart requests fun p q => { p with requests := q }

/-- Counts demand that an assertion has taken. -/
def count (n : UInt64) (p : ManualPublisher ι) : ManualPublisher ι :=
  { p with pendingDemand := Demand.add p.pendingDemand n }

/-- Expects a request and counts it. -/
def expectRequest (timeout : Duration) : Expectation (ManualPublisher ι) UInt64 :=
  let e := onRequests (Queue.next timeout "Did not receive expected `request` call")
  { e with
    finish := fun found p =>
      match e.finish found p with
      | (.ok n, p) => (.ok n, p.count n)
      | (.error v, p) => (.error v, p) }

/-- The complaint about demand that does not come. -/
def missingDemand (expected total : UInt64) : String :=
  "Did not receive expected `request` call (expected a total demand of " ++
    toString expected.toNat ++ ", got " ++ toString total.toNat ++ ")"

/-- Takes requests until their sum, which starts at `total`, reaches `expected`. The number of
requests queued bounds the number of rounds. -/
def takeDemand (timeout : Duration) (expected : UInt64) :
    Nat → UInt64 → ManualPublisher ι → Except Violation UInt64 × ManualPublisher ι
  | rounds, total, p =>
    if expected ≤ total then (.ok total, p)
    else
      match (onRequests (Queue.next timeout (missingDemand expected total))).now p with
      | (.error v, p) => (.error v, p)
      | (.ok n, p) =>
        match rounds with
        | 0 => (.ok (Demand.add total n), p)
        | rounds + 1 => takeDemand timeout expected rounds (Demand.add total n) p

/-- Takes requests until their sum reaches `expected`, and counts it; more than `expected` is an
oversupply. -/
def expectDemand (timeout : Duration) (expected : UInt64) (p : ManualPublisher ι) :
    Except Violation UInt64 × ManualPublisher ι :=
  match takeDemand timeout expected p.requests.entries.length 0 p with
  | (.error v, p) => (.error v, p)
  | (.ok total, p) =>
    if expected < total then
      (.error (.oversupply ("Expected a total demand of " ++ toString expected.toNat ++
        " but the subscriber requested " ++ toString total.toNat)), p.count total)
    else (.ok total, p.count total)

/-- Expects that no request comes. -/
def expectNoRequest (timeout : Duration) : Expectation (ManualPublisher ι) Unit :=
  onRequests (Queue.silence timeout "Received an unexpected call to `request`")

/-- Expects a cancellation. -/
def expectCancelling (timeout : Duration) : Expectation (ManualPublisher ι) Unit :=
  (Latch.closing timeout
    "Did not receive expected cancelling of upstream subscription").onPart cancelled
    fun p l => { p with cancelled := l }

end ManualPublisher

end StreamConformance
