import StreamConformance.Log
import StreamConformance.Manual.Publisher
import StreamConformance.Manual.Subscriber
import StreamConformance.Probe.Whitebox

/-!
# Questions to the objects of a test

What a test can ask of a log, a manual publisher, a manual subscriber and a probe, as data, and how
each of them answers while nothing else happens.

## Main definitions

* `Reply` — what a question is answered with.
* `LogQuery`, `PublisherQuery`, `SubscriberQuery`, `ProbeQuery` — the questions, each with its
  function `answer`.
-/

namespace StreamConformance

/-- What a question is answered with. -/
inductive Reply (α : Type) where
  /-- What was expected is so. -/
  | done
  | element (a : α)
  | number (n : Nat)
  | flag (b : Bool)
  /-- A name, if there is somebody to name. -/
  | name (n : Option String)
  | error (e : StreamError)
  | violations (vs : List Violation)

/-- The answer to an expectation on a state that nothing else changes. -/
def Expectation.reply {α σ ρ : Type} (e : Expectation σ ρ) (f : ρ → Reply α) (s : σ) :
    Except Violation (Reply α) × σ :=
  let r := e.now s
  (r.1.map f, r.2)

/-- The number in a word, as a reply. -/
def Reply.word {α : Type} (n : UInt64) : Reply α := .number n.toNat

/-! ### Logs -/

/-- Questions to a log. -/
inductive LogQuery where
  | record (v : Violation)
  | entries
  | drain
  | assertEmpty
  | clear
  | length
  | isEmpty
  deriving DecidableEq

/-- The answer of a log. -/
def LogQuery.answer {α : Type} (l : Log) :
    LogQuery → Except Violation (Reply α) × Log
  | record v => (.ok .done, l.record v)
  | entries => (.ok (.violations l.entries), l)
  | drain => (.ok (.violations l.drain.1), l.drain.2)
  | assertEmpty => (l.assertEmpty.map fun _ => .done, l)
  | clear => (.ok .done, .empty)
  | length => (.ok (.number l.recorded.size), l)
  | isEmpty => (.ok (.flag l.recorded.isEmpty), l)

/-! ### Manual publishers -/

/-- Questions to a manual publisher. -/
inductive PublisherQuery where
  | expectRequest
  | expectDemand (n : UInt64)
  | expectNoRequest
  | expectCancelling
  | isCancelled
  | pendingDemand
  | subscriberName
  | hasSubscriber
  deriving DecidableEq

/-- The answer of a manual publisher; `name` gives the names of subscribers. -/
def PublisherQuery.answer {α ι : Type} (timeout : Duration) (name : ι → String)
    (p : ManualPublisher ι) : PublisherQuery → Except Violation (Reply α) × ManualPublisher ι
  | expectRequest => (ManualPublisher.expectRequest timeout).reply .word p
  | expectDemand n =>
    let r := p.expectDemand timeout n
    (r.1.map .word, r.2)
  | expectNoRequest => (ManualPublisher.expectNoRequest timeout).reply (fun _ => .done) p
  | expectCancelling => (ManualPublisher.expectCancelling timeout).reply (fun _ => .done) p
  | isCancelled => (.ok (.flag p.isCancelled), p)
  | pendingDemand => (.ok (.word p.pendingDemand), p)
  | subscriberName => (.ok (.name (p.subscriber.value.map name)), p)
  | hasSubscriber => (.ok (.flag p.subscriber.isCompleted), p)

/-! ### Manual subscribers -/

/-- Questions to a manual subscriber. -/
inductive SubscriberQuery where
  /-- Expects an element, which has been requested before. -/
  | expectElement
  | expectNone
  | expectCompletion
  | hasSubscription
  | expectSubscription (timeout : Duration)
  | expectError (kind : Cause.Kind) (part : String)
  deriving DecidableEq

/-- The answer of a manual subscriber. -/
def SubscriberQuery.answer {α ι : Type} [Element α] (timeout : Duration)
    (m : ManualSubscriber α ι) :
    SubscriberQuery → Except Violation (Reply α) × ManualSubscriber α ι
  | expectElement => (ManualSubscriber.expectElement timeout).reply .element m
  | expectNone => (ManualSubscriber.expectNone timeout).reply (fun _ => .done) m
  | expectCompletion => (ManualSubscriber.expectCompletion timeout).reply (fun _ => .done) m
  | hasSubscription => (.ok (.flag m.subscription.isCompleted), m)
  | expectSubscription t => (ManualSubscriber.expectSubscription t).reply (fun _ => .done) m
  | expectError kind part => (ManualSubscriber.expectError kind part timeout).reply .error m

/-! ### Probes -/

/-- Questions to a probe. Where no time is given, the standard one is meant. -/
inductive ProbeQuery (α : Type) where
  | expectNext
  | expectElement (a : α) (timeout : Option Duration)
  | expectCompletion
  | expectCompletionWithin (timeout : Duration) (message : String)
  | expectError (e : StreamError) (timeout : Option Duration)
  | expectErrorOf (kind : Cause.Kind) (timeout : Option Duration)
  | expectErrorWithMessage (kind : Cause.Kind) (part : String)
  | expectNone (timeout : Option Duration)
  | subscriberName
  | isRegistered
  | expectRegistration (timeout : Duration)

/-- The answer of a probe; `name` is the name of its subscriber, if it is known. -/
def ProbeQuery.answer {α π : Type} [Element α] (timeout : Duration) (name : Option String)
    (p : WhiteboxProbe α π) : ProbeQuery α → Except Violation (Reply α) × WhiteboxProbe α π
  | expectNext => record (BlackboxProbe.expectNext subject timeout) .element
  | expectElement a t =>
    record (BlackboxProbe.expectElement subject a (t.getD timeout)) fun _ => .done
  | expectCompletion => record (BlackboxProbe.expectCompletion subject timeout) fun _ => .done
  | expectCompletionWithin t message =>
    record (BlackboxProbe.expectCompletionWithin subject t message) fun _ => .done
  | expectError e t =>
    record (BlackboxProbe.expectError subject e (t.getD timeout)) fun _ => .done
  | expectErrorOf kind t =>
    record (BlackboxProbe.expectErrorOf subject kind (t.getD timeout)) .error
  | expectErrorWithMessage kind part =>
    record (BlackboxProbe.expectErrorWithMessage subject kind part timeout) .error
  | expectNone t => record (BlackboxProbe.expectNone (t.getD timeout)) fun _ => .done
  | subscriberName => (.ok (.name name), p)
  | isRegistered => (.ok (.flag p.isRegistered), p)
  | expectRegistration t =>
    (WhiteboxProbe.expectRegistration subject t).reply (fun _ => .done) p
where
  /-- The name in messages. -/
  subject : String := name.getD BlackboxProbe.unknownSubject
  /-- The answer of the record of reports. -/
  record {ρ : Type} (e : Expectation (BlackboxProbe α) ρ) (f : ρ → Reply α) :
      Except Violation (Reply α) × WhiteboxProbe α π :=
    (WhiteboxProbe.onBlackbox e).reply f p

end StreamConformance
