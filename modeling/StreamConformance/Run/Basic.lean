import StreamConformance.Chronicle
import StreamConformance.Config
import StreamConformance.Helper.Basic
import StreamConformance.Log
import StreamConformance.Manual.Publisher
import StreamConformance.Manual.Subscriber
import StreamConformance.Probe.Whitebox
import StreamConformance.Signal.Basic
import StreamConformance.Subject.Basic

/-!
# Runs

A run is what a scenario works on: a subject with its probe, a manual publisher that the subject may
be subscribed to, and a helper with the manual subscriber, the *tees*, through which the harness
pulls elements from it. A run keeps the log of violations, the marks of the test thread, the time
spent waiting, and the history of all that has passed between the harness, the subject and the
helper.

## Main definitions

* `Verification` — what is verified: the subject, its helper publishers, and the limits.
* `Run`, `Event` — a run and the entries of its history.
* `Run.stimulate` — the subject reacts to a stimulus.
* `Run.relay` — the helper's emission reaches the tees.
-/

namespace StreamConformance

/-- What is verified, and within which limits. -/
structure Verification (α σ η : Type) where
  config : Config
  /-- How many elements a subject may still report when it should be quiet. -/
  maxSignals : UInt64
  subject : Subject α σ
  /-- The helper publisher of a number of elements. -/
  helper : UInt64 → Helper α η

/-- The bound of waits. -/
def Verification.timeout {α σ η : Type} (v : Verification α σ η) : Duration := v.config.timeout

/-- The subscriptions that a subject can be offered. -/
inductive Target where
  /-- The subscription of the manual publisher. -/
  | publisher
  /-- A second subscription, which must be cancelled. -/
  | second
  /-- A sentinel. -/
  | sentinel (s : Sentinel)
  /-- A subscription that is only recorded. -/
  | recording (number : Nat)
  deriving DecidableEq, Inhabited

/-- What has passed between the harness, the subject and the helper. -/
inductive Event (α : Type) where
  /-- A subject has been created. -/
  | subjectCreated
  /-- The subject has received a stimulus. -/
  | stimulated (s : Stimulus α)
  /-- A callback of the subject has ended by a panic. -/
  | panicked
  /-- The subject has requested `n` elements on a subscription. -/
  | requested (t : Target) (lane : Lane) (n : UInt64)
  /-- The subject has cancelled a subscription. -/
  | cancelled (t : Target) (lane : Lane)
  /-- The subject has told the probe something, which the probe has accepted or refused. -/
  | reported (c : Call α) (accepted : Bool)
  /-- A violation has been recorded. -/
  | recorded (v : Violation)
  /-- The tees has subscribed to the helper. -/
  | teesSubscribed
  /-- The helper has offered the tees a subscription. -/
  | teesOffered (subscription : Nat) (kept : Bool)
  /-- The helper has signalled an element. -/
  | teesNext (a : α)
  /-- The helper has signalled an error. -/
  | teesError (e : StreamError)
  /-- The helper has signalled a completion. -/
  | teesComplete
  /-- The tees has requested `n` elements. -/
  | teesRequested (subscription : Nat) (n : UInt64)
  /-- The tees has cancelled its subscription. -/
  | teesCancelled (subscription : Nat)
  /-- A call of the helper has ended by a panic. -/
  | helperPanicked
  /-- The harness has awaited an expectation. -/
  | awaited
  /-- The harness has taken an element from the tees. -/
  | pulled (a : α)
  deriving DecidableEq

/-- A run: a subject with states of type `σ` and a helper with states of type `η`, in the hands of
the harness. -/
structure Run (α σ η : Type) where
  log : Log
  /-- The marks of the test thread. -/
  marks : Marks
  /-- The time spent waiting. -/
  elapsed : Duration
  /-- What has happened so far. -/
  past : Chronicle (Event α)
  /-- The publisher of the stage; subjects are known by numbers. -/
  publisher : ManualPublisher Nat
  /-- Whether the second subscription has been cancelled. -/
  second : Latch
  subject : σ
  /-- The subscriptions offered to the subject so far. -/
  offers : List Target
  probe : WhiteboxProbe α Nat
  helper : η
  tees : ManualSubscriber α Nat
  /-- The last element pulled from the helper. -/
  lastPulled : Option α

namespace Run

variable {α σ η : Type}

/-- A fresh run on a thread with the given marks. -/
def start (v : Verification α σ η) (marks : Marks) : Run α σ η where
  log := .empty
  marks := marks
  elapsed := .zero
  past := .empty
  publisher := .empty v.config.capacity
  second := .opened
  subject := v.subject.start
  offers := []
  probe := .empty v.config.capacity
  helper := (v.helper Demand.unbounded).start
  tees := .empty v.config.capacity
  lastPulled := none

/-- The history: what has happened so far, in order. -/
def history (r : Run α σ η) : List (Event α) := r.past.toList

/-- Adds an entry to the history. -/
def note (e : Event α) (r : Run α σ η) : Run α σ η := { r with past := r.past.add e }

@[simp] theorem history_note (e : Event α) (r : Run α σ η) :
    (r.note e).history = r.history ++ [e] := by
  simp [history, note]

/-- Records a violation if there is one. -/
def record (v : Option Violation) (r : Run α σ η) : Run α σ η :=
  match v with
  | some v => ({ r with log := r.log.record v }).note (.recorded v)
  | none => r

/-- The name of the subscriber of the publisher, if there is one. -/
def subjectName? (v : Verification α σ η) (r : Run α σ η) : Option String :=
  r.publisher.subscriber.value.map fun _ => v.subject.name

/-- The name under which messages speak of the subscriber of the publisher. -/
def subjectName (v : Verification α σ η) (r : Run α σ η) : String :=
  (r.subjectName? v).getD BlackboxProbe.unknownSubject

/-- Enters a wait of some length. -/
def pass (d : Duration) (r : Run α σ η) : Run α σ η :=
  { r with elapsed := r.elapsed.add d }.note .awaited

/-! ### Calls of the subject -/

/-- The marks on the thread of a call. -/
def marksOn (lane : Lane) (r : Run α σ η) : Marks :=
  match lane with
  | .delivering => r.marks
  | .other => []

/-- The violation of requesting on a second subscription. -/
def secondRequest (subject : String) (n : UInt64) : Violation :=
  .illegalResubscription ("Subscriber " ++ subject ++ " illegally called `subscription.request(" ++
    toString n.toNat ++ ")`")

/-- A request on a subscription. -/
def requestOn (v : Verification α σ η) (t : Target) (lane : Lane) (n : UInt64) (r : Run α σ η) :
    Run α σ η :=
  let r := r.note (.requested t lane n)
  match t with
  | .publisher =>
    let p := r.publisher.request n
    ({ r with publisher := p.2 }).record p.1
  | .second => r.record (some (secondRequest v.subject.name n))
  | .sentinel s => r.record (s.request (r.marksOn lane))
  | .recording _ => r

/-- A cancellation of a subscription. -/
def cancelOn (t : Target) (lane : Lane) (r : Run α σ η) : Run α σ η :=
  let r := r.note (.cancelled t lane)
  match t with
  | .publisher => { r with publisher := r.publisher.cancel }
  | .second => { r with second := r.second.close }
  | .sentinel s => r.record (s.cancel (r.marksOn lane))
  | .recording _ => r

/-- A report to the probe. -/
def reportBy (c : Call α)
    (f : WhiteboxProbe α Nat → Option Violation × WhiteboxProbe α Nat) (r : Run α σ η) :
    Run α σ η :=
  let p := f r.probe
  (({ r with probe := p.2 }).note (.reported c p.1.isNone)).record p.1

/-- A call of the subject. A subscription that it has not been offered it cannot call. -/
def perform [Element α] (v : Verification α σ η) (r : Run α σ η) (lane : Lane) (c : Call α) :
    Run α σ η :=
  match c with
  | .request offer n =>
    match r.offers[offer]? with
    | some t => r.requestOn v t lane n
    | none => r
  | .cancel offer =>
    match r.offers[offer]? with
    | some t => r.cancelOn t lane
    | none => r
  | .registerPuppet puppet => r.reportBy c (WhiteboxProbe.registerPuppet (r.subjectName v) puppet)
  | .registerNext a =>
    r.reportBy c (WhiteboxProbe.report (BlackboxProbe.registerNext (r.subjectName v) a))
  | .registerComplete => r.reportBy c (WhiteboxProbe.report BlackboxProbe.registerComplete)
  | .registerError e => r.reportBy c (WhiteboxProbe.report (BlackboxProbe.registerError e))
  | .record x => r.record (some x)

/-- The subject reacts to a stimulus. -/
def stimulate [Element α] (v : Verification α σ η) (s : Stimulus α) (r : Run α σ η) :
    Except Panic Unit × Run α σ η :=
  let reaction := v.subject.react r.subject s
  let r := ({ r with subject := reaction.state }).note (.stimulated s)
  let r := reaction.calls.foldl (fun r c => r.perform v c.1 c.2) r
  match reaction.panic with
  | some p => (.error p, r.note .panicked)
  | none => (.ok (), r)

/-- The kind of signal that a stimulus is delivered as; calls of the puppet are no signals. -/
def signalOf : Stimulus α → Option Signal
  | .onSubscribe _ => some .onSubscribe
  | .onNext _ => some .onNext
  | .onError _ => some .onError
  | .onComplete => some .onComplete
  | .triggerRequest .. | .signalCancel .. => none

/-- The scopes of signals on the test thread. -/
def scopes : Scopes (Run α σ η) := .ofMarks fun f r => { r with marks := f r.marks }

/-- Delivers a stimulus to the subject, within the scope of its signal. -/
def deliver [Element α] (v : Verification α σ η) (s : Stimulus α) (r : Run α σ η) :
    Except Panic Unit × Run α σ η :=
  match signalOf s with
  | none => r.stimulate v s
  | some signal => scopes.deliver signal (stimulate v s) r

theorem deliver_eq [Element α] (v : Verification α σ η) (s : Stimulus α) (r : Run α σ η) :
    r.deliver v s =
      match signalOf s with
      | none => r.stimulate v s
      | some signal =>
        let d := ({ r with marks := Marks.enter signal r.marks }).stimulate v s
        (d.1, { d.2 with marks := Marks.leave signal d.2.marks }) := rfl

/-- Offers a subscription to the subject. -/
def offer [Element α] (v : Verification α σ η) (t : Target) (r : Run α σ η) :
    Except Panic Unit × Run α σ η :=
  ({ r with offers := r.offers ++ [t] }).deliver v (.onSubscribe r.offers.length)

/-- Subscribes the subject, which is known by a number, to the publisher. -/
def subscribeSubject [Element α] (v : Verification α σ η) (number : Nat) (r : Run α σ η) :
    Except Panic Unit × Run α σ η :=
  match r.publisher.accept number with
  | (some x, _) => (.ok (), r.record (some x))
  | (none, p) => ({ r with publisher := p }).offer v .publisher

/-! ### The helper and the tees -/

/-- A signal of the helper reaches the tees. -/
def receive (e : Event α)
    (f : ManualSubscriber α Nat → Option Violation × ManualSubscriber α Nat) (r : Run α σ η) :
    Run α σ η :=
  let t := f r.tees
  (({ r with tees := t.2 }).note e).record t.1

/-- What the helper does in one call reaches the tees, up to a panic of type `π`. -/
def relay {π : Type} : Emission α η π → Run α σ η → Except π Unit × Run α σ η
  | .done h, r => (.ok (), { r with helper := h })
  | .panic p h, r => (.error p, ({ r with helper := h }).note .helperPanicked)
  | .next a rest, r => relay rest (r.receive (.teesNext a) (ManualSubscriber.onNext a))
  | .error e rest, r => relay rest (r.receive (.teesError e) (ManualSubscriber.onError e))
  | .complete rest, r => relay rest (r.receive .teesComplete ManualSubscriber.onComplete)
  | .offer k rest, r =>
    match r.tees.onSubscribe k with
    | (true, t) => relay (rest true) (({ r with tees := t }).note (.teesOffered k true))
    | (false, _) => relay (rest false) (r.note (.teesOffered k false))
  | .record x rest, r => relay rest (r.record (some x))

/-- The tees subscribes to a helper. -/
def subscribeTees (h : Helper α η) (r : Run α σ η) : Except Panic Unit × Run α σ η :=
  relay (h.subscribe r.helper) (r.note .teesSubscribed)

/-- The tees requests `n` elements on a subscription that it holds. -/
def requestTees (h : Helper α η) (k : Nat) (n : UInt64) (r : Run α σ η) :
    Except Panic Unit × Run α σ η :=
  relay (h.request r.helper k n) (r.note (.teesRequested k n))

/-- The tees cancels the subscription that it holds, if any. -/
def cancelTees (h : Helper α η) (r : Run α σ η) : Run α σ η :=
  match r.tees.subscription.value with
  | none => r
  | some k => (relay (h.cancel r.helper k) (r.note (.teesCancelled k))).2

end Run

end StreamConformance
