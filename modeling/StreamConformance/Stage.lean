import StreamConformance.Run.Play

/-!
# The stage

A stage is the upstream of a subject: a manual publisher, and the tees that pulls elements from a
helper. Setting a stage subscribes the tees to an unbounded helper, creates a subject, subscribes it
to the publisher and waits for its puppet. A stage that holds its tees cancels it at the end,
whichever way the end comes.

## Main definitions

* `Stage.set` — plays a scenario on a stage.
* `Stage.pull`, `Stage.signalNext` — take the next element from the helper, and pass it on.
* `Stage.awaitQuiet` — wait until the subject reports no more elements.
-/

namespace StreamConformance.Stage

variable {α σ η ρ : Type}

/-! ### Parts of a run -/

/-- An expectation on the publisher. -/
def onPublisher (e : Expectation (ManualPublisher Nat) ρ) : Expectation (Run α σ η) ρ :=
  e.onPart Run.publisher fun r p => { r with publisher := p }

/-- An expectation on the tees. -/
def onTees (e : Expectation (ManualSubscriber α Nat) ρ) : Expectation (Run α σ η) ρ :=
  e.onPart Run.tees fun r t => { r with tees := t }

/-- An expectation on the probe. -/
def onProbe (e : Expectation (WhiteboxProbe α Nat) ρ) : Expectation (Run α σ η) ρ :=
  e.onPart Run.probe fun r p => { r with probe := p }

/-- An expectation on the second subscription. -/
def onSecond (e : Expectation Latch ρ) : Expectation (Run α σ η) ρ :=
  e.onPart Run.second fun r l => { r with second := l }

/-- The name under which messages speak of the subject. -/
def subjectName (v : Verification α σ η) : Play α σ η String := do
  return (← get).subjectName v

/-! ### Setting the stage -/

/-- Whether the storage for the queues of a stage can be reserved, which are queues of requests and
of elements. -/
def fits (α : Type) [Element α] (capacity : Nat) : Bool :=
  Queue.fits UInt64 capacity && Queue.fits α capacity

/-- Reserves the storage for the queues of a stage. -/
def reserve [Element α] (v : Verification α σ η) : Play α σ η Unit :=
  Play.orPanic fun r =>
    if fits α v.config.capacity then (.ok (), r)
    else (.error .capacityOverflow, r)

/-- Insists that nothing has been recorded. -/
def requireCleanLog : Play α σ η Unit := Play.ask fun r => r.log.assertEmpty

/-- Subscribes the tees to a helper, waits for the subscription and insists that nothing has been
recorded meanwhile. -/
def subscribeTees (v : Verification α σ η) (h : Helper α η) : Play α σ η Unit := do
  Play.orPanic (Run.subscribeTees h)
  let _ ← Play.await (onTees (ManualSubscriber.expectSubscription v.timeout))
  requireCleanLog

/-- Creates the subject. -/
def createSubject : Play α σ η Unit := modify (Run.note .subjectCreated)

/-- Subscribes the subject, known by a number, to the publisher and waits for its puppet. -/
def wireSubject [Element α] (v : Verification α σ η) (number : Nat) : Play α σ η Unit := do
  Play.orPanic (Run.subscribeSubject v number)
  let name ← subjectName v
  let _ ← Play.await (onProbe (WhiteboxProbe.expectRegistration name v.timeout))

/-- Creates the subject and wires it. -/
def setSubject [Element α] (v : Verification α σ η) : Play α σ η Unit := do
  createSubject
  wireSubject v 0

/-- The helper of a stage, which is unbounded. -/
def helper (v : Verification α σ η) : Helper α η := v.helper Demand.unbounded

/-- Plays `body` on a stage. -/
def set [Element α] (v : Verification α σ η) (body : Play α σ η ρ) : Play α σ η ρ := do
  reserve v
  subscribeTees v (helper v)
  Play.ensuring (do setSubject v; body) (Run.cancelTees (helper v))

/-! ### The subject -/

/-- Sends an element to the subscriber of the publisher. -/
def sendNext [Element α] (v : Verification α σ η) (a : α) : Play α σ η Unit := do
  let _ ← Play.ask fun r => r.publisher.subscriberFor "sendNext"
  Play.orPanic (Run.deliver v (.onNext a))

/-- Sends a completion to the subscriber of the publisher. -/
def sendCompletion [Element α] (v : Verification α σ η) : Play α σ η Unit := do
  let _ ← Play.ask fun r => r.publisher.subscriberFor "sendCompletion"
  Play.orPanic (Run.deliver v .onComplete)

/-- Sends an error to the subscriber of the publisher. -/
def sendError [Element α] (v : Verification α σ η) (e : StreamError) : Play α σ η Unit := do
  let _ ← Play.ask fun r => r.publisher.subscriberFor "sendError"
  Play.orPanic (Run.deliver v (.onError e))

/-- The puppet that the subject has registered. -/
def puppet (v : Verification α σ η) : Play α σ η Nat :=
  Play.ask fun r =>
    match r.probe.puppet.value with
    | some p => .ok p
    | none => .error (.protocol (WhiteboxProbe.notRegistered (r.subjectName v)))

/-- Tells a puppet to request. -/
def triggerRequest [Element α] (v : Verification α σ η) (puppet : Nat) (n : UInt64) :
    Play α σ η Unit :=
  Play.orPanic (Run.deliver v (.triggerRequest puppet n))

/-- Tells a puppet to cancel. -/
def signalCancel [Element α] (v : Verification α σ η) (puppet : Nat) : Play α σ η Unit :=
  Play.orPanic (Run.deliver v (.signalCancel puppet))

/-! ### The helper -/

/-- Requests one element from the helper and waits for it. -/
def requestNext (v : Verification α σ η) (h : Helper α η) : Play α σ η α := do
  let k ← Play.ask fun r => r.tees.subscriptionFor 1
  Play.orPanic (Run.requestTees h k 1)
  Play.await (onTees (ManualSubscriber.expectElement v.timeout))

/-- Pulls the next element from the helper. -/
def pull (v : Verification α σ η) : Play α σ η α := do
  let a ← requestNext v (helper v)
  modify fun r => ({ r with lastPulled := some a }).note (.pulled a)
  return a

/-- Pulls the next element from the helper and sends it to the subject. -/
def signalNext [Element α] (v : Verification α σ η) : Play α σ η α := do
  let a ← pull v
  sendNext v a
  return a

/-! ### Assertions -/

/-- Expects a request of the subject. -/
def expectRequest (v : Verification α σ η) : Play α σ η UInt64 :=
  Play.await (onPublisher (ManualPublisher.expectRequest v.timeout))

/-- Expects requests of the subject whose sum is `expected`. -/
def expectDemand (v : Verification α σ η) (expected : UInt64) : Play α σ η UInt64 :=
  Play.orViolation fun r =>
    let d := r.publisher.expectDemand v.timeout expected
    let cost := match d.1 with
      | .error (.timeout ..) => v.timeout
      | _ => .zero
    (d.1, { r with publisher := d.2 }.pass cost)

/-- Expects that the subject does not request. -/
def expectNoRequest (v : Verification α σ η) : Play α σ η Unit :=
  Play.await (onPublisher (ManualPublisher.expectNoRequest v.timeout))

/-- Expects the subject to cancel. -/
def expectCancelling (v : Verification α σ η) : Play α σ η Unit :=
  Play.await (onPublisher (ManualPublisher.expectCancelling v.timeout))

/-- Expects the subject to report the element `a`. -/
def expectElement [Element α] (v : Verification α σ η) (a : α) : Play α σ η Unit := do
  let name ← subjectName v
  Play.await (onProbe (WhiteboxProbe.onBlackbox (BlackboxProbe.expectElement name a v.timeout)))

/-- Expects the subject to report the completion. -/
def expectCompletion [Element α] (v : Verification α σ η) : Play α σ η Unit := do
  let name ← subjectName v
  Play.await (onProbe (WhiteboxProbe.onBlackbox (BlackboxProbe.expectCompletion name v.timeout)))

/-- Expects the subject to report the error `e`. -/
def expectError (v : Verification α σ η) (e : StreamError) : Play α σ η Unit := do
  let name ← subjectName v
  Play.await (onProbe (WhiteboxProbe.onBlackbox (BlackboxProbe.expectError name e v.timeout)))

/-- The expectation that the subject reports nothing. -/
def quiet [Element α] (v : Verification α σ η) : Expectation (Run α σ η) Unit :=
  onProbe (WhiteboxProbe.onBlackbox (BlackboxProbe.expectNone v.timeout))

/-- Expects the subject to report nothing. -/
def expectNone [Element α] (v : Verification α σ η) : Play α σ η Unit := Play.await (quiet v)

/-- Waits for a quiet window in at most `rounds` rounds, having seen `drained` elements. -/
def drain [Element α] (v : Verification α σ η) : Nat → Nat → Play α σ η Nat
  | 0, _ => do
    let name ← subjectName v
    throw (.violation (.protocol ("Subscriber " ++ name ++ " was still receiving elements after " ++
      toString v.maxSignals.toNat ++ " signals")))
  | rounds + 1, drained => do
    match ← Play.outcome (quiet v) with
    | .ok () => return drained
    | .error (.oversupply _) => drain v rounds (drained + 1)
    | .error x => throw (.violation x)

/-- Takes the elements that the subject still reports until nothing comes for a while, and counts
them. As many as the limit may be taken, but then nothing more may come. -/
def awaitQuiet [Element α] (v : Verification α σ η) : Play α σ η Nat :=
  drain v (v.maxSignals.toNat + 1) 0

end StreamConformance.Stage
