import StreamConformance.Stage

/-!
# The scenarios

One scenario for each rule that can be verified from outside. A scenario plays on a fresh run and
ends well, with a violation, or by a panic.
-/

namespace StreamConformance.Scenario

variable {α σ η : Type} [Element α] (v : Verification α σ η)

/-- Requests, receives and cancels through the puppet. -/
def happyPath : Play α σ η Unit := Stage.set v do
  let puppet ← Stage.puppet v
  Stage.triggerRequest v puppet 1
  Stage.triggerRequest v puppet 1
  let requested ← Stage.expectRequest v
  let first ← Stage.signalNext v
  Stage.expectElement v first
  Stage.triggerRequest v puppet 1
  if requested = 1 then
    let _ ← Stage.expectRequest v
  let second ← Stage.signalNext v
  Stage.expectElement v second
  Stage.signalCancel v puppet
  Stage.expectCancelling v
  Stage.requireCleanLog

/-- Rule 2.1: demand is signalled by requests. -/
def signalsDemand : Play α σ η Unit := Stage.set v do
  let puppet ← Stage.puppet v
  Stage.triggerRequest v puppet 1
  let _ ← Stage.expectRequest v
  let _ ← Stage.signalNext v

/-- The error that scenarios signal. -/
def testError : StreamError := ⟨⟨.harness, 0⟩, .testException⟩

/-- The terminal signals. -/
inductive TerminalSignal where
  | complete
  | error
  deriving DecidableEq

/-- The stimulus of a terminal signal. -/
def TerminalSignal.stimulus : TerminalSignal → Stimulus α
  | complete => .onComplete
  | error => .onError testError

/-- The sentinel for a terminal signal. -/
def TerminalSignal.sentinel : TerminalSignal → Sentinel
  | complete => ⟨.onComplete⟩
  | error => ⟨.onError⟩

/-- Rule 2.3: a terminal signal does not call the subscription. -/
def terminalReentrancy (t : TerminalSignal) : Play α σ η Unit := do
  Stage.reserve v
  Stage.createSubject
  Play.orPanic (Run.offer v (.sentinel t.sentinel))
  Play.orPanic (Run.deliver v t.stimulus)
  Stage.requireCleanLog

/-- Rule 2.5: a second subscription is cancelled. -/
def cancelsSecondSubscription : Play α σ η Unit := Stage.set v do
  let _ ← Play.ask fun r =>
    match r.publisher.subscriber.value with
    | some s => Except.ok s
    | none => .error (.protocol "subject was never subscribed")
  Play.orPanic (Run.offer v .second)
  Play.await (Stage.onSecond (Latch.closing v.timeout ("Expected 2nd Subscription given to " ++
    "subscriber to be cancelled, but `Subscription.cancel()` was not called.")))
  Stage.requireCleanLog

/-- Rule 2.8: elements may still arrive after a cancellation. -/
def toleratesNextAfterCancel : Play α σ η Unit := Stage.set v do
  let puppet ← Stage.puppet v
  Stage.triggerRequest v puppet 1
  Stage.signalCancel v puppet
  let _ ← Stage.signalNext v
  Stage.triggerRequest v puppet 1
  Stage.triggerRequest v puppet 1
  let _ ← Stage.awaitQuiet v
  Stage.requireCleanLog

/-- Rule 2.9: a completion after a request. -/
def completionAfterRequest : Play α σ η Unit := Stage.set v do
  let puppet ← Stage.puppet v
  Stage.triggerRequest v puppet 1
  Stage.sendCompletion v
  Stage.expectCompletion v
  Stage.requireCleanLog

/-- Rule 2.9: a completion without a request. -/
def completionWithoutRequest : Play α σ η Unit := Stage.set v do
  Stage.sendCompletion v
  Stage.expectCompletion v
  Stage.requireCleanLog

/-- Rule 2.10: an error after a request. -/
def errorAfterRequest : Play α σ η Unit := Stage.set v do
  let puppet ← Stage.puppet v
  Stage.triggerRequest v puppet 1
  Stage.triggerRequest v puppet 1
  Stage.sendError v testError
  Stage.expectError v testError
  Stage.requireCleanLog

/-- Rule 2.10: an error without a request. -/
def errorWithoutRequest : Play α σ η Unit := Stage.set v do
  Stage.sendError v testError
  Stage.expectError v testError
  Stage.requireCleanLog

/-- Rule 2.12: subscribing the same subscriber twice is rejected. The tees is cancelled unless
something panics. -/
def rejectsSecondSubscribe : Play α σ η Unit := do
  Stage.reserve v
  let helper := v.helper 1
  modify fun r => { r with helper := helper.start }
  Play.unlessPanic
    (do
      Stage.subscribeTees v helper
      Play.await (Stage.onTees (ManualSubscriber.expectNone v.timeout))
      Play.orPanic (Run.subscribeTees helper)
      let _ ← Play.await
        (Stage.onTees (ManualSubscriber.expectError .illegalState "2.12" v.timeout)))
    (Run.cancelTees helper)

/-- Rule 3.8: a request registers exactly its number of elements. -/
def registersDemand : Play α σ η Unit := Stage.set v do
  let puppet ← Stage.puppet v
  Stage.triggerRequest v puppet 2
  let _ ← Stage.expectDemand v 2
  let first ← Stage.signalNext v
  Stage.expectElement v first
  let second ← Stage.signalNext v
  Stage.expectElement v second
  Stage.expectNone v
  Stage.expectNoRequest v
  Stage.triggerRequest v puppet 3
  Stage.requireCleanLog

omit [Element α] in
/-- A scenario that records violations, and then ends in a given way. -/
def recording (records : List Violation) (ending : Except Halt Unit) (_ : Verification α σ η) :
    Play α σ η Unit := do
  for x in records do
    modify (Run.record (some x))
  match ending with
  | .ok () => return
  | .error h => throw h

end StreamConformance.Scenario
