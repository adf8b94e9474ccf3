import StreamConformance.Range.Basic

/-!
# Interleavings of a range publisher

Subscribe calls, calls on subscriptions and emitters all run on threads of their own. This module
lets them take turns in any order: a label says who does the next thing, and a thing is what one
thread does in one critical section, or between two callbacks. While a callback of a subscriber is
in progress anything else may happen, also what the callback itself does. The start of a thread may
fail.

## Main definitions

* `Range.Publisher` — a publisher with its subscriptions and the subscribe calls made so far.
* `Range.Label`, `Publisher.step` — who does the next thing, and what comes of it.
* `Publisher.run` — a whole run.
-/

namespace StreamConformance.Range

/-! ### Subscriptions and calls -/

/-- The thread that belongs to a subscription. -/
inductive Worker where
  /-- The subscriber has not returned from being offered the subscription. -/
  | unborn
  /-- The emitter is between two callbacks, or has ended. -/
  | running (e : Emitter)
  /-- The subscriber has been signalled and has not returned; then the emitter goes on with `e`. -/
  | signalling (o : Output) (e : Emitter)
  /-- The subscriber has panicked when it was offered the subscription: there is no emitter. -/
  | lost
  /-- No thread could be started for the emitter. -/
  | unstarted
  deriving DecidableEq, Inhabited

/-- Whether a thread may still do something. -/
def Worker.isAlive : Worker → Bool
  | running e => !e.isOver
  | signalling .. => true
  | unborn | lost | unstarted => false

/-- A subscription with all that belongs to it. -/
structure Subscription (ι : Type) where
  subscriber : ι
  ledger : Ledger
  worker : Worker
  /-- What the emitter has signalled, in order. -/
  signals : List Output
  deriving DecidableEq

/-- How far a subscribe call has come. -/
inductive CallPhase where
  /-- The subscriber is entered and is being offered the subscription with this number. -/
  | offering (subscription : Nat)
  /-- The subscriber is listed already and is being offered a subscription that does nothing. -/
  | refusing
  /-- The subscriber is being signalled an error: it was listed already, or its emitter could not be
  started. -/
  | failing
  | returned
  /-- A callback has panicked, and the call with it. -/
  | panicked
  deriving DecidableEq, Inhabited

/-- What a subscribe call signals itself. -/
inductive CallSignal where
  | onSubscribe (subscription : Nat)
  /-- The offer of a subscription that does nothing. -/
  | onSubscribeInert
  /-- The error for a subscriber that is listed. -/
  | onDuplicate
  /-- The error that the system gives when it cannot start a thread. -/
  | onUnstarted
  deriving DecidableEq, Inhabited

namespace CallSignal

/-- Whether an error is signalled. -/
def isError : CallSignal → Bool
  | onDuplicate | onUnstarted => true
  | onSubscribe _ | onSubscribeInert => false

/-- The cause of the error that is signalled, if it is one that the publisher makes. -/
def cause? : CallSignal → Option Cause
  | onDuplicate => some duplicateCause
  | onSubscribe _ | onSubscribeInert | onUnstarted => none

end CallSignal

/-- A subscribe call. -/
structure SubscribeCall (ι : Type) where
  subscriber : ι
  phase : CallPhase
  /-- What the call has signalled, in order. -/
  signals : List CallSignal
  deriving DecidableEq

/-- Whether a subscribe call is in progress. -/
def SubscribeCall.isOpen {ι : Type} (c : SubscribeCall ι) : Bool :=
  match c.phase with
  | .returned | .panicked => false
  | .offering _ | .refusing | .failing => true

/-! ### Publishers -/

/-- A publisher of `count` elements, all subscriptions that it has made, and all subscribe calls. -/
structure Publisher (ι : Type) where
  count : UInt64
  registry : Registry ι
  subscriptions : List (Subscription ι)
  calls : List (SubscribeCall ι)
  deriving DecidableEq

/-- Who does the next thing. -/
inductive Label (ι : Type) where
  /-- A subscriber begins to subscribe. -/
  | subscribe (s : ι)
  /-- The callback that a subscribe call has made returns, or panics. -/
  | resume (call : Nat) (panics : Bool)
  /-- The offer that a subscribe call has made returns, and no thread can be started. -/
  | abort (call : Nat)
  | request (subscription : Nat) (n : UInt64)
  | cancel (subscription : Nat)
  /-- An emitter takes a step. -/
  | work (subscription : Nat)
  /-- The callback that an emitter has made returns, or panics. -/
  | finish (subscription : Nat) (panics : Bool)
  deriving DecidableEq

namespace Publisher

variable {ι : Type}

/-- A publisher that nobody has subscribed to. -/
def start (count : UInt64) : Publisher ι := ⟨count, .empty, [], []⟩

/-- The publisher with another state of a subscription. -/
def setSubscription (p : Publisher ι) (number : Nat) (s : Subscription ι) : Publisher ι :=
  { p with subscriptions := p.subscriptions.set number s }

/-- The publisher with another thread of a subscription. -/
def setWorker (p : Publisher ι) (number : Nat) (w : Worker) : Publisher ι :=
  { p with subscriptions := p.subscriptions.modify number fun s => { s with worker := w } }

/-- The publisher with another phase of a subscribe call, which signals something first. -/
def setCall (p : Publisher ι) (number : Nat) (phase : CallPhase) (signals : List CallSignal) :
    Publisher ι :=
  { p with
    calls := p.calls.modify number fun c => { c with phase, signals := c.signals ++ signals } }

/-- Changes the ledger of a subscription, if there is one with this number. -/
def updateLedger (p : Publisher ι) (number : Nat) (f : Ledger → Ledger) : Option (Publisher ι) :=
  p.subscriptions[number]?.map fun s => p.setSubscription number { s with ledger := f s.ledger }

variable [DecidableEq ι]

/-- A subscriber begins to subscribe: it is entered and offered a new subscription, or it is listed
and is offered one that does nothing. -/
def subscribe (p : Publisher ι) (s : ι) : Publisher ι :=
  match p.registry.enroll s with
  | (true, registry) =>
    let number := p.subscriptions.length
    { p with
      registry
      subscriptions := p.subscriptions ++ [⟨s, .empty, .unborn, []⟩]
      calls := p.calls ++ [⟨s, .offering number, [.onSubscribe number]⟩] }
  | (false, _) => { p with calls := p.calls ++ [⟨s, .refusing, [.onSubscribeInert]⟩] }

omit [DecidableEq ι] in
/-- The callback of a subscribe call ends. An emitter starts when the subscriber has returned from
being offered its subscription. -/
def resume (p : Publisher ι) (call : Nat) (panics : Bool) : Option (Publisher ι) :=
  match p.calls[call]?.map SubscribeCall.phase with
  | some (.offering number) =>
    if panics then some ((p.setWorker number .lost).setCall call .panicked [])
    else some ((p.setWorker number (.running .start)).setCall call .returned [])
  | some .refusing =>
    if panics then some (p.setCall call .panicked [])
    else some (p.setCall call .failing [.onDuplicate])
  | some .failing => some (p.setCall call (if panics then .panicked else .returned) [])
  | some .returned | some .panicked | none => none

/-- The offer of a subscription ends, and there is no thread for its emitter: the subscriber is
struck from the list and signalled the error. -/
def abort (p : Publisher ι) (call : Nat) : Option (Publisher ι) :=
  match p.calls[call]? with
  | some c =>
    match c.phase with
    | .offering number =>
      some (({ p with registry := p.registry.strike c.subscriber }.setWorker number
        .unstarted).setCall call .failing [.onUnstarted])
    | .refusing | .failing | .returned | .panicked => none
  | none => none

/-- The emitter of a subscription takes a step, unless it is blocked. -/
def work (p : Publisher ι) (number : Nat) : Option (Publisher ι) :=
  match p.subscriptions[number]? with
  | some s =>
    match s.worker with
    | .running e =>
      match e.step p.count s.ledger with
      | .blocked => none
      | .silent e l => some (p.setSubscription number { s with ledger := l, worker := .running e })
      | .signal o e =>
        some (p.setSubscription number
          { s with worker := .signalling o e, signals := s.signals ++ [o] })
      | .leave e =>
        some ({ p with registry := p.registry.strike s.subscriber }.setWorker number (.running e))
    | .unborn | .signalling .. | .lost | .unstarted => none
  | none => none

omit [DecidableEq ι] in
/-- The callback of an emitter ends. -/
def finish (p : Publisher ι) (number : Nat) (panics : Bool) : Option (Publisher ι) :=
  match p.subscriptions[number]?.map Subscription.worker with
  | some (.signalling _ e) =>
    some (p.setWorker number (.running (if panics then e.unwind else e)))
  | some .unborn | some (.running _) | some .lost | some .unstarted | none => none

/-- What comes of the next thing, if it can be done. -/
def step (p : Publisher ι) : Label ι → Option (Publisher ι)
  | .subscribe s => some (p.subscribe s)
  | .resume call panics => p.resume call panics
  | .abort call => p.abort call
  | .request number n => p.updateLedger number (.request n)
  | .cancel number => p.updateLedger number .cancel
  | .work number => p.work number
  | .finish number panics => p.finish number panics

/-- What comes of one thing after the other, if all can be done. -/
def run (p : Publisher ι) (labels : List (Label ι)) : Option (Publisher ι) := labels.foldlM step p

omit [DecidableEq ι] in
/-- Whether no subscribe call is in progress and no emitter is alive. -/
def isAtRest (p : Publisher ι) : Bool :=
  p.calls.all (!·.isOpen) && p.subscriptions.all (!·.worker.isAlive)

end Publisher

end StreamConformance.Range
