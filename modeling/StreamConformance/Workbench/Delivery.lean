import StreamConformance.Workbench.Basic

/-!
# Signals on the workbench

How a signal reaches a subscriber, and what the emitters of the range publishers do in between. An
emitter runs on a thread of its own, without marks; after each step of a test the emitters run until
all of them are blocked.

## Main definitions

* `Delivery` — a signal with what it carries.
* `Workbench.signal` — a signal reaches a subscriber.
* `Workbench.deliver` — the same within the scope of the signal.
* `Workbench.settle` — lets the emitters run.
-/

namespace StreamConformance

/-- A signal with what it carries. -/
inductive Delivery (α : Type) where
  | onSubscribe (s : SubscriptionRef)
  | onNext (a : α)
  | onError (e : StreamError)
  | onComplete

/-- The kind of a signal. -/
def Delivery.kind {α : Type} : Delivery α → Signal
  | onSubscribe _ => .onSubscribe
  | onNext _ => .onNext
  | onError _ => .onError
  | onComplete => .onComplete

namespace Workbench

variable {α : Type} [Element α]

/-! ### Subscribers under test -/

/-- A call of a subscriber under test. Without a probe it has nobody to report to. -/
def perform (marks : Marks) (actor : Nat) (o : ActorObject α) (b : Workbench α)
    (lane : Lane) (c : Call α) : Workbench α :=
  let marks := match lane with
    | .delivering => marks
    | .other => []
  match c with
  | .request offer n =>
    match o.offers[offer]? with
    | some s => b.requestOn marks n s
    | none => b
  | .cancel offer =>
    match o.offers[offer]? with
    | some s => b.cancelOn marks s
    | none => b
  | .registerPuppet puppet => atProbe fun p => b.reportPuppet p (.owned actor puppet)
  | .registerNext a => atProbe fun p => b.reportNext p a
  | .registerComplete => atProbe fun p => b.reportComplete p
  | .registerError e => atProbe fun p => b.reportError p e
  | .record v => atProbe fun p =>
    match b.probes[p]? with
    | some probe => b.record probe.site (some v)
    | none => b
where
  /-- What is done at the probe, if there is one. -/
  atProbe (f : Nat → Workbench α) : Workbench α :=
    match o.probe with
    | some p => f p
    | none => b

/-- A subscriber under test reacts to a stimulus. -/
def stimulate (marks : Marks) (actor : Nat) (s : Stimulus α) (b : Workbench α) :
    Except Panic Unit × Workbench α :=
  match b.actors[actor]? with
  | none => (.ok (), b)
  | some o =>
    let reaction := o.machine.react s
    let o := { o with machine := reaction.state }
    let b := reaction.calls.foldl (fun b c => b.perform marks actor o c.1 c.2)
      { b with actors := b.actors.set actor o }
    match reaction.panic with
    | some p => (.error p, b)
    | none => (.ok (), b)

/-! ### Signals -/

/-- A signal reaches a manual subscriber. -/
def signalManual (marks : Marks) (number : Nat) (d : Delivery α) (b : Workbench α) :
    Workbench α :=
  match b.manuals[number]? with
  | none => b
  | some o =>
    match d with
    | .onSubscribe s =>
      match o.state.onSubscribe s with
      | (true, m) => { b with manuals := b.manuals.set number { o with state := m } }
      | (false, _) => b.cancelOn marks s
    | .onNext a => store o (o.state.onNext a)
    | .onError e => store o (o.state.onError e)
    | .onComplete => store o o.state.onComplete
where
  /-- Keeps the state of the subscriber and records a violation. -/
  store (o : ManualObject α) (r : Option Violation × ManualSubscriber α SubscriptionRef) :
      Workbench α :=
    ({ b with manuals := b.manuals.set number { o with state := r.2 } }).record o.site r.1

/-- A signal reaches a subscriber under test. -/
def signalActor (marks : Marks) (number : Nat) (d : Delivery α) (b : Workbench α) :
    Except Panic Unit × Workbench α :=
  match d with
  | .onSubscribe s =>
    let offer := (b.actors[number]?.map (·.offers.length)).getD 0
    let b := { b with
      actors := b.actors.modify number fun o => { o with offers := o.offers ++ [s] } }
    b.stimulate marks number (.onSubscribe offer)
  | .onNext a => b.stimulate marks number (.onNext a)
  | .onError e => b.stimulate marks number (.onError e)
  | .onComplete => b.stimulate marks number .onComplete

/-- A signal is reported to a probe; a subscription is not. -/
def reportSignal (probe : Nat) (d : Delivery α) (b : Workbench α) : Workbench α :=
  match d with
  | .onSubscribe _ => b
  | .onNext a => b.reportNext probe a
  | .onError e => b.reportError probe e
  | .onComplete => b.reportComplete probe

/-- A signal reaches a subscriber on a thread with the given marks. -/
def signal (marks : Marks) (d : Delivery α) :
    SubscriberRef → Workbench α → Except Panic Unit × Workbench α
  | .manual n, b => (.ok (), b.signalManual marks n d)
  | .actor n, b => b.signalActor marks n d
  | .proxy probe target, b => signal marks d target (b.reportSignal probe d)

omit [Element α] in
/-- The scopes of signals on the test thread. -/
def scopes : Scopes (Workbench α) := .ofMarks fun f b => { b with marks := f b.marks }

/-- A signal reaches a subscriber on the test thread, within its scope. -/
def deliver (d : Delivery α) (s : SubscriberRef) (b : Workbench α) :
    Except Panic Unit × Workbench α :=
  scopes.deliver d.kind (fun b => b.signal b.marks d s) b

/-! ### Emitters -/

omit [Element α] in
/-- Changes an emitter and its ledger. -/
def setStream (range number : Nat) (e : Range.Emitter) (l : Range.Ledger) (b : Workbench α) :
    Workbench α :=
  { b with
    ranges := b.ranges.modify range fun o =>
      { o with
        streams := o.streams.modify number fun s => { s with emitter := e, ledger := l } } }

omit [Element α] in
/-- Changes an emitter. -/
def setEmitter (range number : Nat) (e : Range.Emitter) (b : Workbench α) : Workbench α :=
  { b with
    ranges := b.ranges.modify range fun o =>
      { o with streams := o.streams.modify number fun s => { s with emitter := e } } }

omit [Element α] in
/-- A new error of a range publisher. -/
def rangeError (c : Cause) (b : Workbench α) : StreamError × Workbench α :=
  (⟨⟨.helper, b.rangeErrors⟩, c⟩, { b with rangeErrors := b.rangeErrors + 1 })

/-- What an emitter signals reaches its subscriber. A panic unwinds the emitter. -/
def emit (range number : Nat) (o : RangeObject α) (s : StreamObject) (output : Range.Output)
    (e : Range.Emitter) (b : Workbench α) : Workbench α :=
  let r := match output with
    | .next n => b.signal [] (.onNext (o.item n)) s.subscriber
    | .complete => b.signal [] .onComplete s.subscriber
    | .invalid =>
      let (error, b) := b.rangeError .nonPositiveRequest
      b.signal [] (.onError error) s.subscriber
  match r with
  | (.ok (), b) => b.setEmitter range number e
  | (.error _, b) => b.setEmitter range number e.unwind

/-- A step of an emitter, unless it is blocked. -/
def stepStream (range number : Nat) (o : RangeObject α) (s : StreamObject) (b : Workbench α) :
    Option (Workbench α) :=
  match s.emitter.step o.count s.ledger with
  | .blocked => none
  | .silent e l => some (b.setStream range number e l)
  | .signal output e => some (b.emit range number o s output e)
  | .leave e =>
    let b := { b with
      ranges := b.ranges.modify range fun o =>
        { o with registry := o.registry.strike s.subscriber } }
    some (b.setEmitter range number e)

/-- A step of some emitter, unless all are blocked. -/
def stepAny (b : Workbench α) : Option (Workbench α) :=
  b.ranges.zipIdx.findSome? fun (o, range) =>
    o.streams.zipIdx.findSome? fun (s, number) => b.stepStream range number o s

/-- Lets the emitters run until all are blocked, for at most `fuel` steps. -/
def settleWithin : Nat → Workbench α → Workbench α
  | 0, b => b
  | fuel + 1, b =>
    match b.stepAny with
    | some b => settleWithin fuel b
    | none => b

omit [Element α] in
/-- The number of steps after which emitters that are never blocked are stopped. -/
def patience (b : Workbench α) : Nat :=
  (b.ranges.flatMap fun o =>
    o.streams.map fun s => Range.Emitter.patience o.count s.ledger).foldl (· + ·) 0

/-- Lets the emitters run until all are blocked. -/
def settle (b : Workbench α) : Workbench α := settleWithin b.patience b

end Workbench

end StreamConformance
