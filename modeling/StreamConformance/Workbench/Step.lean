import StreamConformance.Halt
import StreamConformance.Workbench.Delivery

/-!
# Working at the bench

The steps of a test on a workbench: creating objects, wiring them, sending signals, calling
subscriptions and asking questions. A step ends with a value, or early; what it has done stays, and
the emitters run after it.

## Main definitions

* `Bench` — programs on a workbench.
* `Bench.run` — a step, after which the emitters run.
* `Bench.subscribe`, `Bench.send`, `Bench.requestNext`, `Bench.askProbe` and so on — the steps.
-/

namespace StreamConformance

/-- Programs on a workbench. -/
abbrev Bench (α : Type) := ExceptT Halt (StateM (Workbench α))

/-- A publisher on a workbench. -/
inductive PublisherRef where
  | manual (number : Nat)
  | range (number : Nat)
  deriving DecidableEq, Inhabited

namespace Bench

variable {α ρ : Type}

/-- Something that always succeeds. -/
def update (f : Workbench α → Workbench α) : Bench α Unit := modify f

/-- Something that may panic. -/
def orPanic (f : Workbench α → Except Panic Unit × Workbench α) : Bench α Unit :=
  ExceptT.mk fun b =>
    match f b with
    | (.ok (), b) => (.ok (), b)
    | (.error p, b) => (.error (.panic p), b)

/-- A verdict. -/
def judge : Except Violation ρ → Bench α ρ
  | .ok a => pure a
  | .error v => throw (.violation v)

/-- Runs a step and then the emitters, whichever way the step ends. -/
def run [Element α] (step : Bench α ρ) (b : Workbench α) : Except Halt ρ × Workbench α :=
  let r := ExceptT.run step b
  (r.1, r.2.settle)

/-! ### Creating objects -/

/-- Reserves storage for a queue of elements of type `β` at a site. -/
def reserve (β : Type) [Element β] (site : Nat) : Bench α Unit := do
  if !Queue.fits β ((← get).config site).capacity then
    throw (.panic .capacityOverflow)

/-- A new site; its number. -/
def newSite (config : Config) : Bench α Nat :=
  modifyGet fun b => (b.sites.length, { b with sites := b.sites ++ [⟨config, .empty⟩] })

/-- A new error. -/
def newError (c : Cause) : Bench α StreamError :=
  modifyGet fun b => (⟨⟨.harness, b.errors⟩, c⟩, { b with errors := b.errors + 1 })

/-- A new manual publisher; its number. -/
def newPublisher (site : Nat) : Bench α Nat := do
  reserve UInt64 site
  modifyGet fun b => (b.publishers.length,
    { b with publishers := b.publishers ++ [⟨site, .empty (b.config site).capacity⟩] })

/-- A new manual subscriber; its number. -/
def newManual [Element α] (site : Nat) : Bench α Nat := do
  reserve α site
  modifyGet fun b => (b.manuals.length,
    { b with manuals := b.manuals ++ [⟨site, .empty (b.config site).capacity⟩] })

/-- A new range publisher; its number. -/
def newRange (count : UInt64) (item : UInt64 → α) : Bench α Nat :=
  modifyGet fun b => (b.ranges.length,
    { b with ranges := b.ranges ++ [⟨count, item, .empty, []⟩] })

/-- A new probe; its number. -/
def newProbe [Element α] (site : Nat) (naming : Naming) : Bench α Nat := do
  reserve α site
  modifyGet fun b => (b.probes.length,
    { b with probes := b.probes ++ [⟨site, naming, .empty (b.config site).capacity⟩] })

/-- A new subscriber under test; its number. -/
def newActor (machine : Machine α) (probe : Option Nat) : Bench α Nat :=
  modifyGet fun b => (b.actors.length, { b with actors := b.actors ++ [⟨machine, [], probe⟩] })

/-- A new recording; its number. -/
def newRecording : Bench α Nat :=
  modifyGet fun b => (b.recordings.length, { b with recordings := b.recordings ++ [.empty] })

/-- A new sentinel; its number. -/
def newSentinel (site : Nat) (forbidden : Signal) : Bench α Nat :=
  modifyGet fun b => (b.sentinels.length,
    { b with sentinels := b.sentinels ++ [⟨site, ⟨forbidden⟩⟩] })

/-! ### Scopes -/

/-- Enters the scope of a signal on the test thread. -/
def enter (s : Signal) : Bench α Unit :=
  modify (Workbench.scopes.enter s)

/-- Leaves the scope of a signal on the test thread. -/
def leave (s : Signal) : Bench α Unit :=
  modify (Workbench.scopes.leave s)

/-- The marks of the test thread, or of another one. -/
def marks (elsewhere : Bool) : Bench α Marks := do
  let b ← get
  return if elsewhere then [] else b.marks

/-! ### Signals and calls -/

variable [Element α]

/-- Sends a signal to a subscriber, with or without the scope of the signal. -/
def send (inScope : Bool) (d : Delivery α) (s : SubscriberRef) : Bench α Unit :=
  orPanic fun b => if inScope then b.deliver d s else b.signal b.marks d s

omit [Element α] in
/-- Requests on a subscription, on the test thread or elsewhere. -/
def request (elsewhere : Bool) (s : SubscriptionRef) (n : UInt64) : Bench α Unit := do
  let m ← marks elsewhere
  modify fun b => b.requestOn m n s

omit [Element α] in
/-- Cancels a subscription, on the test thread or elsewhere. -/
def cancel (elsewhere : Bool) (s : SubscriptionRef) : Bench α Unit := do
  let m ← marks elsewhere
  modify fun b => b.cancelOn m s

/-- Registers a puppet that passes on to a subscription. -/
def registerPuppet (probe : Nat) (s : SubscriptionRef) : Bench α Unit :=
  modify fun b => b.reportPuppet probe (.direct s)

/-- A subscriber subscribes to a manual publisher. -/
def subscribeManual (number : Nat) (s : SubscriberRef) : Bench α Unit :=
  orPanic fun b =>
    match b.publishers[number]? with
    | none => (.ok (), b)
    | some o =>
      match o.state.accept s with
      | (some v, _) => (.ok (), b.record o.site (some v))
      | (none, p) =>
        { b with publishers := b.publishers.set number { o with state := p } }.deliver
          (.onSubscribe (.publisher number)) s

/-- A subscriber subscribes to a range publisher. If it is listed, it is offered a subscription that
does nothing, and an error. Otherwise a stream is made for it, whose emitter starts when the
subscriber has returned. -/
def subscribeRange (number : Nat) (s : SubscriberRef) : Bench α Unit :=
  orPanic fun b =>
    match b.ranges[number]? with
    | none => (.ok (), b)
    | some o =>
      match o.registry.enroll s with
      | (false, _) =>
        match b.signal b.marks (.onSubscribe .inert) s with
        | (.error p, b) => (.error p, b)
        | (.ok (), b) =>
          let (e, b) := b.rangeError Range.duplicateCause
          b.signal b.marks (.onError e) s
      | (true, registry) =>
        let stream := o.streams.length
        let streams := o.streams ++ [⟨s, .empty, .start⟩]
        let b := { b with ranges := b.ranges.set number { o with registry, streams } }
        match b.signal b.marks (.onSubscribe (.stream number stream)) s with
        | (.ok (), b) => (.ok (), b)
        | (.error p, b) => (.error p, b.setEmitter number stream Range.Emitter.start.unwind)

/-- A subscriber subscribes to a publisher. -/
def subscribe : PublisherRef → SubscriberRef → Bench α Unit
  | .manual n, s => subscribeManual n s
  | .range n, s => subscribeRange n s

/-! ### Questions -/

omit [Element α] in
/-- Asks the log of a site. -/
def askLog (site : Nat) (q : LogQuery) : Bench α (Reply α) := do
  let r := q.answer ((← get).logAt site)
  modify fun b => { b with sites := b.sites.modify site fun s => { s with log := r.2 } }
  judge r.1

/-- Asks a manual publisher. -/
def askPublisher (number : Nat) (q : PublisherQuery) : Bench α (Reply α) := do
  let b ← get
  match b.publishers[number]? with
  | none => return .done
  | some o =>
    let r := q.answer (b.timeout o.site) b.nameOf o.state
    set { b with publishers := b.publishers.set number { o with state := r.2 } }
    judge r.1

/-- Asks a manual subscriber. -/
def askManual (number : Nat) (q : SubscriberQuery) : Bench α (Reply α) := do
  let b ← get
  match b.manuals[number]? with
  | none => return .done
  | some o =>
    let r := q.answer (b.timeout o.site) o.state
    set { b with manuals := b.manuals.set number { o with state := r.2 } }
    judge r.1

/-- Asks a probe. -/
def askProbe (number : Nat) (q : ProbeQuery α) : Bench α (Reply α) := do
  let b ← get
  match b.probes[number]? with
  | none => return .done
  | some o =>
    let r := q.answer (b.timeout o.site) (b.subjectName? o.naming) o.state
    set { b with probes := b.probes.set number { o with state := r.2 } }
    judge r.1

/-! ### Manual publishers and subscribers -/

/-- Sends a signal to the subscriber of a manual publisher. -/
def sendFrom (number : Nat) (action : String) (d : Delivery α) : Bench α Unit := do
  match (← get).publishers[number]? with
  | none => return
  | some o =>
    let s ← judge (o.state.subscriberFor action)
    send true d s

omit [Element α] in
/-- A manual subscriber requests. -/
def requestBy (number : Nat) (n : UInt64) : Bench α Unit := do
  match (← get).manuals[number]? with
  | none => return
  | some o =>
    let s ← judge (o.state.subscriptionFor n)
    request false s n

omit [Element α] in
/-- A manual subscriber cancels what it holds. -/
def cancelBy (number : Nat) : Bench α Unit := do
  match (← get).manuals[number]?.bind (·.state.subscription.value) with
  | none => return
  | some s => cancel false s

/-- A manual subscriber requests one element and expects it. -/
def requestNext (number : Nat) : Bench α (Reply α) := do
  requestBy number 1
  modify Workbench.settle
  askManual number .expectElement

/-- A manual subscriber subscribes to a publisher; it must be offered a subscription, and nothing
may be in the log. -/
def subscribeChecked (site number : Nat) (p : PublisherRef) : Bench α Unit := do
  subscribe p (.manual number)
  let _ ← askManual number (.expectSubscription ((← get).timeout site))
  let _ ← askLog site .assertEmpty

/-- The subscription that a manual subscriber holds. -/
def held (number : Nat) : Bench α (Option SubscriptionRef) := do
  return (← get).manuals[number]?.bind (·.state.subscription.value)

/-! ### Puppets -/

/-- Tells the puppet of a probe to request or to cancel; says whether there is one. -/
def pull (probe : Nat) (n : Option UInt64) : Bench α Bool := do
  let b ← get
  match b.probes[probe]?.bind (·.state.puppet.value) with
  | none => return false
  | some (.direct s) =>
    match n with
    | some n => request false s n
    | none => cancel false s
    return true
  | some (.owned actor puppet) =>
    orPanic fun b => b.stimulate b.marks actor
      (match n with
      | some n => .triggerRequest puppet n
      | none => .signalCancel puppet)
    return true

/-! ### The end of a test -/

/-- The subscription that a scripted subscriber keeps. -/
def kept (o : ActorObject α) : Option SubscriptionRef :=
  match o.machine with
  | .specimen .. => none
  | .scripted state => state.current.bind (o.offers[·]?)

/-- Every manual and every scripted subscriber cancels what it holds. -/
def finish : Bench α Unit :=
  modify fun b =>
    let holders := b.manuals.filterMap (·.state.subscription.value) ++ b.actors.filterMap kept
    holders.foldl (fun b s => b.cancelOn b.marks s) b

end Bench

end StreamConformance
