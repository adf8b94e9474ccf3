import StreamConformance.Config
import StreamConformance.Query
import StreamConformance.Range.Basic
import StreamConformance.Signal.Basic
import StreamConformance.Subject.Script
import StreamConformance.Subject.Specimen

/-!
# The workbench

A workbench holds any number of the objects of a test and lets them be wired in any way: logs,
publishers, subscribers, probes, proxies, recordings and sentinels. Objects are known by numbers, in
the order of their creation within each kind.

## Main definitions

* `SubscriberRef`, `SubscriptionRef`, `PuppetRef` — who can be meant by a signal or a call.
* `Workbench` — the objects and the marks of the test thread.
* `Workbench.requestOn`, `Workbench.cancelOn` — calls on subscriptions.
* `Workbench.report` — reports to probes.
-/

namespace StreamConformance

/-- A subscriber on a workbench. -/
inductive SubscriberRef where
  | manual (number : Nat)
  /-- A subscriber under test. -/
  | actor (number : Nat)
  /-- A subscriber that reports to a probe and passes on to another one. -/
  | proxy (probe : Nat) (target : SubscriberRef)
  deriving DecidableEq, Inhabited

/-- A subscription on a workbench. -/
inductive SubscriptionRef where
  /-- The subscription of a manual publisher. -/
  | publisher (number : Nat)
  /-- A stream of a range publisher. -/
  | stream (range number : Nat)
  /-- A subscription on which calls do nothing. -/
  | inert
  | recording (number : Nat)
  | sentinel (number : Nat)
  deriving DecidableEq, Inhabited

/-- A puppet on a workbench. -/
inductive PuppetRef where
  /-- A puppet that passes what it is told to a subscription. -/
  | direct (s : SubscriptionRef)
  /-- A puppet of a subscriber under test. -/
  | owned (actor puppet : Nat)
  deriving DecidableEq, Inhabited

/-- A call on a recorded subscription. -/
inductive RecordedCall where
  | request (n : UInt64)
  | cancel
  deriving DecidableEq, Inhabited

/-- A subscriber under test with its state. -/
inductive Machine (α : Type) where
  | specimen (k : Specimen) (held : Option Nat)
  | scripted (state : Script.State α)

namespace Machine

variable {α : Type}

/-- The name of the subscriber in messages. -/
def name : Machine α → String
  | specimen k _ => k.subscriberName
  | scripted state => state.coming.name

/-- The reaction of the subscriber. -/
def react (s : Stimulus α) : Machine α → Reaction α (Machine α)
  | specimen k held =>
    let r := k.subject.react held s
    ⟨r.calls, r.panic, specimen k r.state⟩
  | scripted state =>
    let r := Script.react state s
    ⟨r.calls, r.panic, scripted r.state⟩

/-- The signals that a scripted subscriber has heard. -/
def heard : Machine α → List (Heard α)
  | specimen .. => []
  | scripted state => state.heard.toList

end Machine

/-! ### Objects -/

/-- A log with the configuration that goes with it. -/
structure Site where
  config : Config
  log : Log

/-- A manual publisher and the site that it belongs to. -/
structure PublisherObject where
  site : Nat
  state : ManualPublisher SubscriberRef

/-- A manual subscriber and the site that it belongs to. -/
structure ManualObject (α : Type) where
  site : Nat
  state : ManualSubscriber α SubscriptionRef

/-- A stream of a range publisher. -/
structure StreamObject where
  subscriber : SubscriberRef
  ledger : Range.Ledger
  emitter : Range.Emitter

/-- A range publisher of `count` elements, which are shown through `item`. -/
structure RangeObject (α : Type) where
  count : UInt64
  item : UInt64 → α
  registry : Range.Registry SubscriberRef
  streams : List StreamObject

/-- Where a probe finds the name of its subscriber. -/
inductive Naming where
  /-- It is the subscriber of a manual publisher. -/
  | ofPublisher (number : Nat)
  | ofSubscriber (s : SubscriberRef)
  | unknown
  deriving DecidableEq, Inhabited

/-- A probe and the site that it belongs to. -/
structure ProbeObject (α : Type) where
  site : Nat
  naming : Naming
  state : WhiteboxProbe α PuppetRef

/-- A subscriber under test, the subscriptions that it has been offered, and its probe. -/
structure ActorObject (α : Type) where
  machine : Machine α
  offers : List SubscriptionRef
  probe : Option Nat

/-- A sentinel and the site that it belongs to. -/
structure SentinelObject where
  site : Nat
  sentinel : Sentinel

/-- The objects of a test. -/
structure Workbench (α : Type) where
  /-- The marks of the test thread. -/
  marks : Marks
  sites : List Site
  publishers : List PublisherObject
  manuals : List (ManualObject α)
  ranges : List (RangeObject α)
  probes : List (ProbeObject α)
  actors : List (ActorObject α)
  recordings : List (Chronicle RecordedCall)
  sentinels : List SentinelObject
  /-- The number of errors made by the test so far. -/
  errors : Nat
  /-- The number of errors made by range publishers so far. -/
  rangeErrors : Nat

namespace Workbench

variable {α : Type}

/-- A workbench with one site. -/
def start (config : Config) : Workbench α where
  marks := []
  sites := [⟨config, .empty⟩]
  publishers := []
  manuals := []
  ranges := []
  probes := []
  actors := []
  recordings := []
  sentinels := []
  errors := 0
  rangeErrors := 0

/-! ### Sites and names -/

/-- The configuration of a site. -/
def config (b : Workbench α) (site : Nat) : Config :=
  (b.sites[site]?.map Site.config).getD .standard

/-- The bound of waits at a site. -/
def timeout (b : Workbench α) (site : Nat) : Duration := (b.config site).timeout

/-- The log of a site. -/
def logAt (b : Workbench α) (site : Nat) : Log :=
  (b.sites[site]?.map Site.log).getD .empty

/-- Records a violation at a site, if there is one. -/
def record (site : Nat) (v : Option Violation) (b : Workbench α) : Workbench α :=
  { b with sites := b.sites.modify site fun s => { s with log := s.log.recordAny v } }

/-- The name of a subscriber; a proxy has the name of its target. -/
def nameOf [Element α] (b : Workbench α) : SubscriberRef → String
  | .manual _ => ManualSubscriber.name α
  | .actor n => (b.actors[n]?.map (·.machine.name)).getD ""
  | .proxy _ target => b.nameOf target

/-- The name of the subscriber of a probe, if it is known. -/
def subjectName? [Element α] (b : Workbench α) : Naming → Option String
  | .ofPublisher n => (b.publishers[n]?.bind (·.state.subscriber.value)).map b.nameOf
  | .ofSubscriber s => some (b.nameOf s)
  | .unknown => none

/-- The name under which a probe speaks of its subscriber. -/
def subjectName [Element α] (b : Workbench α) (naming : Naming) : String :=
  (b.subjectName? naming).getD BlackboxProbe.unknownSubject

/-! ### Calls on subscriptions -/

/-- Changes the ledger of a stream. -/
def updateLedger (range number : Nat) (f : Range.Ledger → Range.Ledger) (b : Workbench α) :
    Workbench α :=
  { b with
    ranges := b.ranges.modify range fun o =>
      { o with streams := o.streams.modify number fun s => { s with ledger := f s.ledger } } }

/-- Adds a call to a recording. -/
def addCall (number : Nat) (c : RecordedCall) (b : Workbench α) : Workbench α :=
  { b with recordings := b.recordings.modify number (.add c) }

/-- The calls on a recorded subscription, in order. -/
def recorded (number : Nat) (b : Workbench α) : List RecordedCall :=
  (b.recordings[number]?.map Chronicle.toList).getD []

/-- A request on a subscription, made on a thread with the given marks. -/
def requestOn (marks : Marks) (n : UInt64) (b : Workbench α) : SubscriptionRef → Workbench α
  | .publisher p =>
    match b.publishers[p]? with
    | some o =>
      let r := o.state.request n
      ({ b with publishers := b.publishers.set p { o with state := r.2 } }).record o.site r.1
    | none => b
  | .stream range number => b.updateLedger range number (.request n)
  | .inert => b
  | .recording k => b.addCall k (.request n)
  | .sentinel k =>
    match b.sentinels[k]? with
    | some o => b.record o.site (o.sentinel.request marks)
    | none => b

/-- A cancellation of a subscription, made on a thread with the given marks. -/
def cancelOn (marks : Marks) (b : Workbench α) : SubscriptionRef → Workbench α
  | .publisher p =>
    { b with publishers := b.publishers.modify p fun o => { o with state := o.state.cancel } }
  | .stream range number => b.updateLedger range number .cancel
  | .inert => b
  | .recording k => b.addCall k .cancel
  | .sentinel k =>
    match b.sentinels[k]? with
    | some o => b.record o.site (o.sentinel.cancel marks)
    | none => b

/-! ### Reports to probes -/

/-- A report to a probe; `f` is given the name of the subscriber. -/
def report [Element α] (probe : Nat)
    (f : String → WhiteboxProbe α PuppetRef → Option Violation × WhiteboxProbe α PuppetRef)
    (b : Workbench α) : Workbench α :=
  match b.probes[probe]? with
  | some o =>
    let r := f (b.subjectName o.naming) o.state
    ({ b with probes := b.probes.set probe { o with state := r.2 } }).record o.site r.1
  | none => b

/-- The report of an element. -/
def reportNext [Element α] (probe : Nat) (a : α) (b : Workbench α) : Workbench α :=
  b.report probe fun name => WhiteboxProbe.report (BlackboxProbe.registerNext name a)

/-- The report of a completion. -/
def reportComplete [Element α] (probe : Nat) (b : Workbench α) : Workbench α :=
  b.report probe fun _ => WhiteboxProbe.report BlackboxProbe.registerComplete

/-- The report of an error. -/
def reportError [Element α] (probe : Nat) (e : StreamError) (b : Workbench α) : Workbench α :=
  b.report probe fun _ => WhiteboxProbe.report (BlackboxProbe.registerError e)

/-- The registration of a puppet. -/
def reportPuppet [Element α] (probe : Nat) (puppet : PuppetRef) (b : Workbench α) : Workbench α :=
  b.report probe fun name => WhiteboxProbe.registerPuppet name puppet

end Workbench

end StreamConformance
