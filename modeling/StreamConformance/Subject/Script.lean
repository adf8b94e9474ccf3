import StreamConformance.Chronicle
import StreamConformance.Demand
import StreamConformance.Subject.Basic

/-!
# Scripted subscribers

A scripted subscriber follows, for each kind of signal, a list of scripts: the first call of the
callback runs the first script, and so on; the last script is repeated. It remembers every signal
that it has heard.

## Main definitions

* `Action` — what a script can say.
* `Script`, `Script.State` — a scripted subscriber, and what it remembers.
* `Script.subject` — the subscriber that follows a script.
-/

namespace StreamConformance

/-- How a puppet turns what it is told into calls on its subscription. -/
inductive PuppetPlan where
  /-- Every call is made `times` times. -/
  | repeated (times : Nat)
  /-- The k-th request is multiplied by the k-th factor, the last factor being repeated; nothing is
  requested if that makes zero. A cancellation is made `cancels` times. -/
  | scaled (factors : List UInt64) (cancels : Nat)
  deriving DecidableEq, Inhabited

/-- What a script can say. The target of an action is a subscription; without a target the actions
that need one do nothing. -/
inductive Action (α : Type) where
  /-- Keeps the target as the current subscription. -/
  | keep
  /-- Requests on the target. -/
  | request (n : UInt64)
  /-- Cancels the target. -/
  | cancel
  /-- Actions whose target is the current subscription. -/
  | old (actions : List (Action α))
  /-- Actions on another thread, which is joined. -/
  | thread (actions : List (Action α))
  /-- A panic. -/
  | panic (p : Panic)
  /-- Registers a puppet of the target. -/
  | register (plan : PuppetPlan)
  /-- Reports an element: the given one, or the one received. -/
  | next (a : Option α)
  /-- Reports a completion. -/
  | complete
  /-- Reports an error: a new one, or the one received. -/
  | error (c : Option Cause)
  /-- Records a violation. -/
  | record (v : Violation)
  deriving Inhabited

/-- A signal that a scripted subscriber has heard. -/
inductive Heard (α : Type) where
  | onSubscribe
  | onNext (a : α)
  | onError (message : String)
  | onComplete
  deriving DecidableEq

/-- The scripts of a subscriber. -/
structure Script (α : Type) where
  name : String
  onSubscribe : List (List (Action α))
  onNext : List (List (Action α))
  onError : List (List (Action α))
  onComplete : List (List (Action α))

namespace Script

variable {α : Type}

/-- A puppet of a scripted subscriber: its subscription, its plan, and how often it has been told to
request. -/
structure Puppet where
  offer : Nat
  plan : PuppetPlan
  requests : Nat

/-- What a scripted subscriber remembers. -/
structure State (α : Type) where
  /-- The scripts for the signals to come. -/
  coming : Script α
  /-- The signals heard so far. -/
  heard : Chronicle (Heard α)
  /-- The current subscription. -/
  current : Option Nat
  /-- The puppets made so far. -/
  puppets : Array Puppet
  /-- The number of errors made so far. -/
  errors : Nat

/-- The memory of a subscriber that has heard nothing. -/
def State.start (script : Script α) : State α := ⟨script, .empty, none, #[], 0⟩

/-- The scripts of a subscriber that leave nothing out: it keeps and registers the first
subscription, cancels the others, and reports what it receives. -/
def standard (name : String) : Script α where
  name := name
  onSubscribe := [[.keep, .register (.repeated 1)], [.cancel]]
  onNext := [[.next none]]
  onError := [[.error none]]
  onComplete := [[.complete]]

/-- The script for the next signal, and the scripts for those after it; the last one stays. -/
def next : List (List (Action α)) → List (Action α) × List (List (Action α))
  | [] => ([], [])
  | [script] => (script, [script])
  | script :: rest => (script, rest)

/-- What an action refers to. -/
structure Scene (α : Type) where
  lane : Lane
  target : Option Nat
  /-- The element being received, if any. -/
  element : Option α
  /-- The error being received, if any. -/
  error : Option StreamError

/-- A script in progress. -/
structure Progress (α : Type) where
  calls : Chronicle (Lane × Call α)
  panic : Option Panic
  state : State α

namespace Progress

/-- Makes a call. -/
def call (lane : Lane) (c : Call α) (p : Progress α) : Progress α :=
  { p with calls := p.calls.add (lane, c) }

/-- Makes a call that needs something, if that is there. -/
def callWith {β : Type} (lane : Lane) (b : Option β) (c : β → Call α) (p : Progress α) :
    Progress α :=
  match b with
  | some b => p.call lane (c b)
  | none => p

/-- Registers a puppet of a subscription. -/
def register (lane : Lane) (plan : PuppetPlan) (offer : Nat) (p : Progress α) : Progress α :=
  let puppet : Puppet := ⟨offer, plan, 0⟩
  let s := { p.state with puppets := p.state.puppets.push puppet }
  { p with state := s }.call lane (.registerPuppet p.state.puppets.size)

/-- Reports a new error. -/
def newError (lane : Lane) (c : Cause) (p : Progress α) : Progress α :=
  let e : StreamError := ⟨⟨.subject, p.state.errors⟩, c⟩
  let s := { p.state with errors := p.state.errors + 1 }
  { p with state := s }.call lane (.registerError e)

end Progress

mutual

/-- Performs an action. -/
def perform (scene : Scene α) (p : Progress α) : Action α → Progress α
  | .keep =>
    match scene.target with
    | some t => { p with state := { p.state with current := some t } }
    | none => p
  | .request n => p.callWith scene.lane scene.target fun t => .request t n
  | .cancel => p.callWith scene.lane scene.target .cancel
  | .old actions => performAll { scene with target := p.state.current } p actions
  | .thread actions =>
    let p := performAll { scene with lane := .other } p actions
    { p with panic := p.panic.map fun _ => .ofThread }
  | .panic why => { p with panic := some why }
  | .register plan =>
    match scene.target with
    | some t => p.register scene.lane plan t
    | none => p
  | .next (some a) => p.call scene.lane (.registerNext a)
  | .next none => p.callWith scene.lane scene.element .registerNext
  | .complete => p.call scene.lane .registerComplete
  | .error (some c) => p.newError scene.lane c
  | .error none => p.callWith scene.lane scene.error .registerError
  | .record v => p.call scene.lane (.record v)

/-- Performs actions up to the first panic. -/
def performAll (scene : Scene α) (p : Progress α) : List (Action α) → Progress α
  | [] => p
  | a :: rest => if p.panic.isSome then p else performAll scene (perform scene p a) rest

end

/-- Hears a signal and runs the script for it. -/
def hear (signal : Heard α) (scene : Scene α) (script : List (Action α)) (s : State α) :
    Reaction α (State α) :=
  let p := performAll scene ⟨.empty, none, { s with heard := s.heard.add signal }⟩ script
  ⟨p.calls.toList, p.panic, p.state⟩

/-- The requests that a plan makes of the request for `n` elements after `count` earlier ones. -/
def planRequests (plan : PuppetPlan) (count : Nat) (n : UInt64) : List UInt64 :=
  match plan with
  | .repeated times => List.replicate times n
  | .scaled factors _ =>
    let factor := match factors[count]? with
      | some f => f
      | none => factors.getLast?.getD 0
    let product := Demand.times n factor
    if product = 0 then [] else [product]

/-- The number of cancellations that a plan makes of one. -/
def planCancels : PuppetPlan → Nat
  | .repeated times => times
  | .scaled _ cancels => cancels

/-- A puppet is told to request. -/
def trigger (puppet : Nat) (n : UInt64) (s : State α) : Reaction α (State α) :=
  match s.puppets[puppet]? with
  | none => ⟨[], none, s⟩
  | some p =>
    ⟨(planRequests p.plan p.requests n).map fun m => (.delivering, .request p.offer m), none,
      { s with puppets := s.puppets.set! puppet { p with requests := p.requests + 1 } }⟩

/-- A puppet is told to cancel. -/
def signalCancel (puppet : Nat) (s : State α) : Reaction α (State α) :=
  match s.puppets[puppet]? with
  | none => ⟨[], none, s⟩
  | some p => ⟨List.replicate (planCancels p.plan) (.delivering, .cancel p.offer), none, s⟩

/-- The reaction of a scripted subscriber. -/
def react (s : State α) : Stimulus α → Reaction α (State α)
  | .onSubscribe offer =>
    let (script, onSubscribe) := next s.coming.onSubscribe
    hear .onSubscribe ⟨.delivering, some offer, none, none⟩ script
      { s with coming := { s.coming with onSubscribe } }
  | .onNext a =>
    let (script, onNext) := next s.coming.onNext
    hear (.onNext a) ⟨.delivering, s.current, some a, none⟩ script
      { s with coming := { s.coming with onNext } }
  | .onError e =>
    let (script, onError) := next s.coming.onError
    hear (.onError e.message) ⟨.delivering, s.current, none, some e⟩ script
      { s with coming := { s.coming with onError } }
  | .onComplete =>
    let (script, onComplete) := next s.coming.onComplete
    hear .onComplete ⟨.delivering, s.current, none, none⟩ script
      { s with coming := { s.coming with onComplete } }
  | .triggerRequest puppet n => trigger puppet n s
  | .signalCancel puppet => signalCancel puppet s

/-- The subscriber that follows a script. -/
def subject (script : Script α) : Subject α (State α) where
  name := script.name
  start := .start script
  react := react

end Script

end StreamConformance
