import StreamConformance.Query
import StreamConformance.Stage

/-!
# Rehearsals

A rehearsal is a stage in the hands of a test that decides step by step what happens on it. It may
be set like the stage of a scenario, or left empty; further subjects can be created, and whatever is
done, the stage cancels the tees that it holds when it is closed.

## Main definitions

* `Rehearsal`, `Rehearsal.Program` — a stage with its subjects, and the programs on it.
* `Rehearsal.open`, `Rehearsal.close` — the beginning and the end.
* `Rehearsal.signalNext`, `Rehearsal.askProbe`, `Rehearsal.tryHelper` and so on — the steps.
-/

namespace StreamConformance

/-- A subject on a stage, with the subscriptions that it has been offered and its probe. -/
structure Actor (α σ : Type) where
  subject : σ
  offers : List Target
  probe : WhiteboxProbe α Nat

/-- A stage and its subjects. -/
structure Rehearsal (α σ η : Type) where
  run : Run α σ η
  /-- The subjects, in the order of their creation. -/
  actors : List (Actor α σ)
  /-- The subject that the stage was set with. -/
  own : Option Nat
  /-- The subject created last by the test. -/
  created : Option Nat
  /-- Whether the stage holds a tees. -/
  hasTees : Bool
  /-- The number of errors made by the test so far. -/
  errors : Nat

namespace Rehearsal

variable {α σ η ρ : Type}

/-- Programs on a rehearsal. -/
abbrev Program (α σ η : Type) := ExceptT Halt (StateM (Rehearsal α σ η))

/-- A rehearsal on an empty stage. -/
def empty (v : Verification α σ η) : Rehearsal α σ η := ⟨Run.start v [], [], none, none, false, 0⟩

/-- A fresh subject. -/
def freshActor (v : Verification α σ η) : Actor α σ :=
  ⟨v.subject.start, [], .empty v.config.capacity⟩

/-! ### Parts of a rehearsal -/

/-- A program on the run, whichever subject is there. -/
def onRun (p : Play α σ η ρ) : Program α σ η ρ :=
  ExceptT.mk fun s =>
    let d := p.run s.run
    (d.1, { s with run := d.2 })

/-- Puts a subject into a run. -/
def bring (a : Actor α σ) (r : Run α σ η) : Run α σ η :=
  { r with subject := a.subject, offers := a.offers, probe := a.probe }

/-- The subject that is in a run. -/
def current (r : Run α σ η) : Actor α σ := ⟨r.subject, r.offers, r.probe⟩

/-- A program on the run with one of the subjects. -/
def onActor (v : Verification α σ η) (number : Nat) (p : Play α σ η ρ) : Program α σ η ρ :=
  ExceptT.mk fun s =>
    let a := (s.actors[number]?).getD (freshActor v)
    let d := p.run (bring a s.run)
    (d.1, { s with run := d.2, actors := s.actors.set number (current d.2) })

/-- A program on the run with the subject that is subscribed to the publisher. -/
def onSubscriber (v : Verification α σ η) (p : Play α σ η ρ) : Program α σ η ρ := do
  onActor v ((← get).run.publisher.subscriber.value.getD 0) p

/-- The subject that the stage was set with. -/
def ownActor : Program α σ η Nat := do
  match (← get).own with
  | some n => return n
  | none => throw (.violation (.protocol "stage has no probe (created without setup)"))

/-- The subject whose probe is asked: the one created last, or the one of the stage. -/
def probedActor : Program α σ η Nat := do
  match (← get).created with
  | some n => return n
  | none => ownActor

/-- The subject that is meant directly: the one created last, or the one subscribed. -/
def addressedActor : Program α σ η (Option Nat) := do
  let s ← get
  return s.created <|> s.run.publisher.subscriber.value

/-- Insists that the stage holds a tees. -/
def requireTees : Program α σ η Unit := do
  if !(← get).hasTees then
    throw (.violation (.protocol "stage has no tees (created without setup)"))

/-! ### The beginning and the end -/

variable [Element α]

omit [Element α] in
/-- Adds a fresh subject; its number. -/
def addActor (v : Verification α σ η) : Program α σ η Nat := do
  onRun Stage.createSubject
  modifyGet fun s => (s.actors.length, { s with actors := s.actors ++ [freshActor v] })

/-- Sets the stage like that of a scenario, or leaves it empty. Of a panic that comes meanwhile only
a fixed text is told. -/
def «open» (v : Verification α σ η) (withSetup : Bool) : Program α σ η Unit :=
  ExceptT.adapt Halt.fixedOnly do
    onRun (Stage.reserve v)
    if withSetup then
      onRun (Stage.subscribeTees v (Stage.helper v))
      modify fun s => { s with hasTees := true }
      let n ← addActor v
      modify fun s => { s with own := some n }
      onActor v n (Stage.wireSubject v n)

omit [Element α] in
/-- The stage cancels the tees that it holds. -/
def close (v : Verification α σ η) (s : Rehearsal α σ η) : Rehearsal α σ η :=
  if s.hasTees then { s with run := s.run.cancelTees (Stage.helper v) } else s

/-! ### Subjects -/

/-- Creates a subject with a probe of its own. -/
def createSubject (v : Verification α σ η) : Program α σ η Unit := do
  onRun (Stage.reserve v)
  let n ← addActor v
  modify fun s => { s with created := some n }

/-- Subscribes a subject to the publisher, which accepts only one. -/
def subscribeSubject (v : Verification α σ η) : Program α σ η Unit := do
  match ← addressedActor with
  | some n => onActor v n (Play.orPanic (Run.subscribeSubject v n))
  | none => return

/-- Delivers a signal straight to a subject. -/
def deliver (v : Verification α σ η) (s : Stimulus α) : Program α σ η Unit := do
  match ← addressedActor with
  | some n => onActor v n (Play.orPanic (Run.deliver v s))
  | none => return

/-- Offers a recorded subscription straight to a subject. -/
def offerRecording (v : Verification α σ η) (number : Nat) : Program α σ η Unit := do
  match ← addressedActor with
  | some n => onActor v n (Play.orPanic (Run.offer v (.recording number)))
  | none => return

omit [Element α] in
/-- A new error. -/
def newError (c : Cause) : Program α σ η StreamError :=
  modifyGet fun s => (⟨⟨.harness, s.errors⟩, c⟩, { s with errors := s.errors + 1 })

/-! ### The stage -/

omit [Element α] in
/-- Pulls the next element from the helper. -/
def pull (v : Verification α σ η) : Program α σ η α := do
  requireTees
  onRun (Stage.pull v)

/-- Pulls the next element and sends it to the subscriber of the publisher. -/
def signalNext (v : Verification α σ η) : Program α σ η α := do
  requireTees
  onSubscriber v (Stage.signalNext v)

/-- Sends a signal to the subscriber of the publisher. -/
def send (v : Verification α σ η) (s : Stimulus α) : Program α σ η Unit :=
  onSubscriber v
    (match s with
    | .onNext a => Stage.sendNext v a
    | .onError e => Stage.sendError v e
    | .onComplete => Stage.sendCompletion v
    | s => Play.orPanic (Run.deliver v s))

/-- Tells the puppet of the stage to request or to cancel. -/
def pullPuppet (v : Verification α σ η) (n : Option UInt64) : Program α σ η Unit := do
  onActor v (← ownActor) do
    let puppet ← Stage.puppet v
    match n with
    | some n => Stage.triggerRequest v puppet n
    | none => Stage.signalCancel v puppet

/-- Waits until the subject of the stage is quiet. -/
def awaitQuiet (v : Verification α σ η) : Program α σ η Nat := do
  onActor v (← ownActor) (Stage.awaitQuiet v)

/-- Tries a fresh helper of `count` elements with a tees of its own, from which `take` elements are
requested, and cancels it. -/
def tryHelper (v : Verification α σ η) (count : UInt64) (take : Nat) :
    Program α σ η (List (Except Violation α)) := onRun do
  let before ← get
  let h := v.helper count
  let trial : Play α σ η (List (Except Violation α)) := do
    set { before with helper := h.start, tees := .empty v.config.capacity }
    Stage.subscribeTees v h
    let results ← (List.range take).mapM fun _ => requestOutcome h
    modify (Run.cancelTees h)
    return results
  trial.ensuring fun r => { r with helper := before.helper, tees := before.tees }
where
  /-- What comes of requesting one element. -/
  requestOutcome (h : Helper α η) : Play α σ η (Except Violation α) := do
    match (← get).tees.subscriptionFor 1 with
    | .error x => return .error x
    | .ok k =>
      Play.orPanic (Run.requestTees h k 1)
      Play.outcome (Stage.onTees (ManualSubscriber.expectElement v.timeout))

/-! ### Questions -/

omit [Element α] in
/-- Asks the log. -/
def askLog (q : LogQuery) : Program α σ η (Reply α) :=
  onRun (Play.orViolation fun r =>
    let d := q.answer r.log
    (d.1, { r with log := d.2 }))

omit [Element α] in
/-- Asks the publisher of the stage. -/
def askPublisher (v : Verification α σ η) (q : PublisherQuery) : Program α σ η (Reply α) :=
  onRun (Play.orViolation fun r =>
    let d := q.answer v.timeout (fun _ => v.subject.name) r.publisher
    (d.1, { r with publisher := d.2 }))

/-- Asks the tees. -/
def askTees (v : Verification α σ η) (q : SubscriberQuery) : Program α σ η (Reply α) := do
  requireTees
  onRun (Play.orViolation fun r =>
    let d := q.answer v.timeout r.tees
    (d.1, { r with tees := d.2 }))

omit [Element α] in
/-- The tees requests. -/
def requestTees (v : Verification α σ η) (n : UInt64) : Program α σ η Unit := do
  requireTees
  onRun do
    let k ← Play.ask fun r => r.tees.subscriptionFor n
    Play.orPanic (Run.requestTees (Stage.helper v) k n)

omit [Element α] in
/-- The tees cancels what it holds. -/
def cancelTees (v : Verification α σ η) : Program α σ η Unit := do
  requireTees
  onRun (modify (Run.cancelTees (Stage.helper v)))

/-- Asks a probe. -/
def askProbe (v : Verification α σ η) (q : ProbeQuery α) : Program α σ η (Reply α) := do
  onActor v (← probedActor) (Play.orViolation fun r =>
    let d := q.answer v.timeout (r.subjectName? v) r.probe
    (d.1, { r with probe := d.2 }))

/-- Reports to a probe as a subject would. -/
def reportToProbe (v : Verification α σ η) (c : Call α) : Program α σ η Unit := do
  onActor v (← probedActor) (modify fun r => r.perform v .delivering c)

/-- Tells the puppet of a probe to request or to cancel; says whether there is one. -/
def pullProbe (v : Verification α σ η) (n : Option UInt64) : Program α σ η Bool := do
  onActor v (← probedActor) do
    match (← get).probe.puppet.value with
    | none => return false
    | some puppet =>
      match n with
      | some n => Stage.triggerRequest v puppet n
      | none => Stage.signalCancel v puppet
      return true

/-! ### What has been seen -/

omit [Element α] in
/-- The calls on a recorded subscription: the number of elements requested, or nothing for a
cancellation. -/
def recorded (number : Nat) (s : Rehearsal α σ η) : List (Option UInt64) :=
  s.run.history.filterMap fun
    | .requested (.recording k) _ n => if k = number then some (some n) else none
    | .cancelled (.recording k) _ => if k = number then some none else none
    | _ => none

end Rehearsal

end StreamConformance
