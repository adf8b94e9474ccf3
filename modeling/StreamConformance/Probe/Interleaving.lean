import StreamConformance.Log
import StreamConformance.Probe.Whitebox

/-!
# Interleavings of reports

Several threads may report to one probe at the same time. This module lets their calls take turns in
any order: each step of a call is what it does between two acquisitions of a lock. A report of a
terminal signal holds the lock on the terminal signal from its first step to its last.

## Main definitions

* `ReportCall`, `CallProgress` — a call, and how far it has come.
* `SharedProbe`, `SharedProbe.step` — a probe with the calls made on it, and what the next step
  does.
* `SharedProbe.trace` — a whole run.
-/

namespace StreamConformance

/-- A call on a probe. -/
inductive ReportCall (α π : Type) where
  | next (a : α)
  | complete
  | error (e : StreamError)
  | puppet (p : π)

/-- How far a call has come. -/
inductive CallProgress where
  | begun
  /-- The report of an element has found no error. -/
  | cleared
  /-- The report of a terminal signal has come first; its effect is outstanding. -/
  | holding
  /-- There is a violation to record; the call may hold the lock on the terminal signal. -/
  | objecting (v : Violation) (holdsLock : Bool)
  | accepted
  /-- The call has recorded a violation. -/
  | refused (v : Violation)
  deriving DecidableEq, Inhabited

namespace CallProgress

/-- Whether the call holds the lock on the terminal signal. -/
def holdsLock : CallProgress → Bool
  | holding => true
  | objecting _ b => b
  | begun | cleared | accepted | refused _ => false

/-- Whether the call has returned. -/
def isOver : CallProgress → Bool
  | accepted | refused _ => true
  | begun | cleared | holding | objecting .. => false

end CallProgress

/-- A probe, the log, and the calls made on the probe so far, in the order of their beginning. -/
structure SharedProbe (α π : Type) where
  probe : WhiteboxProbe α π
  log : Log
  calls : List (ReportCall α π × CallProgress)

/-- Who does the next thing. -/
inductive ProbeLabel (α π : Type) where
  /-- A thread begins a call. -/
  | begin (c : ReportCall α π)
  /-- The call with this number takes a step. -/
  | advance (call : Nat)

namespace SharedProbe

variable {α π : Type}

/-- A probe without reports. -/
def start (capacity : Nat) : SharedProbe α π := ⟨.empty capacity, .empty, []⟩

/-- Whether nobody holds the lock on the terminal signal. -/
def isUnlocked (s : SharedProbe α π) : Bool := s.calls.all (!·.2.holdsLock)

/-- A call comes to a point, and leaves a record of reports. -/
def move (s : SharedProbe α π) (call : Nat) (point : CallProgress)
    (blackbox : BlackboxProbe α) : SharedProbe α π :=
  { s with
    probe := { s.probe with blackbox }
    calls := s.calls.modify call fun c => (c.1, point) }

/-- A report of a terminal signal acquires the lock, if it is free, and looks whether it comes
first. -/
def acquire (s : SharedProbe α π) (call : Nat) (mine : Terminal)
    (objection : Terminal → Violation) : Option (SharedProbe α π) :=
  if s.isUnlocked then
    match s.probe.blackbox.terminal with
    | some t => some (s.move call (.objecting (objection t) true) s.probe.blackbox)
    | none => some (s.move call .holding { s.probe.blackbox with terminal := some mine })
  else none

/-- A report of an element looks for an error. -/
def look [Element α] (subject : String) (s : SharedProbe α π) (call : Nat) (a : α) :
    SharedProbe α π :=
  s.move call
    (if s.probe.blackbox.error.isCompleted then
      .objecting (BlackboxProbe.elementAfterError subject a) false
    else .cleared)
    s.probe.blackbox

/-- A report of an element queues it. -/
def queue [Element α] (subject : String) (s : SharedProbe α π) (call : Nat) (a : α) :
    SharedProbe α π :=
  match s.probe.blackbox.queueElement subject a with
  | (none, b) => s.move call .accepted b
  | (some v, b) => s.move call (.objecting v false) b

/-- A puppet is offered. -/
def offer (subject : String) (s : SharedProbe α π) (call : Nat) (p : π) : SharedProbe α π :=
  match s.probe.registerPuppet subject p with
  | (none, probe) => { s with probe }.move call .accepted probe.blackbox
  | (some v, _) => s.move call (.objecting v false) s.probe.blackbox

/-- The effect of a terminal signal that has come first. -/
def conclude (b : BlackboxProbe α) : ReportCall α π → BlackboxProbe α
  | .complete => { b with elements := b.elements.complete.2 }
  | .error e => { b with error := (b.error.complete e).2 }
  | .next _ | .puppet _ => b

/-- The call with a number takes a step, if it can. Messages speak of `subject`. -/
def advance [Element α] (subject : String) (s : SharedProbe α π) (call : Nat) :
    Option (SharedProbe α π) :=
  match s.calls[call]? with
  | none => none
  | some (c, progress) =>
    match progress with
    | .begun =>
      match c with
      | .next a => some (s.look subject call a)
      | .complete => s.acquire call .complete BlackboxProbe.completeAfter
      | .error _ => s.acquire call .error BlackboxProbe.errorAfter
      | .puppet p => some (s.offer subject call p)
    | .cleared =>
      match c with
      | .next a => some (s.queue subject call a)
      | .complete | .error _ | .puppet _ => none
    | .holding => some (s.move call .accepted (conclude s.probe.blackbox c))
    | .objecting v _ =>
      some ({ s with log := s.log.record v }.move call (.refused v) s.probe.blackbox)
    | .accepted | .refused _ => none

/-- What comes of the next thing, if it can be done. -/
def step [Element α] (subject : String) (s : SharedProbe α π) :
    ProbeLabel α π → Option (SharedProbe α π)
  | .begin c => some { s with calls := s.calls ++ [(c, .begun)] }
  | .advance call => s.advance subject call

/-- What comes of one thing after the other, if all can be done. Each of them names the subject as
it is known at the time. -/
def trace [Element α] (s : SharedProbe α π) (labels : List (String × ProbeLabel α π)) :
    Option (SharedProbe α π) :=
  labels.foldlM (fun s l => s.step l.1 l.2) s

end SharedProbe

end StreamConformance
