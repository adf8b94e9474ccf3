import Mathlib.Data.List.Induction
import StreamConformance.Probe.Interleaving
import StreamConformance.Proofs.Places

/-!
# Calls on a shared probe

What a step of a call on a probe must have been if it leads somewhere: a call acquires one lock,
changes at most the part of the probe that the lock protects, and comes to its next point. The
messages of violations name the subject as it is known at the time, so that each step may speak of
another one.

## Main definitions

* `ReportCall.Fits` — which violations a call may be.
* `CallStep` — what a call does in one step.

## Main results

* `SharedProbe.of_advance` — a call that advances takes a step of these.
* `SharedProbe.trace_induction` — what every step keeps holds after every run.
* `SharedProbe.trace_alone` — what a call does that nobody interrupts.
-/

namespace StreamConformance

variable {α π : Type}

/-! ### Calls -/

namespace ReportCall

/-- The element that a call reports. -/
def element? : ReportCall α π → Option α
  | next a => some a
  | complete | error _ | puppet _ => none

/-- The terminal signal that a call reports. -/
def terminal? : ReportCall α π → Option Terminal
  | complete => some .complete
  | error _ => some .error
  | next _ | puppet _ => none

/-- The error that a call reports. -/
def error? : ReportCall α π → Option StreamError
  | error e => some e
  | next _ | complete | puppet _ => none

/-- The puppet that a call offers. -/
def puppet? : ReportCall α π → Option π
  | puppet p => some p
  | next _ | complete | error _ => none

/-- The kinds of fault that a call may be. -/
def faults : ReportCall α π → List Fault
  | next _ => [.protocol, .oversupply]
  | complete | error _ => [.doubleTerminal]
  | puppet _ => [.illegalResubscription]

/-- The violation is one that a call may be. -/
def Fits (c : ReportCall α π) (v : Violation) : Prop := ∃ f ∈ c.faults, ∃ text, v = .fault f text

/-- What a call does to a probe when nobody else calls, and the violation that it is. -/
def report [Element α] (subject : String) (c : ReportCall α π) (w : WhiteboxProbe α π) :
    Option Violation × WhiteboxProbe α π :=
  match c with
  | next a => w.report (BlackboxProbe.registerNext subject a)
  | complete => w.report BlackboxProbe.registerComplete
  | error e => w.report (BlackboxProbe.registerError e)
  | puppet p => w.registerPuppet subject p

end ReportCall

/-- Where a call has come when it has returned. -/
def CallProgress.outcome : Option Violation → CallProgress
  | some v => refused v
  | none => accepted

/-! ### Steps of a call -/

/-- What a call does in one step: the point where it stands and the probe before, the point and the
probe afterwards, and the violation that it records. -/
inductive CallStep [Element α] (subject : String) (isUnlocked : Bool) : ReportCall α π →
    CallProgress → WhiteboxProbe α π → CallProgress → WhiteboxProbe α π → Option Violation → Prop
  /-- The report of an element finds no error. -/
  | cleared {a : α} {w : WhiteboxProbe α π} (h : w.blackbox.error.value = none) :
    CallStep subject isUnlocked (.next a) .begun w .cleared w none
  /-- The report of an element finds an error. -/
  | barred {a : α} {w : WhiteboxProbe α π} (h : w.blackbox.error.isCompleted = true) :
    CallStep subject isUnlocked (.next a) .begun w
      (.objecting (BlackboxProbe.elementAfterError subject a) false) w none
  | queued {a : α} {w : WhiteboxProbe α π} {q : Queue α}
      (h : w.blackbox.elements.add a = (.ok (), q)) :
    CallStep subject isUnlocked (.next a) .cleared w .accepted
      { w with blackbox := { w.blackbox with elements := q } } none
  /-- The queue refuses an element. -/
  | unqueued {a : α} {w : WhiteboxProbe α π} {r : Refusal} {q : Queue α}
      (h : w.blackbox.elements.add a = (.error r, q)) :
    CallStep subject isUnlocked (.next a) .cleared w
      (.objecting (BlackboxProbe.elementRefused subject r) false) w none
  /-- The report of a terminal signal acquires the lock and comes first. -/
  | first {c : ReportCall α π} {t : Terminal} {w : WhiteboxProbe α π} (hc : c.terminal? = some t)
      (hunlocked : isUnlocked = true) (h : w.blackbox.terminal = none) :
    CallStep subject isUnlocked c .begun w .holding
      { w with blackbox := { w.blackbox with terminal := some t } } none
  /-- The report of a terminal signal acquires the lock and finds that another one has come
  first. -/
  | second {c : ReportCall α π} {t : Terminal} {w : WhiteboxProbe α π} {v : Violation}
      (hc : c.terminal? ≠ none) (hunlocked : isUnlocked = true)
      (h : w.blackbox.terminal = some t) (hv : c.Fits v) :
    CallStep subject isUnlocked c .begun w (.objecting v true) w none
  /-- The terminal signal that has come first takes effect. -/
  | concluded {c : ReportCall α π} {w : WhiteboxProbe α π} :
    CallStep subject isUnlocked c .holding w .accepted
      { w with blackbox := SharedProbe.conclude w.blackbox c } none
  | registered {p : π} {w : WhiteboxProbe α π} (h : w.puppet.value = none) :
    CallStep subject isUnlocked (.puppet p) .begun w .accepted { w with puppet := .completed p }
      none
  /-- A puppet is offered where there is one. -/
  | rejected {p : π} {w : WhiteboxProbe α π} (h : w.puppet.isCompleted = true) :
    CallStep subject isUnlocked (.puppet p) .begun w
      (.objecting (WhiteboxProbe.secondPuppet subject) false) w none
  | recorded {c : ReportCall α π} {w : WhiteboxProbe α π} {v : Violation} {holdsLock : Bool} :
    CallStep subject isUnlocked c (.objecting v holdsLock) w (.refused v) w (some v)

namespace SharedProbe

variable {s s' : SharedProbe α π} {subject : String} {call : Nat} {c : ReportCall α π}
  {progress : CallProgress}

theorem move_eq (hc : s.calls[call]? = some (c, progress)) (point : CallProgress)
    (blackbox : BlackboxProbe α) : s.move call point blackbox =
      { s with probe := { s.probe with blackbox }, calls := s.calls.set call (c, point) } := by
  rw [move, Places.modify_eq_set hc]

/-- The report of a terminal signal that acquires the lock comes first or second. -/
theorem of_acquire [Element α] (subject : String) {mine : Terminal}
    {objection : Terminal → Violation} (hc : s.calls[call]? = some (c, .begun))
    (hterminal : c.terminal? = some mine) (hfits : ∀ t, c.Fits (objection t))
    (h : s.acquire call mine objection = some s') :
    ∃ point w, CallStep subject s.isUnlocked c .begun s.probe point w none ∧
      s' = { s with probe := w, calls := s.calls.set call (c, point) } := by
  unfold acquire at h
  split at h
  next hunlocked =>
    split at h
    next t ht =>
      refine ⟨_, s.probe, .second (by simp [hterminal]) hunlocked ht (hfits t), ?_⟩
      rw [← Option.some.inj h, move_eq hc]
    next ht =>
      refine ⟨_, _, .first hterminal hunlocked ht, ?_⟩
      rw [← Option.some.inj h, move_eq hc]
  next => simp at h

theorem of_look [Element α] (subject : String) {a : α}
    (hc : s.calls[call]? = some (.next a, .begun)) :
    ∃ point, CallStep subject s.isUnlocked (.next a) .begun s.probe point s.probe none ∧
      s.look subject call a = { s with calls := s.calls.set call (.next a, point) } := by
  unfold look
  split
  next h => exact ⟨_, .barred h, move_eq hc _ _⟩
  next h => exact ⟨_, .cleared (by simpa [Promise.isCompleted] using h), move_eq hc _ _⟩

theorem of_queue [Element α] (subject : String) {a : α}
    (hc : s.calls[call]? = some (.next a, .cleared)) :
    ∃ point w, CallStep subject s.isUnlocked (.next a) .cleared s.probe point w none ∧
      s.queue subject call a =
        { s with probe := w, calls := s.calls.set call (.next a, point) } := by
  unfold queue BlackboxProbe.queueElement
  rcases hadd : s.probe.blackbox.elements.add a with ⟨r | ⟨⟩, q⟩
  · exact ⟨_, _, .unqueued hadd, move_eq hc _ _⟩
  · exact ⟨_, _, .queued hadd, move_eq hc _ _⟩

theorem of_offer [Element α] (subject : String) {p : π}
    (hc : s.calls[call]? = some (.puppet p, .begun)) :
    ∃ point w, CallStep subject s.isUnlocked (.puppet p) .begun s.probe point w none ∧
      s.offer subject call p =
        { s with probe := w, calls := s.calls.set call (.puppet p, point) } := by
  unfold offer WhiteboxProbe.registerPuppet Promise.complete
  by_cases h : s.probe.puppet.isCompleted
  · simp only [h, if_true]
    exact ⟨_, _, .rejected h, move_eq hc _ _⟩
  · simp only [h, Bool.false_eq_true, if_false]
    exact ⟨_, _, .registered (by simpa [Promise.isCompleted] using h),
      move_eq (s := ⟨{ s.probe with puppet := .completed p }, s.log, s.calls⟩) hc _ _⟩

/-- A call that advances takes a step. -/
theorem of_advance [Element α] (h : s.advance subject call = some s') :
    ∃ c progress point w v, s.calls[call]? = some (c, progress) ∧
      CallStep subject s.isUnlocked c progress s.probe point w v ∧
      s' = ⟨w, s.log.recordAny v, s.calls.set call (c, point)⟩ := by
  unfold advance at h
  split at h
  next => simp at h
  next c progress hc =>
    split at h
    next =>
      split at h
      next a =>
        obtain ⟨point, hstep, hs⟩ := of_look subject hc
        exact ⟨_, _, point, _, _, hc, hstep, (Option.some.inj h).symm.trans hs⟩
      next =>
        obtain ⟨point, w, hstep, hs⟩ := of_acquire subject hc rfl
          (fun t => by cases t <;> exact ⟨_, .head _, _, rfl⟩) h
        exact ⟨_, _, point, w, _, hc, hstep, hs⟩
      next e =>
        obtain ⟨point, w, hstep, hs⟩ := of_acquire subject hc rfl
          (fun t => by cases t <;> exact ⟨_, .head _, _, rfl⟩) h
        exact ⟨_, _, point, w, _, hc, hstep, hs⟩
      next p =>
        obtain ⟨point, w, hstep, hs⟩ := of_offer subject hc
        exact ⟨_, _, point, w, _, hc, hstep, (Option.some.inj h).symm.trans hs⟩
    next =>
      split at h
      next a =>
        obtain ⟨point, w, hstep, hs⟩ := of_queue subject hc
        exact ⟨_, _, point, w, _, hc, hstep, (Option.some.inj h).symm.trans hs⟩
      all_goals simp at h
    next => exact ⟨_, _, _, _, _, hc, .concluded, (Option.some.inj h).symm.trans (move_eq hc _ _)⟩
    next v holdsLock =>
      exact ⟨_, _, _, _, _, hc, .recorded,
        (Option.some.inj h).symm.trans (move_eq (s := ⟨s.probe, s.log.record v, s.calls⟩) hc _ _)⟩
    all_goals simp at h

/-! ### Runs -/

theorem trace_append [Element α] (s : SharedProbe α π)
    (labels more : List (String × ProbeLabel α π)) :
    s.trace (labels ++ more) = (s.trace labels).bind fun q => q.trace more :=
  List.foldlM_append ..

/-- What holds at first, and is kept by every step, holds after every run. -/
theorem trace_induction [Element α] {motive : SharedProbe α π → Prop} (start : motive s)
    (step : ∀ q subject l q', motive q → q.step subject l = some q' → motive q')
    {labels : List (String × ProbeLabel α π)} (hrun : s.trace labels = some s') : motive s' := by
  induction labels using List.reverseRecOn generalizing s' with
  | nil =>
    obtain rfl := Option.some.inj hrun
    exact start
  | append_singleton labels l ih =>
    rw [trace_append] at hrun
    obtain ⟨q, hq, hlast⟩ := Option.bind_eq_some_iff.mp hrun
    refine step q l.1 l.2 s' (ih hq) ?_
    simpa [trace] using hlast

/-! ### Calls that nobody interrupts -/

section Alone

variable [Element α] (subject : String) (w : WhiteboxProbe α π) (log : Log)
  {calls : List (ReportCall α π × CallProgress)}

omit [Element α] in
theorem move_last (point : CallProgress) (blackbox : BlackboxProbe α) :
    move ⟨w, log, calls ++ [(c, progress)]⟩ calls.length point blackbox =
      ⟨{ w with blackbox }, log, calls ++ [(c, point)]⟩ := by
  rw [move_eq List.getElem?_concat_length]
  simp

omit [Element α] in
theorem isUnlocked_begin (h : calls.all (!·.2.holdsLock) = true) :
    isUnlocked (⟨w, log, calls ++ [(c, .begun)]⟩ : SharedProbe α π) = true := by
  simpa [isUnlocked, CallProgress.holdsLock] using h

/-- A call that nobody interrupts reports as if nobody else called. -/
theorem trace_alone (hfree : calls.all (!·.2.holdsLock) = true) :
    ∃ steps, trace ⟨w, log, calls⟩ ((subject, .begin c) ::
        List.replicate steps (subject, .advance calls.length)) =
      some ⟨(c.report subject w).2, log.recordAny (c.report subject w).1,
        calls ++ [(c, .outcome (c.report subject w).1)]⟩ := by
  have hbegun (w : WhiteboxProbe α π) := isUnlocked_begin w log hfree (c := c)
  cases c with
  | next a =>
    by_cases herror : w.blackbox.error.isCompleted = true
    · refine ⟨2, ?_⟩
      simp [trace, step, List.replicate, advance, look, move_last, herror, ReportCall.report,
        WhiteboxProbe.report, BlackboxProbe.registerNext, CallProgress.outcome, Log.recordAny]
    · rcases hadd : w.blackbox.elements.add a with ⟨r | ⟨⟩, q⟩
      on_goal 1 => refine ⟨3, ?_⟩
      on_goal 2 => refine ⟨2, ?_⟩
      all_goals
        simp [trace, step, List.replicate, advance, look, queue, move_last, herror, hadd,
          ReportCall.report, WhiteboxProbe.report, BlackboxProbe.registerNext,
          BlackboxProbe.queueElement, CallProgress.outcome, Log.recordAny]
  | complete | error =>
    refine ⟨2, ?_⟩
    cases hterminal : w.blackbox.terminal <;>
      simp [trace, step, List.replicate, advance, acquire, hbegun, hterminal, move_last, conclude,
        ReportCall.report, WhiteboxProbe.report, BlackboxProbe.registerComplete,
        BlackboxProbe.registerError, CallProgress.outcome, Log.recordAny]
  | puppet x =>
    by_cases hpuppet : w.puppet.isCompleted = true
    on_goal 1 => refine ⟨2, ?_⟩
    on_goal 2 => refine ⟨1, ?_⟩
    all_goals
      simp [trace, step, List.replicate, advance, offer, move_last, hpuppet, Promise.complete,
        ReportCall.report, WhiteboxProbe.registerPuppet, CallProgress.outcome, Log.recordAny]

end Alone

end SharedProbe

end StreamConformance
