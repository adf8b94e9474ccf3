import Mathlib.Data.List.Induction
import Mathlib.Data.List.TakeWhile
import StreamConformance.Proofs.Manual.Subscriber

/-!
# The signal record of the manual subscriber

A manual subscriber keeps the end of the stream in its queue and the error in a cell of its own, and
each of the two refuses only what it has accepted itself. So a completion and an error are both
accepted, whichever comes first, and an element is refused behind a completion, but not behind an
error.

## Main definitions

* `Incoming` — what a subscriber receives.
* `Incoming.objection?` — the violation of a signal, by the signals before it.
* `SignalRecord` — a manual subscriber with all that has been objected to.
* `SignalRecord.Shows` — what is in the record after some signals.

## Main results

* `SignalRecord.explained_run` — what a record shows, and what is objected to the next signal,
  whatever is received.
-/

namespace StreamConformance

/-- Whether the violation is a fault of a kind. -/
def Violation.isOf (f : Fault) : Violation → Bool
  | .fault g _ => g == f
  | .timeout .. | .async _ => false

variable {α ι : Type}

/-! ### Signals -/

/-- What a subscriber of elements of type `α` receives; subscriptions are of type `ι`. -/
inductive Incoming (α ι : Type) where
  | offer (s : ι)
  | next (a : α)
  | error (e : StreamError)
  | complete
  deriving DecidableEq

namespace Incoming

/-- The element, if it is one. -/
def element? : Incoming α ι → Option α
  | next a => some a
  | offer _ | error _ | complete => none

/-- The error, if it is one. -/
def error? : Incoming α ι → Option StreamError
  | error e => some e
  | offer _ | next _ | complete => none

/-- Whether it is the completion. -/
def isCompletion : Incoming α ι → Bool
  | complete => true
  | offer _ | next _ | error _ => false

/-- Whether it is an error. -/
def isError (s : Incoming α ι) : Bool := s.error?.isSome

/-- What comes before the first completion. -/
def uncompleted (signals : List (Incoming α ι)) : List (Incoming α ι) :=
  signals.takeWhile (!·.isCompletion)

/-- The violation of a signal that comes behind others, where there is room for `capacity`
elements. -/
def objection? (capacity : Nat) (before : List (Incoming α ι)) : Incoming α ι → Option Violation
  | offer _ => none
  | next _ =>
    if before.any isCompletion then some (ManualSubscriber.elementRefused .alreadyCompleted)
    else if capacity ≤ (before.filterMap element?).length then
      some (ManualSubscriber.elementRefused (.overflow capacity))
    else none
  | error _ => if before.any isError then some ManualSubscriber.secondError else none
  | complete => if before.any isCompletion then some ManualSubscriber.secondCompletion else none

variable {before : List (Incoming α ι)}

theorem uncompleted_of_open (h : before.any isCompletion = false) :
    uncompleted before = before := by
  refine List.takeWhile_eq_self_iff.mpr fun s hs => ?_
  simpa using List.any_eq_false.mp h s hs

/-- Nothing that comes behind a completion comes before the first one. -/
theorem uncompleted_append_of_completed (h : before.any isCompletion = true)
    (after : List (Incoming α ι)) : uncompleted (before ++ after) = uncompleted before := by
  rw [uncompleted, List.takeWhile_append, if_neg, uncompleted]
  intro hlength
  have hall := List.takeWhile_eq_self_iff.mp ((List.takeWhile_prefix _).eq_of_length hlength)
  obtain ⟨s, hs, hcompletion⟩ := List.any_eq_true.mp h
  simpa [hcompletion] using hall s hs

theorem any_isError (signals : List (Incoming α ι)) :
    signals.any isError = (signals.findSome? error?).isSome := by
  induction signals with
  | nil => rfl
  | cons s signals ih => cases hs : s.error? <;> simp [isError, hs, ih]

theorem uncompleted_append_of_open (h : before.any isCompletion = false) (s : Incoming α ι) :
    uncompleted (before ++ [s]) = before ++ if s.isCompletion then [] else [s] := by
  rw [uncompleted, List.takeWhile_append_of_pos fun s hs => by
    simpa using List.any_eq_false.mp h s hs]
  cases hs : s.isCompletion <;> simp [hs]

/-- Behind others, one more of a kind is a repetition if there has been one before. -/
theorem repeats_concat (P : Incoming α ι → Bool) (before : List (Incoming α ι)) (s : Incoming α ι) :
    (before ++ [s]).countP P - 1 =
      (before.countP P - 1) + if P s && before.any P then 1 else 0 := by
  have hany : before.any P = decide (0 < before.countP P) := by
    rw [Bool.eq_iff_iff, decide_eq_true_iff, List.any_eq_true, List.countP_pos_iff]
  rw [List.countP_append, List.countP_singleton, hany]
  cases P s
  · simp
  · by_cases hpos : 0 < before.countP P
    · simp only [hpos, decide_true, Bool.and_self, if_true]
      omega
    · simp only [hpos, decide_false, Bool.and_false, if_true, Bool.false_eq_true, if_false]
      omega

/-- A terminal signal is objected to as such if there has been one of its kind. -/
theorem countP_objection? (capacity : Nat) (before : List (Incoming α ι)) (s : Incoming α ι) :
    (s.objection? capacity before).toList.countP (Violation.isOf .doubleTerminal) =
      (if s.isError && before.any isError then 1 else 0) +
        if s.isCompletion && before.any isCompletion then 1 else 0 := by
  cases s with
  | offer => rfl
  | next a =>
    simp only [objection?]
    split
    · rfl
    · split <;> rfl
  | error e => cases h : before.any isError <;> simp [objection?, h, isError, error?, isCompletion,
      Violation.isOf, ManualSubscriber.secondError]
  | complete => cases h : before.any isCompletion <;> simp [objection?, h, isError, error?,
      isCompletion, Violation.isOf, ManualSubscriber.secondCompletion]

end Incoming

/-! ### Records -/

/-- A manual subscriber with all that has been objected to what it has received. -/
structure SignalRecord (α ι : Type) where
  subscriber : ManualSubscriber α ι
  log : List Violation

namespace SignalRecord

open Incoming

/-- A subscriber that has received nothing. -/
def start (capacity : Nat) : SignalRecord α ι := ⟨.empty capacity, []⟩

/-- Keeps the state of the subscriber, and the violation if there is one. -/
def store (r : SignalRecord α ι) (d : Option Violation × ManualSubscriber α ι) :
    SignalRecord α ι :=
  ⟨d.2, r.log ++ d.1.toList⟩

/-- The subscriber receives a signal. -/
def hear (r : SignalRecord α ι) : Incoming α ι → SignalRecord α ι
  | .offer s => { r with subscriber := (r.subscriber.onSubscribe s).2 }
  | .next a => r.store (r.subscriber.onNext a)
  | .error e => r.store (r.subscriber.onError e)
  | .complete => r.store r.subscriber.onComplete

/-- A fresh subscriber with room for `capacity` elements receives signals, one after the other. -/
def run (capacity : Nat) (signals : List (Incoming α ι)) : SignalRecord α ι :=
  signals.foldl hear (start capacity)

theorem run_append (capacity : Nat) (before after : List (Incoming α ι)) :
    run capacity (before ++ after) = after.foldl hear (run capacity before) :=
  List.foldl_append

/-- What is in the record of a subscriber with room for `capacity` elements that has received these
signals. -/
structure Shows (capacity : Nat) (signals : List (Incoming α ι)) (r : SignalRecord α ι) :
    Prop where
  capacity_eq : r.subscriber.received.capacity = capacity
  ordered : r.subscriber.received.Ordered
  /-- The queue holds the elements before the first completion, as far as there is room. -/
  elements_eq : r.subscriber.received.elements =
    ((uncompleted signals).filterMap element?).take capacity
  completed_eq : r.subscriber.received.isCompleted = signals.any isCompletion
  /-- The first error stays. -/
  error_eq : r.subscriber.error.value = signals.findSome? error?

namespace Shows

variable {capacity : Nat} {signals : List (Incoming α ι)} {r : SignalRecord α ι}

theorem start (capacity : Nat) : (start capacity : SignalRecord α ι).Shows capacity [] where
  capacity_eq := rfl
  ordered := Queue.ordered_empty capacity
  elements_eq := List.take_nil.symm
  completed_eq := rfl
  error_eq := rfl

/-- Before a completion the queue holds all elements, as far as there is room. -/
theorem holds (h : r.Shows capacity signals) (hopen : signals.any isCompletion = false) :
    r.subscriber.received.Holds capacity ((signals.filterMap element?).take capacity) := by
  have hholds := Queue.Holds.of_ordered h.ordered (h.completed_eq.trans hopen)
  rwa [h.capacity_eq, h.elements_eq, uncompleted_of_open hopen] at hholds

theorem of_holds (hopen : signals.any isCompletion = false)
    (hholds : r.subscriber.received.Holds capacity ((signals.filterMap element?).take capacity))
    (herror : r.subscriber.error.value = signals.findSome? error?) : r.Shows capacity signals where
  capacity_eq := hholds.capacity_eq
  ordered := hholds.ordered
  elements_eq := by rw [hholds.elements_eq, uncompleted_of_open hopen]
  completed_eq := hholds.isOpen.trans hopen.symm
  error_eq := herror

/-- A signal that leaves the subscriber as it is, behind a completion. -/
theorem unchanged (h : r.Shows capacity signals) (hended : signals.any isCompletion = true)
    {s : Incoming α ι} (hs : s.error? = none) (log : List Violation) :
    Shows capacity (signals ++ [s]) ⟨r.subscriber, log⟩ where
  capacity_eq := h.capacity_eq
  ordered := h.ordered
  elements_eq := by rw [h.elements_eq, uncompleted_append_of_completed hended]
  completed_eq := by simp [h.completed_eq, hended]
  error_eq := by simp [h.error_eq, hs]

/-- An element is refused behind a completion, and where there is no room for it. -/
theorem next (h : r.Shows capacity signals) (a : α) :
    (r.hear (.next a)).Shows capacity (signals ++ [.next a]) ∧
      (r.hear (.next a)).log =
        r.log ++ ((Incoming.next a).objection? capacity signals).toList := by
  cases hended : signals.any isCompletion with
  | true =>
    have hadd : r.subscriber.onNext a =
        (some (ManualSubscriber.elementRefused .alreadyCompleted), r.subscriber) := by
      simp [ManualSubscriber.onNext, Queue.add, h.completed_eq, hended]
    rw [hear, store, hadd]
    exact ⟨h.unchanged hended rfl _, by simp [objection?, hended]⟩
  | false =>
    have hholds := h.holds hended
    have hopen : (signals ++ [Incoming.next a]).any isCompletion = false := by
      simp [hended, isCompletion]
    have helements : (signals ++ [Incoming.next a]).filterMap element? =
        signals.filterMap element? ++ [a] := by simp [element?]
    have herror : r.subscriber.error.value = (signals ++ [Incoming.next a]).findSome? error? := by
      simp [h.error_eq, error?]
    by_cases hroom : (signals.filterMap element?).length < capacity
    · have hall := List.take_of_length_le (Nat.le_of_lt hroom)
      rw [hall] at hholds
      obtain ⟨q, hadd, hq⟩ := hholds.add hroom a
      have hnext : r.subscriber.onNext a = (none, { r.subscriber with received := q }) := by
        simp [ManualSubscriber.onNext, hadd]
      rw [hear, store, hnext]
      refine ⟨of_holds hopen ?_ herror, by simp [objection?, hended, hroom]⟩
      rwa [helements, List.take_of_length_le (by simpa using Nat.succ_le_of_lt hroom)]
    · have hfull := Nat.le_of_not_lt hroom
      have hadd := hholds.add_full (by simp [hfull]) a
      have hnext : r.subscriber.onNext a =
          (some (ManualSubscriber.elementRefused (.overflow capacity)), r.subscriber) := by
        simp [ManualSubscriber.onNext, hadd]
      rw [hear, store, hnext]
      refine ⟨of_holds hopen ?_ herror, by simp [objection?, hended, hfull]⟩
      rwa [helements, List.take_append_of_le_length hfull]

theorem complete (h : r.Shows capacity signals) :
    (r.hear .complete).Shows capacity (signals ++ [.complete]) ∧
      (r.hear .complete).log =
        r.log ++ ((Incoming.complete : Incoming α ι).objection? capacity signals).toList := by
  cases hended : signals.any isCompletion with
  | true =>
    have hcomplete : r.subscriber.onComplete =
        (some ManualSubscriber.secondCompletion, r.subscriber) := by
      simp [ManualSubscriber.onComplete, Queue.complete, h.completed_eq, hended]
    rw [hear, store, hcomplete]
    exact ⟨h.unchanged hended rfl _, by simp [objection?, hended]⟩
  | false =>
    have hcomplete : r.subscriber.onComplete =
        (none, { r.subscriber with received := r.subscriber.received.complete.2 }) := by
      simp [ManualSubscriber.onComplete, Queue.complete, h.completed_eq, hended]
    rw [hear, store, hcomplete]
    refine ⟨?_, by simp [objection?, hended]⟩
    exact {
      capacity_eq := by simp [h.capacity_eq]
      ordered := h.ordered.complete
      elements_eq := by
        simp [h.elements_eq, uncompleted_of_open hended, uncompleted_append_of_open hended,
          isCompletion]
      completed_eq := by simp [isCompletion]
      error_eq := by simp [h.error_eq, error?] }

/-- A signal that is neither an element nor a completion leaves the queue as it is. -/
theorem of_received (h : r.Shows capacity signals) {s : Incoming α ι} (helement : s.element? = none)
    (hcompletion : s.isCompletion = false) {m : ManualSubscriber α ι}
    (hreceived : m.received = r.subscriber.received)
    (herror : m.error.value = (signals ++ [s]).findSome? error?) (log : List Violation) :
    Shows capacity (signals ++ [s]) ⟨m, log⟩ where
  capacity_eq := by rw [hreceived, h.capacity_eq]
  ordered := by rw [hreceived]; exact h.ordered
  elements_eq := by
    rw [hreceived, h.elements_eq]
    cases hended : signals.any isCompletion with
    | true => rw [uncompleted_append_of_completed hended]
    | false =>
      simp [uncompleted_of_open hended, uncompleted_append_of_open hended, hcompletion, helement]
  completed_eq := by simp [hreceived, h.completed_eq, hcompletion]
  error_eq := herror

/-- An error is refused behind another one, but not behind a completion. -/
theorem error (h : r.Shows capacity signals) (e : StreamError) :
    (r.hear (.error e)).Shows capacity (signals ++ [.error e]) ∧
      (r.hear (.error e)).log =
        r.log ++ ((Incoming.error e).objection? capacity signals).toList := by
  have hfailed : signals.any isError = r.subscriber.error.isCompleted := by
    rw [Promise.isCompleted, h.error_eq, ← any_isError]
  cases hvalue : r.subscriber.error.value with
  | some e' =>
    have herror : r.subscriber.onError e =
        (some ManualSubscriber.secondError, r.subscriber) := by
      simp [ManualSubscriber.onError, Promise.complete, Promise.isCompleted, hvalue]
    rw [hear, store, herror]
    refine ⟨h.of_received rfl rfl rfl ?_ _, ?_⟩
    · rw [h.error_eq] at hvalue
      simp [h.error_eq, hvalue]
    · simp [objection?, hfailed, Promise.isCompleted, hvalue]
  | none =>
    have herror : r.subscriber.onError e =
        (none, { r.subscriber with error := .completed e }) := by
      simp [ManualSubscriber.onError, Promise.complete, Promise.isCompleted, hvalue]
    rw [hear, store, herror]
    refine ⟨h.of_received (m := { r.subscriber with error := .completed e }) rfl rfl rfl ?_ _, ?_⟩
    · rw [h.error_eq] at hvalue
      simp [Promise.completed, hvalue, error?]
    · simp [objection?, hfailed, Promise.isCompleted, hvalue]

/-- What is in the record after another signal, and what has been objected to it. -/
theorem hear (h : r.Shows capacity signals) (s : Incoming α ι) :
    (r.hear s).Shows capacity (signals ++ [s]) ∧
      (r.hear s).log = r.log ++ (s.objection? capacity signals).toList := by
  cases s with
  | offer i =>
    refine ⟨h.of_received rfl rfl (by simp) ?_ _, by simp [SignalRecord.hear, objection?]⟩
    simp [h.error_eq, error?]
  | next a => exact h.next a
  | error e => exact h.error e
  | complete => exact h.complete

end Shows

section Run

variable (capacity : Nat) (before : List (Incoming α ι))

theorem shows_run : (run capacity before).Shows capacity before := by
  induction before using List.reverseRecOn with
  | nil => exact .start capacity
  | append_singleton before s ih =>
    rw [run_append]
    exact (ih.hear s).1

theorem log_run_concat (s : Incoming α ι) : (run capacity (before ++ [s])).log =
    (run capacity before).log ++ (s.objection? capacity before).toList := by
  rw [run_append]
  exact ((shows_run capacity before).hear s).2

/-- The first error and the first completion are accepted, and each other one is objected to,
once. -/
theorem countP_doubleTerminal : (run capacity before).log.countP (Violation.isOf .doubleTerminal) =
    (before.countP isError - 1) + (before.countP isCompletion - 1) := by
  induction before using List.reverseRecOn with
  | nil => rfl
  | append_singleton before s ih =>
    rw [log_run_concat, List.countP_append, ih, countP_objection?, repeats_concat isError,
      repeats_concat isCompletion]
    omega

/-- The signal record of a manual subscriber, whatever it receives: what is in it, what is objected
to the next signal, and how many terminal signals have been objected to. -/
theorem explained_run (s : Incoming α ι) :
    (run capacity before).Shows capacity before ∧
      (run capacity (before ++ [s])).log =
        (run capacity before).log ++ (s.objection? capacity before).toList ∧
      (run capacity before).log.countP (Violation.isOf .doubleTerminal) =
        (before.countP isError - 1) + (before.countP isCompletion - 1) :=
  ⟨shows_run capacity before, log_run_concat capacity before s,
    countP_doubleTerminal capacity before⟩

end Run

/-- Not every terminal signal behind another one is objected to: a completion behind an error is
not. -/
theorem accepted_after_error : ¬∀ (capacity : Nat) (before : List (Incoming Nat Nat))
    (s : Incoming Nat Nat), (before.any isError || before.any isCompletion) = true →
      (s.isError || s.isCompletion) = true →
        ∃ v, (run capacity (before ++ [s])).log = (run capacity before).log ++ [v] ∧
          v.isOf .doubleTerminal = true := by
  intro h
  obtain ⟨v, hlog, -⟩ := h 16 [.error ⟨⟨.harness, 0⟩, .testException⟩] .complete rfl rfl
  rw [log_run_concat, List.append_cancel_left_eq] at hlog
  simp [objection?, isCompletion] at hlog

end SignalRecord

end StreamConformance
