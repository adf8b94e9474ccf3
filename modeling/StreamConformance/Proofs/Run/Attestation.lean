import StreamConformance.Proofs.Probe.Terminal
import StreamConformance.Proofs.Run.Calls
import StreamConformance.Proofs.Run.Relay

/-!
# What the subject attests

The history tells which terminal signal the probe has accepted from the subject and whether the
subject has cancelled the subscription of the publisher. The probe and the publisher agree with it
in every run.

## Main definitions

* `Event.terminal?`, `Event.cancelsPublisher` — the events in question.
* `Run.Attested` — the probe and the publisher agree with the history.

## Main results

* `Run.Attested.perform`, `Run.Attested.deliver` — what the subject does keeps the agreement.
* `Run.subscriber_deliver` — the subject cannot change who has subscribed to the publisher.
-/

namespace StreamConformance

namespace Event

variable {α : Type}

/-- The terminal signal that the probe has accepted, as the call that has reported it. -/
def terminal? : Event α → Option (Call α)
  | .reported .registerComplete true => some .registerComplete
  | .reported (.registerError e) true => some (.registerError e)
  | _ => none

/-- Whether the subject has cancelled the subscription of the manual publisher. -/
def cancelsPublisher : Event α → Bool
  | .cancelled .publisher _ => true
  | _ => false

/-- Whether the event is of concern here: a report or a cancellation. -/
def attests : Event α → Bool
  | .reported .. | .cancelled .. => true
  | _ => false

theorem terminal?_of_attests {e : Event α} (h : e.attests = false) : e.terminal? = none := by
  cases e <;> first | rfl | simp [attests] at h

theorem cancelsPublisher_of_attests {e : Event α} (h : e.attests = false) :
    e.cancelsPublisher = false := by
  cases e <;> first | rfl | simp [attests] at h

theorem attests_of_isSupply {e : Event α} (h : e.isSupply = true) : e.attests = false := by
  cases e <;> first | rfl | simp [isSupply] at h

theorem eq_of_cancelsPublisher {e : Event α} (h : e.cancelsPublisher = true) :
    ∃ lane, e = .cancelled .publisher lane := by
  unfold cancelsPublisher at h
  split at h
  next lane => exact ⟨lane, rfl⟩
  next => simp at h

end Event

namespace Run

variable {α σ η : Type}

/-- The probe and the publisher agree with the history on the terminal signal and on whether the
subscription has been cancelled. -/
structure Attested (r : Run α σ η) : Prop where
  consistent : r.probe.blackbox.Consistent
  terminals : r.history.filterMap Event.terminal? = r.probe.blackbox.terminals
  cancelled : r.publisher.cancelled.isClosed = r.history.any Event.cancelsPublisher

namespace Attested

variable {r r' : Run α σ η} {es : List (Event α)}

theorem start (v : Verification α σ η) (marks : Marks) : (Run.start v marks).Attested where
  consistent := BlackboxProbe.consistent_empty _
  terminals := rfl
  cancelled := rfl

/-- Events that attest nothing and leave the probe and the cancellation alone keep the agreement. -/
theorem of_silent (h : r.Attested) (history : r'.history = r.history ++ es)
    (silent : ∀ e ∈ es, e.attests = false) (probe : r'.probe.blackbox = r.probe.blackbox)
    (cancelled : r'.publisher.cancelled = r.publisher.cancelled) : r'.Attested where
  consistent := by
    rw [probe]
    exact h.consistent
  terminals := by
    have hterminal : es.filterMap Event.terminal? = [] :=
      List.filterMap_eq_nil_iff.mpr fun e he => Event.terminal?_of_attests (silent e he)
    rw [history, List.filterMap_append, hterminal, List.append_nil, h.terminals, probe]
  cancelled := by
    have hcancels : es.any Event.cancelsPublisher = false := by
      simpa using fun e he => Event.cancelsPublisher_of_attests (silent e he)
    rw [history, List.any_append, hcancels, Bool.or_false, cancelled, h.cancelled]

theorem note (h : r.Attested) {e : Event α} (he : e.attests = false) : (r.note e).Attested :=
  h.of_silent (history_note e r) (by simpa using he) rfl rfl

theorem record (h : r.Attested) (x : Option Violation) : (r.record x).Attested :=
  h.of_silent (history_record x r) (by cases x <;> simp [Event.attests]) (by simp) (by simp)

theorem pass (h : r.Attested) (d : Duration) : (r.pass d).Attested :=
  h.of_silent (Extends.pass r d).history (by simp [Event.attests]) rfl rfl

/-- Nothing but the history, the probe and the cancellation bears on the agreement. -/
theorem of_untouched (h : r.Attested) (past : r'.past = r.past)
    (probe : r'.probe.blackbox = r.probe.blackbox)
    (cancelled : r'.publisher.cancelled = r.publisher.cancelled) : r'.Attested := by
  have history : r'.history = r.history ++ [] := by simp [Run.history, past]
  exact h.of_silent history (by simp) probe cancelled

/-! ### Calls of the subject -/

theorem requestOn (h : r.Attested) (v : Verification α σ η) (t : Target) (lane : Lane)
    (n : UInt64) : (r.requestOn v t lane n).Attested := by
  have hnote : (r.note (.requested t lane n)).Attested := h.note rfl
  cases t with
  | publisher =>
    have hcancelled : (r.publisher.request n).2.cancelled = r.publisher.cancelled := by
      unfold ManualPublisher.request
      split
      · rfl
      · split <;> rfl
    exact (hnote.of_untouched rfl rfl hcancelled :
      Attested { r.note (.requested .publisher lane n) with
        publisher := (r.publisher.request n).2 }).record _
  | second => exact hnote.record (some (secondRequest v.subject.name n))
  | sentinel s => exact hnote.record _
  | recording k => exact hnote

/-- A cancellation closes the gate of the publisher if it is one of its subscription. -/
theorem cancelOn (h : r.Attested) (t : Target) (lane : Lane) : (r.cancelOn t lane).Attested := by
  have hother {t : Target} (ht : (Event.cancelled t lane : Event α).cancelsPublisher = false) :
      (r.note (.cancelled t lane)).Attested := {
    consistent := h.consistent
    terminals := by simp [h.terminals, Event.terminal?]
    cancelled := by simp [h.cancelled, ht] }
  cases t with
  | publisher =>
    exact {
      consistent := h.consistent
      terminals := by simp [Run.cancelOn, Run.history, ← h.terminals, Run.note, Event.terminal?]
      cancelled := by
        simp [Run.cancelOn, Run.history, Run.note, ManualPublisher.cancel, Latch.close,
          Event.cancelsPublisher] }
  | second => exact (hother rfl).of_untouched rfl rfl rfl
  | sentinel s => exact (hother rfl).record _
  | recording k => exact hother rfl

/-- A report keeps the agreement if the probe accepts what the event says. -/
theorem reportBy (h : r.Attested) {c : Call α}
    {f : WhiteboxProbe α Nat → Option Violation × WhiteboxProbe α Nat}
    (consistent : (f r.probe).2.blackbox.Consistent)
    (terminals : (f r.probe).2.blackbox.terminals = r.probe.blackbox.terminals ++
      (Event.reported c (f r.probe).1.isNone).terminal?.toList) : (r.reportBy c f).Attested := by
  have hnote : Attested
      (({ r with probe := (f r.probe).2 } : Run α σ η).note
        (.reported c (f r.probe).1.isNone)) := {
    consistent := consistent
    terminals := by
      simp only [history_note, List.filterMap_append, probe_note, terminals, ← h.terminals]
      simp [Run.history, Event.filterMap_cons_eq]
    cancelled := by
      simpa [Run.history, Run.note, Event.cancelsPublisher] using h.cancelled }
  exact hnote.record _

/-- A call of the subject keeps the agreement. -/
theorem perform [Element α] (h : r.Attested) (v : Verification α σ η) (lane : Lane) (c : Call α) :
    (r.perform v lane c).Attested := by
  cases c with
  | request offer n =>
    simp only [Run.perform]
    split
    · exact h.requestOn v _ lane n
    · exact h
  | cancel offer =>
    simp only [Run.perform]
    split
    · exact h.cancelOn _ lane
    · exact h
  | registerPuppet k =>
    refine h.reportBy ?_ ?_
    · rw [WhiteboxProbe.blackbox_registerPuppet]
      exact h.consistent
    · simp [WhiteboxProbe.blackbox_registerPuppet, Event.terminal?]
  | registerNext a =>
    refine h.reportBy (h.consistent.registerNext _ a) ?_
    simp [WhiteboxProbe.report, BlackboxProbe.terminals_registerNext, Event.terminal?]
  | registerComplete =>
    refine h.reportBy h.consistent.registerComplete ?_
    simp only [WhiteboxProbe.report, BlackboxProbe.terminals_registerComplete]
    congr 1
    cases r.probe.blackbox.registerComplete.1 <;> rfl
  | registerError e =>
    refine h.reportBy (h.consistent.registerError e) ?_
    simp only [WhiteboxProbe.report, h.consistent.terminals_registerError]
    congr 1
    cases (r.probe.blackbox.registerError e).1 <;> rfl
  | record x => exact h.record (some x)

theorem foldl_perform [Element α] (h : r.Attested) (v : Verification α σ η)
    (calls : List (Lane × Call α)) :
    (calls.foldl (fun r c => r.perform v c.1 c.2) r).Attested := by
  induction calls generalizing r with
  | nil => exact h
  | cons c calls ih => exact ih (h.perform v c.1 c.2)

theorem stimulate [Element α] (h : r.Attested) (v : Verification α σ η) (s : Stimulus α) :
    (r.stimulate v s).2.Attested := by
  have hset : Attested { r with subject := (v.subject.react r.subject s).state } :=
    h.of_untouched rfl rfl rfl
  have hcalls := (hset.note (e := .stimulated s) rfl).foldl_perform v
    (v.subject.react r.subject s).calls
  simp only [Run.stimulate]
  split
  · exact hcalls.note rfl
  · exact hcalls

/-- The delivery of a stimulus keeps the agreement. -/
theorem deliver [Element α] (h : r.Attested) (v : Verification α σ η) (s : Stimulus α) :
    (r.deliver v s).2.Attested := by
  simp only [Run.deliver_eq]
  split
  · exact h.stimulate v s
  next signal _ =>
    have hmarked : Attested { r with marks := Marks.enter signal r.marks } :=
      h.of_untouched rfl rfl rfl
    exact (hmarked.stimulate v s).of_untouched rfl rfl rfl

/-! ### The helper -/

theorem of_helper (h : r.Attested) (he : r.HelperExtends es r')
    (silent : ∀ e ∈ es, e.attests = false) : r'.Attested :=
  h.of_silent he.history silent (by rw [he.sameProbe]) (by rw [he.samePublisher])

theorem relay {π : Type} (h : r.Attested) (emission : Emission α η π) :
    (Run.relay emission r).2.Attested := by
  obtain ⟨es, hsupply, he⟩ := relay_extends emission r
  refine h.of_helper he fun e hmem => ?_
  rcases List.mem_append.mp hmem with hmem | hmem
  · exact Event.attests_of_isSupply (hsupply e hmem)
  · rw [eq_helperPanicked_of_mem hmem]
    rfl

end Attested

/-! ### The subscriber of the publisher -/

section Subscriber

variable [Element α] (v : Verification α σ η)

/-- No call of the subject changes who has subscribed to the publisher. -/
theorem subscriber_perform (r : Run α σ η) (lane : Lane) (c : Call α) :
    (r.perform v lane c).publisher.subscriber = r.publisher.subscriber := by
  cases c with
  | request offer n =>
    simp only [perform]
    split
    next t _ =>
      cases t <;> simp [requestOn, ManualPublisher.request]
      split
      · rfl
      · split <;> rfl
    next => rfl
  | cancel offer =>
    simp only [perform]
    split
    next t _ => cases t <;> simp [cancelOn, ManualPublisher.cancel]
    next => rfl
  | record x => simp [perform]
  | _ => simp [perform, reportBy]

/-- No callback of the subject changes who has subscribed to the publisher. -/
theorem subscriber_deliver (r : Run α σ η) (s : Stimulus α) :
    (r.deliver v s).2.publisher.subscriber = r.publisher.subscriber := by
  have hcalls (calls : List (Lane × Call α)) (r : Run α σ η) :
      (calls.foldl (fun r c => r.perform v c.1 c.2) r).publisher.subscriber =
        r.publisher.subscriber := by
    induction calls generalizing r with
    | nil => rfl
    | cons c calls ih => rw [List.foldl_cons, ih, subscriber_perform]
  have hstimulate (r : Run α σ η) :
      (r.stimulate v s).2.publisher.subscriber = r.publisher.subscriber := by
    simp only [stimulate]
    split <;> simp [hcalls]
  simp only [deliver_eq]
  split <;> simp [hstimulate]

end Subscriber

end Run

end StreamConformance
