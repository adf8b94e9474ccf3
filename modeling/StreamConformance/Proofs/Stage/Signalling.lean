import StreamConformance.Proofs.Run.Passage
import StreamConformance.Proofs.Stage.Reconciliation
import StreamConformance.Run.Specimen

/-!
# Signalling one element after the other

The harness signals the next element to the subject by pulling it from the helper and sending it.
The helper may signal more or fewer elements than are requested, earlier or later, and complete in
between. On a wired stage nothing of this reaches the subject out of order: as long as the queue of
the tees has had room for all elements, the subject receives the elements that the helper has
signalled, from the first one on, one for each signal that succeeds.

## Main definitions

* `Stage.Passage`, `Stage.signals` — the signals of the harness, whatever comes of each.
* `Stage.Signalling` — a wired stage on which some elements have been pulled and sent.
* `Stage.Faithful` — what one signal may do.

## Main results

* `Stage.SignalNext.of_wired` — the three ways in which a signal can end.
* `Stage.signals_relays` — the stage relays, whatever the helper does.
-/

namespace StreamConformance.Stage

open Play

variable {α σ η : Type} [Element α]

/-! ### Signals of the harness -/

/-- One signal of the harness: the run on which it has been made, what has come of it, and the run
that it has left. -/
structure Passage (α σ η : Type) where
  before : Run α σ η
  outcome : Except Halt α
  after : Run α σ η

namespace Passage

omit [Element α]

/-- The element that has been signalled, if the signal has succeeded. -/
def signalled? (c : Passage α σ η) : Option α := c.outcome.toOption

end Passage

/-- The harness signals the next element `n` times, whatever comes of it, even a panic. -/
def signals (v : Verification α σ η) : Nat → Run α σ η → List (Passage α σ η) × Run α σ η
  | 0, r => ([], r)
  | n + 1, r =>
    let d := (signalNext v).on r
    (⟨r, d.1, d.2⟩ :: (signals v n d.2).1, (signals v n d.2).2)

/-! ### One signal -/

/-- What comes of a signal where the tees has the subscription `k`. -/
inductive SignalNext (v : Verification α σ η) (k : Nat) (r : Run α σ η) :
    Except Halt α × Run α σ η → Prop
  /-- The helper panics when an element is requested. -/
  | panicked (p : Panic) (r₁ : Run α σ η)
      (requested : Run.requestTees (helper v) k 1 r = (.error p, r₁)) :
      SignalNext v k r (.error (.panic p), r₁)
  /-- There is no element, in time. -/
  | missing (x : Violation) (r₁ : Run α σ η) (d : Duration)
      (requested : Run.requestTees (helper v) k 1 r = (.ok (), r₁)) :
      SignalNext v k r (.error (.violation x), r₁.pass d)
  /-- There is an element, which is pulled and sent to the subject. -/
  | passed (a : α) (r₁ : Run α σ η) (t : ManualSubscriber α Nat) (d : Duration)
      (requested : Run.requestTees (helper v) k 1 r = (.ok (), r₁))
      (elements : r₁.tees.received.elements = a :: t.received.elements)
      (ended : t.received.isCompleted = r₁.tees.received.isCompleted)
      (capacity : t.received.capacity = r₁.tees.received.capacity)
      (subscription : t.subscription = r₁.tees.subscription) :
      SignalNext v k r (.ok a, ((r₁.pulling t d a).deliver v (.onNext a)).2)

section Steps

variable {v : Verification α σ η} {r r₁ : Run α σ η} {k : Nat} {a : α}

omit [Element α] in
/-- An element is requested on the subscription of the tees, and awaited unless the helper
panics. -/
theorem on_requestNext (hk : r.tees.subscription.value = some k) (h : Helper α η) :
    (requestNext v h).on r =
      match Run.requestTees h k 1 r with
      | (.error p, r₁) => (.error (.panic p), r₁)
      | (.ok (), r₁) => (await (onTees (ManualSubscriber.expectElement v.timeout))).on r₁ := by
  have hask : (Play.ask fun r : Run α σ η => r.tees.subscriptionFor 1).on r = (.ok k, r) := by
    rw [on_ask, ManualSubscriber.subscriptionFor, hk]
    rfl
  rw [requestNext, on_bind, hask]
  dsimp only
  rw [on_bind, on_orPanic]
  rcases Run.requestTees h k 1 r with ⟨p | ⟨⟩, r₁⟩ <;> rfl

omit [Element α] in
theorem publisher_requestTees (h : Helper α η) (k : Nat) (r : Run α σ η) :
    (Run.requestTees h k 1 r).2.publisher = r.publisher := by
  obtain ⟨es, -, hes⟩ := Run.relay_extends (h.request r.helper k 1) (r.note (.teesRequested k 1))
  exact hes.samePublisher

theorem deliver_of_calm (hcalm : ∀ s a, (v.subject.react s (.onNext a)).panic = none)
    (r : Run α σ η) (a : α) : (r.deliver v (.onNext a)).1 = .ok () := by
  simp only [Run.deliver_eq, Run.signalOf, Run.stimulate, hcalm]

/-- Where the publisher has a subscriber, and that does not panic, an element is sent. -/
theorem on_sendNext (hcalm : ∀ s a, (v.subject.react s (.onNext a)).panic = none)
    (hs : r.publisher.subscriber.value.isSome = true) (a : α) :
    (sendNext v a).on r = (.ok (), (r.deliver v (.onNext a)).2) := by
  obtain ⟨s, hs⟩ := Option.isSome_iff_exists.mp hs
  have hask : (Play.ask fun r : Run α σ η => r.publisher.subscriberFor "sendNext").on r =
      (.ok s, r) := by
    rw [on_ask, ManualPublisher.subscriberFor, hs]
    rfl
  rw [sendNext, on_bind, hask]
  dsimp only
  rw [on_orPanic, deliver_of_calm hcalm]
  rfl

/-- Where the tees has a subscription and the publisher a subscriber that does not panic, a signal
ends in one of three ways. -/
theorem SignalNext.of_wired (hcalm : ∀ s a, (v.subject.react s (.onNext a)).panic = none)
    (hk : r.tees.subscription.value = some k)
    (hs : r.publisher.subscriber.value.isSome = true) :
    SignalNext v k r ((signalNext v).on r) := by
  have hpublisher := publisher_requestTees (helper v) k r
  rcases hrequest : Run.requestTees (helper v) k 1 r with ⟨p | ⟨⟩, r₁⟩
  · have hon : (signalNext v).on r = (.error (.panic p), r₁) := by
      rw [signalNext, on_bind, pull, on_bind, on_requestNext hk, hrequest]
    rw [hon]
    exact .panicked p r₁ hrequest
  · rw [hrequest] at hpublisher
    let d : Duration := (ManualSubscriber.expectElement v.timeout).cost r₁.tees
    rcases hnow : (ManualSubscriber.expectElement v.timeout).now r₁.tees with ⟨x | a, t⟩
    · obtain rfl := ManualSubscriber.of_expectElement_error hnow
      have hawait : (await (onTees (ManualSubscriber.expectElement v.timeout))).on r₁ =
          (.error (.violation x), r₁.pass d) :=
        (on_await_onPart_eq_error_iff (fun r => r.tees) fun r t => { r with tees := t }).mpr
          ⟨x, _, rfl, hnow, rfl⟩
      have hon : (signalNext v).on r = (.error (.violation x), r₁.pass d) := by
        rw [signalNext, on_bind, pull, on_bind, on_requestNext hk, hrequest]
        dsimp only
        rw [hawait]
      rw [hon]
      exact .missing x r₁ d hrequest
    · have hawait : (await (onTees (ManualSubscriber.expectElement v.timeout))).on r₁ =
          (.ok a, ({ r₁ with tees := t } : Run α σ η).pass d) :=
        (on_await_onPart_eq_ok_iff (fun r => r.tees) fun r t => { r with tees := t }).mpr
          ⟨t, hnow, rfl⟩
      have hpull : (pull v).on r = (.ok a, r₁.pulling t d a) := by
        rw [pull, on_bind, on_requestNext hk, hrequest]
        dsimp only
        rw [hawait]
        rfl
      have hs₁ : (r₁.pulling t d a).publisher.subscriber.value.isSome = true := by
        rw [← hpublisher] at hs
        exact hs
      have hon : (signalNext v).on r = (.ok a, ((r₁.pulling t d a).deliver v (.onNext a)).2) := by
        rw [signalNext, on_bind, hpull]
        dsimp only
        rw [on_bind, on_sendNext hcalm hs₁]
        rfl
      obtain ⟨helements, hended, -, hsubscription⟩ := ManualSubscriber.of_expectElement hnow
      have hcapacity := ManualSubscriber.capacity_expectElement v.timeout r₁.tees
      rw [hnow] at hcapacity
      rw [hon]
      exact .passed a r₁ t d hrequest helements hended hcapacity hsubscription

end Steps

/-! ### Any number of signals -/

/-- The stage is wired: the tees has the subscription `k`, which it has kept first, and the
publisher has a subscriber. The elements that have been pulled have been sent, and no other ones. -/
structure Signalling (v : Verification α σ η) (k : Nat) (r : Run α σ η) : Prop where
  subscription : r.tees.subscription.value = some k
  kept : r.history.filterMap Event.kept? = [k]
  subscribed : r.publisher.subscriber.value.isSome = true
  logged : r.log.entries = r.history.filterMap Event.recorded?
  passed : r.Passed v.config.capacity
  sent : r.history.filterMap Event.sent? = r.history.filterMap Event.pulled?

/-- A signal requests one element, on the subscription `k`. If it succeeds, its element is pulled
and sent; otherwise nothing is, and what the tees holds stays with it. -/
structure Faithful (k : Nat) (c : Passage α σ η) : Prop where
  requested : c.after.history.filterMap Event.teesRequest? =
    c.before.history.filterMap Event.teesRequest? ++ [(k, 1)]
  pulled : c.after.history.filterMap Event.pulled? =
    c.before.history.filterMap Event.pulled? ++ c.signalled?.toList
  sent : c.after.history.filterMap Event.sent? =
    c.before.history.filterMap Event.sent? ++ c.signalled?.toList
  unconsumed : c.signalled? = none →
    c.before.tees.received.elements <+: c.after.tees.received.elements

namespace SignalNext

variable {v : Verification α σ η} {k : Nat} {r : Run α σ η} {d : Except Halt α × Run α σ η}

/-- A projection of the history that looks neither at signals of the helper nor at calls of the
subject sees of a signal the request, and if the signal succeeds, that its element is pulled and
sent. -/
theorem filterMap_eq (h : SignalNext v k r d) {β : Type} {f : Event α → Option β}
    (hsupply : ∀ e, e.isSupply = true → f e = none) (hcall : ∀ e, e.isCall = true → f e = none)
    (hpanicked : f .panicked = none) (hhelper : f .helperPanicked = none)
    (hawaited : f .awaited = none) :
    d.2.history.filterMap f = r.history.filterMap f ++ (f (.teesRequested k 1)).toList ++
      d.1.toOption.toList.flatMap fun a =>
        (f (.pulled a)).toList ++ (f (.stimulated (.onNext a))).toList := by
  have hrequested := Run.filterMap_requestTees hsupply hhelper (helper v) k 1 r
  cases h with
  | panicked p r₁ hrequest =>
    rw [hrequest] at hrequested
    exact hrequested.trans (List.append_nil _).symm
  | missing x r₁ d hrequest =>
    rw [hrequest] at hrequested
    rw [(Run.Extends.pass r₁ d).history, List.filterMap_append, hrequested,
      Event.filterMap_cons_eq, hawaited]
    rfl
  | passed a r₁ t d hrequest =>
    rw [hrequest] at hrequested
    rw [Run.filterMap_deliver hcall hpanicked, Run.history_pulling, List.filterMap_append,
      hrequested, Event.filterMap_cons_eq, Event.filterMap_cons_eq, hawaited]
    simp [Except.toOption]

theorem faithful (h : SignalNext v k r d) : Faithful k ⟨r, d.1, d.2⟩ where
  requested := by
    rw [h.filterMap_eq (fun _ => Event.teesRequest?_of_isSupply)
      (fun _ => Event.teesRequest?_of_isCall) rfl rfl rfl]
    simp [Event.teesRequest?]
  pulled := by
    rw [h.filterMap_eq (f := Event.pulled?)
      (fun _ he => Event.pulled?_of_isNeutral (Event.isNeutral_of_isSupply he))
      (fun _ => Event.pulled?_of_isCall) rfl rfl rfl]
    simp [Event.pulled?, Passage.signalled?]
  sent := by
    rw [h.filterMap_eq (f := Event.sent?)
      (fun _ he => Event.sent?_of_isStimulus (Event.isStimulus_of_isSupply he))
      (fun _ he => Event.sent?_of_isStimulus (Event.isStimulus_of_isCall he)) rfl rfl rfl]
    simp [Event.sent?, Stimulus.element?, Passage.signalled?]
  unconsumed hnone := by
    have hunconsumed : r.tees.received.elements <+:
        (Run.requestTees (helper v) k 1 r).2.tees.received.elements :=
      Run.elements_relay _ (r.note (.teesRequested k 1))
    cases h with
    | panicked p r₁ hrequest =>
      rw [hrequest] at hunconsumed
      exact hunconsumed
    | missing x r₁ d hrequest =>
      rw [hrequest] at hunconsumed
      exact hunconsumed
    | passed a r₁ t d hrequest =>
      simp [Passage.signalled?, Except.toOption] at hnone

theorem passes (h : SignalNext v k r d) {capacity : Nat} (hr : r.Passed capacity) :
    d.2.Passed capacity := by
  have hrequested := hr.requestTees (helper v) k 1
  cases h with
  | panicked p r₁ hrequest =>
    rw [hrequest] at hrequested
    exact hrequested
  | missing x r₁ d hrequest =>
    rw [hrequest] at hrequested
    exact hrequested.pass d
  | passed a r₁ t d hrequest helements hended hcapacity =>
    rw [hrequest] at hrequested
    exact (hrequested.pull d helements hended hcapacity).deliver v (.onNext a)

theorem subscriber_eq (h : SignalNext v k r d) :
    d.2.publisher.subscriber = r.publisher.subscriber := by
  have hpublisher := publisher_requestTees (helper v) k r
  cases h with
  | panicked p r₁ hrequest =>
    rw [hrequest] at hpublisher
    exact congrArg ManualPublisher.subscriber hpublisher
  | missing x r₁ d hrequest =>
    rw [hrequest] at hpublisher
    exact congrArg ManualPublisher.subscriber hpublisher
  | passed a r₁ t d hrequest =>
    rw [hrequest] at hpublisher
    rw [Run.subscriber_deliver]
    exact congrArg ManualPublisher.subscriber hpublisher

end SignalNext

namespace Signalling

variable {v : Verification α σ η} {k : Nat} {r : Run α σ η}

/-- A stage that has just been set is wired, and nothing has been pulled or sent. -/
theorem of_ok {marks : Marks} {r₁ r₂ : Run α σ η}
    (htees : (subscribeTees v (helper v)).on (.start v marks) = (.ok (), r₁))
    (hsubject : (setSubject v).on r₁ = (.ok (), r₂)) : ∃ k, Signalling v k r₂ := by
  have hreconciled := reconciled_of_ok htees hsubject
  obtain ⟨es₁, hes₁⟩ := subscribeTees_extends v (helper v) (.start v marks)
  obtain ⟨es₂, hes₂⟩ := setSubject_extends v r₁
  rw [htees] at hes₁
  rw [hsubject] at hes₂
  have hes := hes₁.trans hes₂
  obtain ⟨r₀, k, hr₀, hk, -, rfl⟩ := on_subscribeTees_eq_ok_iff.mp htees
  have hsubscription : r₂.tees.subscription.value = some k := hes₂.subscription_of_some hk
  have hpassed : (r₀.pass .zero).Passed v.config.capacity := by
    have hstart := (Run.Passed.start v marks).subscribeTees (helper v)
    rw [hr₀] at hstart
    exact hstart.pass .zero
  obtain ⟨r₁, p, hr₁, -, rfl⟩ := on_setSubject_eq_ok_iff.mp hsubject
  have hfresh := fresh_of_subscribeTees htees
  rw [Run.subscribeSubject_of_fresh v (by exact hfresh)] at hr₁
  have haccepting : (((r₀.pass .zero).note .subjectCreated).accepting 0).Passed
      v.config.capacity := (hpassed.note (e := .subjectCreated) rfl rfl).of_untouched rfl rfl
  have hdelivered := haccepting.deliver v
    (.onSubscribe ((r₀.pass .zero).note .subjectCreated).offers.length)
  have hsubscriber := Run.subscriber_deliver v
    (((r₀.pass .zero).note .subjectCreated).accepting 0)
    (.onSubscribe ((r₀.pass .zero).note .subjectCreated).offers.length)
  rw [hr₁] at hdelivered hsubscriber
  exact ⟨k, {
    subscription := hsubscription
    kept := by
      have hlist := hes.subscription
      rw [hsubscription] at hlist
      rw [hes.history]
      exact hlist.symm
    subscribed := by
      have hsubscriber' : (r₁.pass .zero).publisher.subscriber = .completed 0 := hsubscriber
      rw [hsubscriber']
      rfl
    logged := by
      rw [hes.log, hes.history]
      rfl
    passed := hdelivered.pass .zero
    sent := hreconciled.sent.trans hreconciled.balanced.pulled.symm }⟩

/-- A signal on a wired stage is faithful, and the stage stays wired. -/
theorem signalNext (h : Signalling v k r)
    (hcalm : ∀ s a, (v.subject.react s (.onNext a)).panic = none) :
    Signalling v k ((Stage.signalNext v).on r).2 ∧
      Faithful k ⟨r, ((Stage.signalNext v).on r).1, ((Stage.signalNext v).on r).2⟩ := by
  have hsignal := SignalNext.of_wired hcalm h.subscription h.subscribed
  have hfaithful := hsignal.faithful
  obtain ⟨es, hes⟩ := signalNext_extends v r
  have hsubscription := hes.subscription_of_some h.subscription
  have hkept : es.filterMap Event.kept? = [] := by
    have hlist := hes.subscription
    rw [h.subscription, hsubscription] at hlist
    simpa using hlist
  refine ⟨{
    subscription := hsubscription
    kept := by rw [hes.history, List.filterMap_append, h.kept, hkept, List.append_nil]
    subscribed := by
      rw [hsignal.subscriber_eq]
      exact h.subscribed
    logged := by rw [hes.log, h.logged, hes.history, List.filterMap_append]
    passed := hsignal.passes h.passed
    sent := ?_ }, hfaithful⟩
  have hsent := hfaithful.sent
  rw [h.sent] at hsent
  exact hsent.trans hfaithful.pulled.symm

/-- Any number of signals. -/
theorem signals (h : Signalling v k r)
    (hcalm : ∀ s a, (v.subject.react s (.onNext a)).panic = none) (n : Nat) :
    Signalling v k (Stage.signals v n r).2 ∧ (∀ c ∈ (Stage.signals v n r).1, Faithful k c) ∧
      (Stage.signals v n r).2.history.filterMap Event.sent? =
        r.history.filterMap Event.sent? ++
          (Stage.signals v n r).1.filterMap Passage.signalled? := by
  induction n generalizing r with
  | zero => exact ⟨h, fun c hc => absurd hc List.not_mem_nil, (List.append_nil _).symm⟩
  | succ n ih =>
    obtain ⟨hnext, hfaithful⟩ := h.signalNext hcalm
    obtain ⟨hlast, hall, hsent⟩ := ih hnext
    refine ⟨hlast, fun c hc => ?_, ?_⟩
    · rcases List.mem_cons.mp hc with rfl | hc
      · exact hfaithful
      · exact hall c hc
    · rw [Stage.signals]
      dsimp only
      rw [hsent, hfaithful.sent, List.append_assoc]
      cases hfirst : (⟨r, ((Stage.signalNext v).on r).1, ((Stage.signalNext v).on r).2⟩ :
        Passage α σ η).signalled? <;> simp [hfirst]

end Signalling

/-! ### The stage as a relay -/

/-- The subject has received the elements that have been signalled with success, and no others. If
the queue of the tees has had room for every element of the helper, these are the first elements
that the helper has signalled. Every signal has been faithful, with the subscription that the tees
has kept, which is the first one that it has been offered. -/
structure Relays (v : Verification α σ η) (calls : List (Passage α σ η)) (last : Run α σ η) :
    Prop where
  sent : last.history.filterMap Event.sent? = calls.filterMap Passage.signalled?
  supplied :
    ManualSubscriber.elementRefused (.overflow v.config.capacity) ∉ last.log.entries →
      calls.filterMap Passage.signalled? <+: last.history.filterMap Event.supplied?
  faithful : ∃ k, last.history.filterMap Event.kept? = [k] ∧ ∀ c ∈ calls, Faithful k c

/-- A wired stage relays the elements of the helper to a subject that does not panic, whatever the
helper does and however often the harness signals: none is lost, doubled or moved. -/
theorem signals_relays {v : Verification α σ η} {marks : Marks} {r₁ r₂ : Run α σ η}
    (htees : (subscribeTees v (helper v)).on (.start v marks) = (.ok (), r₁))
    (hsubject : (setSubject v).on r₁ = (.ok (), r₂))
    (hcalm : ∀ s a, (v.subject.react s (.onNext a)).panic = none) (n : Nat) :
    Relays v (signals v n r₂).1 (signals v n r₂).2 := by
  obtain ⟨k, hwired⟩ := Signalling.of_ok htees hsubject
  obtain ⟨hlast, hall, hsent⟩ := hwired.signals hcalm n
  have hfirst : r₂.history.filterMap Event.sent? = [] := (reconciled_of_ok htees hsubject).sent
  rw [hfirst, List.nil_append] at hsent
  refine ⟨hsent, fun hroom => ?_, k, hlast.kept, hall⟩
  have hrecorded : .recorded (ManualSubscriber.elementRefused (.overflow v.config.capacity)) ∉
      (signals v n r₂).2.history := fun hmem => by
    rw [hlast.logged] at hroom
    exact hroom (List.mem_filterMap.mpr ⟨_, hmem, rfl⟩)
  obtain ⟨late, hsupplied, -⟩ := hlast.passed.supplied hrecorded
  rw [← hsent, hlast.sent, hsupplied, List.append_assoc]
  exact List.prefix_append _ _

/-- The range helper and the reference subject: three signals, and the elements from the first
one on. -/
theorem signals_relays_reference :
    let v := Specimen.reference.verification ⟨.ofMillis 100, 8⟩
    let r₁ := ((subscribeTees v (helper v)).on (.start v [])).2
    let r₂ := ((setSubject v).on r₁).2
    (subscribeTees v (helper v)).on (.start v []) = (.ok (), r₁) ∧
      (setSubject v).on r₁ = (.ok (), r₂) ∧
      (∀ s a, (v.subject.react s (.onNext a)).panic = none) ∧
      Relays v (signals v 3 r₂).1 (signals v 3 r₂).2 ∧
      (signals v 3 r₂).1.filterMap Passage.signalled? = [0, 1, 2] ∧
      (signals v 3 r₂).2.log.entries = [] := by
  intro v r₁ r₂
  have htees : (subscribeTees v (helper v)).on (.start v []) = (.ok (), r₁) := Prod.ext rfl rfl
  have hsubject : (setSubject v).on r₁ = (.ok (), r₂) := Prod.ext rfl rfl
  have hcalm : ∀ s a, (v.subject.react s (.onNext a)).panic = none := fun _ _ => rfl
  refine ⟨htees, hsubject, hcalm, signals_relays htees hsubject hcalm 3, ?_, ?_⟩
  · decide +kernel
  · decide +kernel

end StreamConformance.Stage
