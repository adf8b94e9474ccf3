import StreamConformance.Proofs.Helper.Supplier
import StreamConformance.Proofs.Play.Reach
import StreamConformance.Proofs.Stage.Steps

/-!
# The feed of a stage

What the tees gets from a helper that does as it should. A stage is fed as long as nothing has been
recorded and its tees can pull the values that the helper has left, one after the other.

## Main definitions

* `Run.Fed` — the tees waits for the values that its helper has left.

## Main results

* `Run.Fed.of_subscribeTees`, `Run.Fed.pull`, `Run.Fed.cancelTees` — subscribing, pulling and
  cancelling the tees.
-/

namespace StreamConformance

open Stream' (Seq)

variable {α σ η : Type}

namespace Run

/-- A signal of the helper that the tees accepts changes nothing but the tees. -/
theorem receive_of_accepted {e : Event α} {r : Run α σ η} {t : ManualSubscriber α Nat}
    {f : ManualSubscriber α Nat → Option Violation × ManualSubscriber α Nat}
    (hf : f r.tees = (none, t)) :
    r.receive e f = ({ r with tees := t } : Run α σ η).note e := by
  simp only [receive, hf]
  rfl

/-- An element that the tees accepts goes before the rest of what the helper does. -/
theorem relay_next {π : Type} {a : α} {r : Run α σ η} {t : ManualSubscriber α Nat}
    (ht : r.tees.onNext a = (none, t)) (rest : Emission α η π) :
    relay (.next a rest) r =
      relay rest (({ r with tees := t } : Run α σ η).note (.teesNext a)) := by
  rw [relay, receive_of_accepted ht]

/-- A completion that the tees accepts goes before the rest of what the helper does. -/
theorem relay_complete {π : Type} {r : Run α σ η} {t : ManualSubscriber α Nat}
    (ht : r.tees.onComplete = (none, t)) (rest : Emission α η π) :
    relay (.complete rest) r =
      relay rest (({ r with tees := t } : Run α σ η).note .teesComplete) := by
  rw [relay, receive_of_accepted ht]

theorem relay_offer_refused {π : Type} {number number' : Nat} {r : Run α σ η}
    (hkept : r.tees.subscription.value = some number) (rest : Bool → Emission α η π) :
    relay (.offer number' rest) r = relay (rest false) (r.note (.teesOffered number' false)) := by
  have hrefuse : r.tees.onSubscribe number' = (false, r.tees) := by
    simp [ManualSubscriber.onSubscribe, Promise.complete, Promise.isCompleted, hkept]
  simp only [relay, hrefuse]

theorem relay_error {π : Type} {e : StreamError} {r : Run α σ η}
    (hnone : r.tees.error.value = none) (rest : Emission α η π) :
    relay (.error e rest) r = relay rest
      (({ r with tees := { r.tees with error := .completed e } } : Run α σ η).note
        (.teesError e)) := by
  have herror : r.tees.onError e = (none, { r.tees with error := .completed e }) := by
    simp [ManualSubscriber.onError, Promise.complete, Promise.isCompleted, hnone]
  rw [relay, receive_of_accepted herror]

/-- The tees keeps the first subscription that it is offered, after which the helper returns. -/
theorem subscribeTees_of_offer {h : Helper α η} {r : Run α σ η} {number : Nat} {s : η}
    {rest : Bool → Emission α η Panic} (hnone : r.tees.subscription.value = none)
    (hsubscribe : h.subscribe r.helper = .offer number rest) (hrest : rest true = .done s) :
    r.subscribeTees h = (.ok (), { (({ r.note .teesSubscribed with
      tees := { r.tees with subscription := .completed number } } : Run α σ η).note
        (.teesOffered number true)) with helper := s }) := by
  have hkeep : r.tees.onSubscribe number =
      (true, { r.tees with subscription := .completed number }) := by
    simp [ManualSubscriber.onSubscribe, Promise.complete, Promise.isCompleted, hnone]
  simp only [Run.subscribeTees, hsubscribe, relay, tees_note, hkeep, hrest]

/-- A tees that has a subscription keeps the error of a helper that rejects it. -/
theorem relay_of_rejects {π : Type} {emission : Emission α η π} {e : StreamError} {s : η}
    (hrejects : emission.Rejects e s) {r : Run α σ η} {number : Nat}
    (hkept : r.tees.subscription.value = some number) (hnone : r.tees.error.value = none) :
    ∃ past, relay emission r = (.ok (),
      { r with past, tees := { r.tees with error := .completed e }, helper := s }) := by
  induction hrejects generalizing r with
  | error =>
    rw [relay_error hnone]
    exact ⟨_, rfl⟩
  | @offer number' rest _ ih =>
    rw [relay_offer_refused hkept]
    exact ih (r := r.note (.teesOffered number' false)) hkept hnone

/-- A helper that rejects a duplicate signals its error to the tees. -/
theorem subscribeTees_of_rejection {h : Helper α η} {r : Run α σ η} {number : Nat} {s : η}
    {e : StreamError} (hkept : r.tees.subscription.value = some number)
    (hnone : r.tees.error.value = none) (hrejects : (h.subscribe r.helper).Rejects e s) :
    ∃ past, r.subscribeTees h = (.ok (),
      { r with past, tees := { r.tees with error := .completed e }, helper := s }) :=
  relay_of_rejects (r := r.note .teesSubscribed) hrejects hkept hnone

/-- Nothing has been recorded, and the tees has a subscription of its helper, which has `values`
left for it. While there are values, the tees has nothing to take. -/
structure Fed (v : Verification α σ η) (number : Nat) (Left : Seq α → η → Prop) (values : Seq α)
    (r : Run α σ η) : Prop where
  log : r.log.entries = []
  subscription : r.tees.subscription.value = some number
  helper : Left values r.helper
  received : values ≠ .nil → r.tees.received.Holds v.config.capacity []

namespace Fed

variable {v : Verification α σ η} {number : Nat} {Left : Seq α → η → Prop} {a : α}
  {values : Seq α} {r : Run α σ η}

/-- A fresh run is fed once the tees has subscribed to a helper that supplies values. -/
theorem of_subscribeTees (hsupplies : (Stage.helper v).Supplies values) (marks : Marks) :
    ∃ number Left, (Stage.helper v).Serves number Left ∧
      (Stage.subscribeTees v (Stage.helper v)).Reaches (.start v marks) fun _ r' =>
        r'.Fed v number Left values ∧ ∃ tees helper past elapsed,
          r' = { Run.start v marks with tees, helper, past, elapsed } := by
  obtain ⟨number, Left, rest, s, hserves, hsubscribe, hrest, hleft⟩ := hsupplies
  have hsubscribed := subscribeTees_of_offer (r := .start v marks) rfl hsubscribe hrest
  refine ⟨number, Left, hserves, (), _, Stage.on_subscribeTees_eq_ok_iff.mpr
    ⟨_, number, hsubscribed, rfl, rfl, rfl⟩, ?_, _, _, _, _, rfl⟩
  exact ⟨rfl, rfl, hleft, fun _ => .empty _⟩

/-- A request for one element brings the next value to the front of the queue of the tees. -/
theorem requestTees (h : r.Fed v number Left (.cons a values))
    (hserves : (Stage.helper v).Serves number Left) (hroom : 0 < v.config.capacity) :
    ∃ s q rest, Left values s ∧ q.entries = .element a :: rest ∧
      (values ≠ .nil → q.Holds v.config.capacity [a]) ∧ ∃ past,
        r.requestTees (Stage.helper v) number 1 =
          (.ok (), { r with tees := { r.tees with received := q }, helper := s, past }) := by
  obtain ⟨s, hleft, hrequest⟩ := hserves.request h.helper
  obtain ⟨q, hadd, hq⟩ := (h.received Seq.cons_ne_nil).add hroom a
  have hnext : (r.note (.teesRequested number 1)).tees.onNext a =
      (none, { r.tees with received := q }) := by
    rw [tees_note, ManualSubscriber.onNext, hadd]
  rcases hrequest with hrequest | ⟨hlast, hrequest⟩
  · refine ⟨s, q, [], hleft, hq.entries_eq, fun _ => hq, ?_⟩
    rw [Run.requestTees, hrequest, relay_next hnext]
    exact ⟨_, rfl⟩
  · obtain ⟨q', hcomplete⟩ : ∃ q', q.complete = (.ok (), q') :=
      ⟨_, by rw [Queue.complete, hq.isOpen, if_neg Bool.false_ne_true]⟩
    have hended : ({ r.tees with received := q } : ManualSubscriber α Nat).onComplete =
        (none, { r.tees with received := q' }) := by
      rw [ManualSubscriber.onComplete, hcomplete]
    refine ⟨s, q', [.endMarker], hleft, ?_, fun hne => absurd hlast hne, ?_⟩
    · rw [Queue.entries_complete hcomplete, hq.entries_eq]
      rfl
    · rw [Run.requestTees, hrequest, relay_next hnext, relay_complete hended]
      exact ⟨_, rfl⟩

/-- The next value is there to be pulled. -/
theorem pull (h : r.Fed v number Left (.cons a values))
    (hserves : (Stage.helper v).Serves number Left) (hroom : 0 < v.config.capacity) :
    (Stage.pull v).Reaches r fun b r' => b = a ∧
      r'.Fed v number Left values ∧ ∃ tees helper past elapsed,
        r' = { r with tees, helper, past, elapsed, lastPulled := some a } := by
  obtain ⟨s, q, rest, hleft, hentries, hholds, past, hrequested⟩ := h.requestTees hserves hroom
  obtain ⟨line, hnext, hline⟩ :=
    Queue.next_of_entries hentries v.timeout "Did not receive expected element"
  have hask : r.tees.subscriptionFor 1 = .ok number := by
    rw [ManualSubscriber.subscriptionFor, h.subscription]
  have hexpect : (ManualSubscriber.expectElement v.timeout).now { r.tees with received := q } =
      (.ok a, { r.tees with received := { q with line := line } }) := by
    rw [ManualSubscriber.expectElement, ManualSubscriber.onReceived, Expectation.now_onPart, hnext]
  have hleftover (hne : values ≠ .nil) :
      ({ q with line := line } : Queue α).Holds v.config.capacity [] := by
    have hrest := hentries.symm.trans (hholds hne).entries_eq
    refine ⟨(hholds hne).capacity_eq, (hholds hne).isOpen, hline.trans ?_⟩
    simpa using hrest
  let taken : Run α σ η :=
    { r with tees := { r.tees with received := { q with line := line } }, helper := s, past }
  have hrequestNext : (Stage.requestNext v (Stage.helper v)).Reaches r fun b r' =>
      b = a ∧ ∃ d, r' = taken.pass d := by
    refine .bind (Q := fun k r' => k = number ∧ r' = r) (.ask hask ⟨rfl, rfl⟩) ?_
    rintro _ _ ⟨rfl, rfl⟩
    refine .bind (.orPanic (Q := fun _ r' => r' = _) hrequested rfl) ?_
    rintro ⟨⟩ _ rfl
    exact .await hexpect fun d => ⟨rfl, d, rfl⟩
  refine hrequestNext.bind ?_
  rintro _ _ ⟨rfl, d, rfl⟩
  refine .bind (.modify (Q := fun _ r' => r' = _) rfl) ?_
  rintro ⟨⟩ _ rfl
  exact .pure ⟨rfl, ⟨h.log, h.subscription, hleft, hleftover⟩, _, _, _, _, rfl⟩

theorem requireCleanLog (h : r.Fed v number Left values) :
    (Stage.requireCleanLog : Play α σ η Unit).Reaches r fun _ r' =>
      ∃ left, r'.Fed v number Left left :=
  ⟨(), r, Stage.on_requireCleanLog_eq_ok_iff.mpr ⟨h.log, rfl⟩, values, h⟩

/-- Cancelling the tees is quiet. -/
theorem cancelTees (h : r.Fed v number Left values)
    (hserves : (Stage.helper v).Serves number Left) :
    (r.cancelTees (Stage.helper v)).log.entries = [] := by
  obtain ⟨s, hcancel⟩ := hserves.cancel h.helper
  simp only [Run.cancelTees, h.subscription, hcancel]
  exact h.log

end Fed

end Run

end StreamConformance
