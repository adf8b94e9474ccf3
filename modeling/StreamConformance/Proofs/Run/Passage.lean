import StreamConformance.Proofs.Run.Balance
import StreamConformance.Proofs.Run.Supply

/-!
# Elements on their way through the tees

The helper signals elements to the tees, which queues them, and the harness pulls them one by one.
An element that comes after the completion is refused. It comes after all that have been queued, so
nothing is lost before what is pulled, unless the queue has had no room for an element.

## Main definitions

* `Event.teesRequest?` — the requests of the tees.
* `Run.Passed` — the elements signalled are those pulled, those queued, and those that came late.

## Main results

* `Run.Passed.relay` — what the helper does in one call.
* `Run.elements_relay` — the helper takes nothing from the tees.
-/

namespace StreamConformance

namespace Event

variable {α : Type}

/-- The subscription on which the tees has requested, and the number of elements. -/
def teesRequest? : Event α → Option (Nat × UInt64)
  | .teesRequested k n => some (k, n)
  | _ => none

theorem teesRequest?_of_isSupply {e : Event α} (h : e.isSupply = true) :
    e.teesRequest? = none := by
  cases e <;> first | rfl | cases h

theorem teesRequest?_of_isCall {e : Event α} (h : e.isCall = true) : e.teesRequest? = none := by
  cases e <;> first | rfl | cases h

end Event

namespace Run

variable {α σ η : Type}

/-- The run in which the harness has waited for a while and has taken the element `a` from the tees,
which has become `t`. -/
def pulling (r : Run α σ η) (t : ManualSubscriber α Nat) (d : Duration) (a : α) : Run α σ η :=
  ({ ({ r with tees := t } : Run α σ η).pass d with lastPulled := some a }).note (.pulled a)

theorem history_pulling (r : Run α σ η) (t : ManualSubscriber α Nat) (d : Duration) (a : α) :
    (r.pulling t d a).history = r.history ++ [.awaited, .pulled a] := by
  simp [pulling, history, note, pass]

/-- The queue of the tees has room for `capacity` elements. Unless it has had no room for one, the
elements that the helper has signalled are those that have been pulled, those that are queued, and
those that have come after the completion. -/
structure Passed (capacity : Nat) (r : Run α σ η) : Prop where
  capacity_eq : r.tees.received.capacity = capacity
  supplied : .recorded (ManualSubscriber.elementRefused (.overflow capacity)) ∉ r.history →
    ∃ late, r.history.filterMap Event.supplied? =
        r.history.filterMap Event.pulled? ++ r.tees.received.elements ++ late ∧
      (late ≠ [] → r.tees.received.isCompleted = true)

namespace Passed

variable {capacity : Nat} {r r' : Run α σ η} {es : List (Event α)}

theorem start (v : Verification α σ η) (marks : Marks) :
    (Run.start v marks).Passed v.config.capacity where
  capacity_eq := rfl
  supplied _ := ⟨[], rfl, fun hne => absurd rfl hne⟩

theorem of_still (h : r.Passed capacity) (history : r'.history = r.history ++ es)
    (supplied : es.filterMap Event.supplied? = []) (pulled : es.filterMap Event.pulled? = [])
    (sameCapacity : r'.tees.received.capacity = r.tees.received.capacity)
    (elements : r'.tees.received.elements = r.tees.received.elements)
    (ended : r.tees.received.isCompleted = true → r'.tees.received.isCompleted = true) :
    r'.Passed capacity where
  capacity_eq := sameCapacity.trans h.capacity_eq
  supplied hroom := by
    rw [history] at hroom
    obtain ⟨late, heq, hlate⟩ := h.supplied fun hmem => hroom (List.mem_append_left _ hmem)
    refine ⟨late, ?_, fun hne => ended (hlate hne)⟩
    rw [history, List.filterMap_append, List.filterMap_append, supplied, pulled, List.append_nil,
      List.append_nil, elements, heq]

theorem note (h : r.Passed capacity) {e : Event α} (supplied : e.supplied? = none)
    (pulled : e.pulled? = none) : (r.note e).Passed capacity :=
  h.of_still (history_note e r) (by simp [supplied]) (by simp [pulled]) rfl rfl id

theorem record (h : r.Passed capacity) (x : Option Violation) : (r.record x).Passed capacity :=
  h.of_still (history_record x r) (Event.filterMap_records (fun _ => rfl) x)
    (Event.filterMap_records (fun _ => rfl) x) (by simp) (by simp) (by simp)

theorem pass (h : r.Passed capacity) (d : Duration) : (r.pass d).Passed capacity :=
  h.of_still (Extends.pass r d).history rfl rfl rfl rfl id

theorem of_untouched (h : r.Passed capacity) (past : r'.past = r.past)
    (tees : r'.tees = r.tees) : r'.Passed capacity :=
  have history : r'.history = r.history ++ [] := by simp [Run.history, past]
  h.of_still history rfl rfl (by rw [tees]) (by rw [tees]) (by rw [tees]; exact id)

theorem receive (h : r.Passed capacity) {e : Event α}
    {f : ManualSubscriber α Nat → Option Violation × ManualSubscriber α Nat}
    (supplied : e.supplied? = none) (pulled : e.pulled? = none)
    (sameCapacity : (f r.tees).2.received.capacity = r.tees.received.capacity)
    (elements : (f r.tees).2.received.elements = r.tees.received.elements)
    (ended : r.tees.received.isCompleted = true → (f r.tees).2.received.isCompleted = true) :
    (r.receive e f).Passed capacity := by
  refine h.of_still (history_receive e f r) ?_ ?_ (by simpa using sameCapacity)
    (by simpa using elements) (by simpa using ended)
  · rw [Event.filterMap_cons_eq, supplied, Event.filterMap_records fun _ => rfl]
    rfl
  · rw [Event.filterMap_cons_eq, pulled, Event.filterMap_records fun _ => rfl]
    rfl

/-- An element that the helper signals is queued, or it is late, or there is no room for it and that
is recorded. -/
theorem receiveNext (h : r.Passed capacity) (a : α) :
    (r.receive (.teesNext a) (ManualSubscriber.onNext a)).Passed capacity where
  capacity_eq := by
    rw [tees_receive, ManualSubscriber.capacity_onNext]
    exact h.capacity_eq
  supplied hroom := by
    rw [history_receive] at hroom
    obtain ⟨late, heq, hlate⟩ := h.supplied fun hmem => hroom (List.mem_append_left _ hmem)
    have hsupplied : (r.receive (.teesNext a) (ManualSubscriber.onNext a)).history.filterMap
        Event.supplied? = r.history.filterMap Event.pulled? ++ r.tees.received.elements ++ late ++
          [a] := by
      rw [history_receive, List.filterMap_append, Event.filterMap_cons_eq,
        Event.filterMap_records fun _ => rfl, heq]
      rfl
    have hpulled : (r.receive (.teesNext a) (ManualSubscriber.onNext a)).history.filterMap
        Event.pulled? = r.history.filterMap Event.pulled? := by
      rw [history_receive, List.filterMap_append, Event.filterMap_cons_eq,
        Event.filterMap_records fun _ => rfl]
      exact List.append_nil _
    rw [hsupplied, hpulled, tees_receive]
    rcases ManualSubscriber.onNext_cases a r.tees with ⟨hnone, hopen⟩ | ⟨hlater, hended⟩ | hfull
    · obtain rfl : late = [] := by
        by_cases hne : late = []
        · exact hne
        · simp [hlate hne] at hopen
      refine ⟨[], ?_, fun hne => absurd rfl hne⟩
      rw [ManualSubscriber.elements_onNext, hnone]
      simp
    · refine ⟨late ++ [a], ?_, fun _ => ?_⟩
      · rw [hlater]
        simp
      · rw [hlater]
        exact hended
    · refine absurd ?_ hroom
      rw [hfull, h.capacity_eq]
      simp

/-- What the helper does in one call, signal by signal. -/
theorem relay {π : Type} (h : r.Passed capacity) (emission : Emission α η π) :
    (Run.relay emission r).2.Passed capacity := by
  induction emission generalizing r with
  | done s => exact h.of_untouched rfl rfl
  | panic p s =>
    have hset : ({ r with helper := s } : Run α σ η).Passed capacity := h.of_untouched rfl rfl
    exact hset.note rfl rfl
  | next a rest ih => exact ih (h.receiveNext a)
  | error e rest ih =>
    exact ih (h.receive rfl rfl (by simp) (by simp) (by simp))
  | complete rest ih =>
    exact ih (h.receive rfl rfl (by simp) (by simp) (by simp))
  | offer k rest ih =>
    simp only [Run.relay]
    split
    next t ht =>
      have hreceived : t.received = r.tees.received := by
        have := ManualSubscriber.received_onSubscribe k r.tees
        rwa [ht] at this
      have hoffered : (({ r with tees := t } : Run α σ η).note (.teesOffered k true)).history =
          r.history ++ [.teesOffered k true] := history_note _ _
      refine ih true (h.of_still hoffered rfl rfl ?_ ?_ ?_) <;> simp [hreceived]
    next => exact ih false (h.note rfl rfl)
  | record x rest ih => exact ih (h.record (some x))

theorem subscribeTees (h : r.Passed capacity) (helper : Helper α η) :
    (r.subscribeTees helper).2.Passed capacity := (h.note rfl rfl).relay _

theorem requestTees (h : r.Passed capacity) (helper : Helper α η) (k : Nat) (n : UInt64) :
    (r.requestTees helper k n).2.Passed capacity := (h.note rfl rfl).relay _

/-- What the subject does with a stimulus moves no element through the tees. -/
theorem deliver [Element α] (h : r.Passed capacity) (v : Verification α σ η) (s : Stimulus α) :
    (r.deliver v s).2.Passed capacity := by
  obtain ⟨es, hcalls, he⟩ := deliver_extends v s r
  refine h.of_still he.history ?_ ?_ (by rw [he.sameTees]) (by rw [he.sameTees])
    (by rw [he.sameTees]; exact id)
  · rw [List.cons_append, Event.filterMap_cons_eq, filterMap_calls (fun _ hcall =>
      Event.supplied?_of_feeds (Event.feeds_of_isCall hcall)) rfl hcalls]
    rfl
  · rw [List.cons_append, Event.filterMap_cons_eq,
      filterMap_calls (fun _ => Event.pulled?_of_isCall) rfl hcalls]
    rfl

/-- An element that is pulled is the first of those that are queued. -/
theorem pull (h : r.Passed capacity) {t : ManualSubscriber α Nat} {a : α} (d : Duration)
    (elements : r.tees.received.elements = a :: t.received.elements)
    (ended : t.received.isCompleted = r.tees.received.isCompleted)
    (sameCapacity : t.received.capacity = r.tees.received.capacity) :
    (r.pulling t d a).Passed capacity where
  capacity_eq := sameCapacity.trans h.capacity_eq
  supplied hroom := by
    rw [history_pulling] at hroom
    obtain ⟨late, heq, hlate⟩ := h.supplied fun hmem => hroom (List.mem_append_left _ hmem)
    refine ⟨late, ?_, fun hne => ended.trans (hlate hne)⟩
    have htees : (r.pulling t d a).tees = t := rfl
    rw [history_pulling, List.filterMap_append, List.filterMap_append, heq, elements, htees]
    simp [Event.filterMap_cons_eq, Event.supplied?, Event.pulled?]

end Passed

/-- A projection of the history that looks neither at signals of the helper nor at its panics sees
of a request of the tees the request only. -/
theorem filterMap_requestTees {β : Type} {f : Event α → Option β}
    (hsupply : ∀ e, e.isSupply = true → f e = none) (hpanic : f .helperPanicked = none)
    (h : Helper α η) (k : Nat) (n : UInt64) (r : Run α σ η) :
    (r.requestTees h k n).2.history.filterMap f =
      r.history.filterMap f ++ (f (.teesRequested k n)).toList := by
  rw [requestTees, filterMap_relay hsupply hpanic, history_note, List.filterMap_append,
    Event.filterMap_cons_eq]
  exact congrArg _ (List.append_nil _)

/-- Whatever the helper does in one call, the elements that are queued stay where they are. -/
theorem elements_relay {π : Type} (emission : Emission α η π) (r : Run α σ η) :
    r.tees.received.elements <+: (relay emission r).2.tees.received.elements := by
  induction emission generalizing r with
  | done s => exact List.prefix_refl _
  | panic p s => exact List.prefix_refl _
  | next a rest ih =>
    refine List.IsPrefix.trans ?_ (ih _)
    rw [tees_receive, ManualSubscriber.elements_onNext]
    exact List.prefix_append _ _
  | error e rest ih =>
    simpa [relay] using ih (r.receive (.teesError e) (ManualSubscriber.onError e))
  | complete rest ih => simpa [relay] using ih (r.receive .teesComplete ManualSubscriber.onComplete)
  | offer k rest ih =>
    have hreceived := ManualSubscriber.received_onSubscribe k r.tees
    simp only [relay]
    split
    next t ht =>
      rw [ht] at hreceived
      refine List.IsPrefix.trans ?_ (ih true _)
      rw [tees_note]
      exact hreceived ▸ List.prefix_refl _
    next => exact ih false (r.note (.teesOffered k false))
  | record x rest ih => simpa [relay] using ih (r.record (some x))

end Run

end StreamConformance
