import StreamConformance.Proofs.Manual.Subscriber
import StreamConformance.Proofs.Run.Calls
import StreamConformance.Proofs.Run.Relay

/-!
# What the helper supplies

The elements that the helper has signalled are those that the harness has taken from the tees,
followed by those that still stand in its queue; its completion has ended the queue, and its error
is in the cell of the tees. Whatever the tees has refused has been recorded.

## Main definitions

* `Event.supplied?`, `Event.failure?`, `Event.endsSupply` — the signals of the helper.
* `Event.answers` — what the helper has signalled each time that the tees has subscribed.
* `Run.Supplied` — the history agrees with what the tees has received.

## Main results

* `Run.Supplied.relay` — what the helper does in one call keeps the agreement.
-/

namespace StreamConformance

namespace Event

variable {α : Type}

/-- The element that the helper has signalled. -/
def supplied? : Event α → Option α
  | .teesNext a => some a
  | _ => none

/-- The error that the helper has signalled. -/
def failure? : Event α → Option StreamError
  | .teesError e => some e
  | _ => none

/-- Whether the helper has signalled its completion. -/
def endsSupply : Event α → Bool
  | .teesComplete => true
  | _ => false

/-- Whether the event is a signal of the helper other than an offer. -/
def feeds : Event α → Bool
  | .teesNext _ | .teesError _ | .teesComplete => true
  | _ => false

/-- What the helper has signalled each time that the tees has subscribed to it, with what has been
recorded for it: the events up to the first one of another cause. -/
def answers : List (Event α) → List (List (Event α))
  | [] => []
  | .teesSubscribed :: rest => rest.takeWhile isSupply :: answers rest
  | _ :: rest => answers rest

theorem answers_append {es rest : List (Event α)} (h : .teesSubscribed ∉ es) :
    answers (es ++ rest) = answers rest := by
  induction es with
  | nil => rfl
  | cons e es ih =>
    have hes : .teesSubscribed ∉ es := fun he => h (List.mem_cons_of_mem _ he)
    have he : e ≠ .teesSubscribed := fun he => h (he ▸ List.mem_cons_self)
    rw [List.cons_append, ← ih hes]
    cases e <;> first | rfl | exact absurd rfl he

/-- The answer ends where something happens that is no signal of the helper. -/
theorem answers_subscribed {es rest : List (Event α)} {e : Event α}
    (hes : ∀ e ∈ es, e.isSupply = true) (he : e.isSupply = false) :
    answers (.teesSubscribed :: es ++ e :: rest) = es :: answers (e :: rest) := by
  have hnot : .teesSubscribed ∉ es := fun h => by simpa [isSupply] using hes _ h
  rw [List.cons_append, answers, answers_append hnot,
    List.takeWhile_append_of_pos hes, List.takeWhile_cons_of_neg (by simp [he]), List.append_nil]

section Unfed

variable {e : Event α} (h : e.feeds = false)

include h

theorem supplied?_of_feeds : e.supplied? = none := by
  cases e <;> first | rfl | simp [feeds] at h

theorem failure?_of_feeds : e.failure? = none := by
  cases e <;> first | rfl | simp [feeds] at h

theorem endsSupply_of_feeds : e.endsSupply = false := by
  cases e <;> first | rfl | simp [feeds] at h

end Unfed

theorem feeds_of_isCall {e : Event α} (h : e.isCall = true) : e.feeds = false := by
  cases e <;> first | rfl | simp [isCall] at h

end Event

namespace Run

variable {α σ η : Type}

@[simp] theorem history_receive (e : Event α)
    (f : ManualSubscriber α Nat → Option Violation × ManualSubscriber α Nat) (r : Run α σ η) :
    (r.receive e f).history = r.history ++ (e :: (f r.tees).1.toList.map .recorded) := by
  rw [receive, history_record, history_note, List.append_assoc]
  rfl

@[simp] theorem tees_receive (e : Event α)
    (f : ManualSubscriber α Nat → Option Violation × ManualSubscriber α Nat) (r : Run α σ η) :
    (r.receive e f).tees = (f r.tees).2 := by
  simp [receive]

/-- The history of the run tells of what the harness has taken from the tees, followed by what the
tees still holds. The tees may refuse a signal, but not without its being recorded. -/
structure Supplied (taken : List α) (r : Run α σ η) : Prop where
  elements : r.history.filterMap Event.recorded? = [] →
    r.history.filterMap Event.supplied? = taken ++ r.tees.received.elements
  ended : r.tees.received.isCompleted = r.history.any Event.endsSupply
  failures : r.history.filterMap Event.recorded? = [] →
    r.history.filterMap Event.failure? = r.tees.error.value.toList

namespace Supplied

variable {taken : List α} {r r' : Run α σ η} {es : List (Event α)}

theorem start (v : Verification α σ η) (marks : Marks) : (Run.start v marks).Supplied [] where
  elements _ := rfl
  ended := rfl
  failures _ := rfl

/-- Events that are no signals and leave what the tees has received alone keep the agreement. -/
theorem of_unfed (h : r.Supplied taken) (history : r'.history = r.history ++ es)
    (unfed : ∀ e ∈ es, e.feeds = false) (received : r'.tees.received = r.tees.received)
    (error : r'.tees.error = r.tees.error) : r'.Supplied taken := by
  have hsupplied : es.filterMap Event.supplied? = [] :=
    List.filterMap_eq_nil_iff.mpr fun e he => Event.supplied?_of_feeds (unfed e he)
  have hfailure : es.filterMap Event.failure? = [] :=
    List.filterMap_eq_nil_iff.mpr fun e he => Event.failure?_of_feeds (unfed e he)
  have hends : es.any Event.endsSupply = false := by
    simpa using fun e he => Event.endsSupply_of_feeds (unfed e he)
  constructor
  · intro hr
    rw [history, List.filterMap_append, List.append_eq_nil_iff] at hr
    rw [history, List.filterMap_append, hsupplied, List.append_nil, h.elements hr.1, received]
  · rw [history, List.any_append, hends, Bool.or_false, received, h.ended]
  · intro hr
    rw [history, List.filterMap_append, List.append_eq_nil_iff] at hr
    rw [history, List.filterMap_append, hfailure, List.append_nil, h.failures hr.1, error]

theorem note (h : r.Supplied taken) {e : Event α} (he : e.feeds = false) :
    (r.note e).Supplied taken :=
  h.of_unfed (history_note e r) (by simpa using he) rfl rfl

theorem record (h : r.Supplied taken) (x : Option Violation) : (r.record x).Supplied taken :=
  h.of_unfed (history_record x r) (by cases x <;> simp [Event.feeds]) (by simp) (by simp)

theorem pass (h : r.Supplied taken) (d : Duration) : (r.pass d).Supplied taken :=
  h.of_unfed (Extends.pass r d).history (by simp [Event.feeds]) rfl rfl

theorem of_untouched (h : r.Supplied taken) (past : r'.past = r.past)
    (tees : r'.tees = r.tees) : r'.Supplied taken := by
  have history : r'.history = r.history ++ [] := by simp [Run.history, past]
  exact h.of_unfed history (by simp) (by rw [tees]) (by rw [tees])

/-! ### Signals -/

/-- A signal of the helper, when the tees receives what the event says unless it objects. -/
theorem receive (h : r.Supplied taken) {e : Event α}
    {f : ManualSubscriber α Nat → Option Violation × ManualSubscriber α Nat}
    (elements : (f r.tees).1 = none →
      (f r.tees).2.received.elements = r.tees.received.elements ++ e.supplied?.toList)
    (ended : (f r.tees).2.received.isCompleted = (r.tees.received.isCompleted || e.endsSupply))
    (failures : (f r.tees).1 = none →
      (f r.tees).2.error.value.toList = r.tees.error.value.toList ++ e.failure?.toList) :
    (r.receive e f).Supplied taken := by
  have hclean (hr : (r.receive e f).history.filterMap Event.recorded? = []) :
      r.history.filterMap Event.recorded? = [] ∧ (f r.tees).1 = none := by
    rw [history_receive, List.filterMap_append, List.append_eq_nil_iff] at hr
    refine ⟨hr.1, ?_⟩
    cases hx : (f r.tees).1 with
    | none => rfl
    | some x => simp [hx, Event.filterMap_cons_eq, Event.recorded?] at hr
  constructor
  · intro hr
    obtain ⟨hr, hx⟩ := hclean hr
    rw [history_receive, tees_receive, hx, elements hx, List.filterMap_append, h.elements hr,
      List.append_assoc]
    simp [Event.filterMap_cons_eq]
  · rw [history_receive, tees_receive, ended, h.ended, List.any_append]
    cases (f r.tees).1 <;> simp [Event.endsSupply]
  · intro hr
    obtain ⟨hr, hx⟩ := hclean hr
    rw [history_receive, tees_receive, hx, failures hx, List.filterMap_append, h.failures hr]
    simp [Event.filterMap_cons_eq]

/-- What the helper does in one call keeps the agreement. -/
theorem relay {π : Type} (h : r.Supplied taken) (emission : Emission α η π) :
    (Run.relay emission r).2.Supplied taken := by
  induction emission generalizing r with
  | done s => exact h.of_untouched rfl rfl
  | panic p s =>
    have hset : ({ r with helper := s } : Run α σ η).Supplied taken := h.of_untouched rfl rfl
    exact hset.note rfl
  | next a rest ih =>
    refine ih (h.receive (fun hx => ?_) (by simp [Event.endsSupply]) (by simp [Event.failure?]))
    rw [ManualSubscriber.elements_onNext, hx]
    rfl
  | error e rest ih =>
    refine ih (h.receive (by simp [Event.supplied?]) (by simp [Event.endsSupply]) fun hx => ?_)
    rw [ManualSubscriber.error_onError, hx]
    rfl
  | complete rest ih =>
    exact ih (h.receive (by simp [Event.supplied?]) (by simp [Event.endsSupply])
      (by simp [Event.failure?]))
  | offer k rest ih =>
    simp only [Run.relay]
    split
    next t ht =>
      have hreceived := ManualSubscriber.received_onSubscribe k r.tees
      have herror := ManualSubscriber.error_onSubscribe k r.tees
      rw [ht] at hreceived herror
      have hoffered : (({ r with tees := t } : Run α σ η).note (.teesOffered k true)).history =
          r.history ++ [.teesOffered k true] := history_note _ _
      exact ih true (h.of_unfed hoffered (by simp [Event.feeds]) hreceived herror)
    next => exact ih false (h.note rfl)
  | record x rest ih => exact ih (h.record (some x))

theorem subscribeTees (h : r.Supplied taken) (helper : Helper α η) :
    (r.subscribeTees helper).2.Supplied taken := (h.note rfl).relay _

theorem cancelTees (h : r.Supplied taken) (helper : Helper α η) :
    (r.cancelTees helper).Supplied taken := by
  simp only [Run.cancelTees]
  split
  · exact h
  · exact (h.note rfl).relay _

/-! ### The subject and the harness -/

theorem deliver [Element α] (h : r.Supplied taken) (v : Verification α σ η) (s : Stimulus α) :
    (r.deliver v s).2.Supplied taken := by
  obtain ⟨es, hcalls, he⟩ := deliver_extends v s r
  refine h.of_unfed he.history (fun e hmem => ?_) (by rw [he.sameTees]) (by rw [he.sameTees])
  rcases List.mem_append.mp hmem with hmem | hmem
  · rcases List.mem_cons.mp hmem with rfl | hmem
    · rfl
    · exact Event.feeds_of_isCall (hcalls e hmem)
  · rw [eq_panicked_of_mem hmem]
    rfl

theorem take (h : r.Supplied taken) {t : ManualSubscriber α Nat} {a : α}
    (elements : r.tees.received.elements = a :: t.received.elements)
    (ended : t.received.isCompleted = r.tees.received.isCompleted)
    (error : t.error = r.tees.error) :
    ({ r with tees := t } : Run α σ η).Supplied (taken ++ [a]) where
  elements hr := by
    rw [List.append_assoc, List.singleton_append, ← elements]
    exact h.elements hr
  ended := ended.trans h.ended
  failures hr := by
    rw [error]
    exact h.failures hr

end Supplied

end Run

end StreamConformance
