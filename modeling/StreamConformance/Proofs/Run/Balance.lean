import StreamConformance.Proofs.Run.Calls
import StreamConformance.Proofs.Run.Relay

/-!
# The balance of a run

What the history of a run tells of requests and elements is what the harness has taken from the
queues, followed by what still stands in them. No step of a run upsets this balance, so an assertion
that finds a queue empty has accounted for everything that ever went through it.

## Main definitions

* `Ledger` — what the harness has taken.
* `Run.Balanced` — the history agrees with the ledger and the queues.

## Main results

* `Run.Balanced.deliver`, `Run.Balanced.relay` — what the subject and the helper do keeps the
  balance.
-/

namespace StreamConformance

/-- What the harness has taken so far. -/
structure Ledger (α : Type) where
  /-- The requests taken from the publisher. -/
  requests : List UInt64
  /-- The elements taken from the tees. -/
  pulled : List α
  /-- The elements taken from the probe. -/
  elements : List α

namespace Event

variable {α : Type}

/-- Whether the event is of no concern to a ledger: no request, no report, and no element taken. -/
def isNeutral : Event α → Bool
  | .requested .. | .reported .. | .pulled _ => false
  | _ => true

section Neutral

variable {e : Event α} (h : e.isNeutral = true)

include h

theorem demand?_of_isNeutral : e.demand? = none := by
  cases e <;> first | rfl | simp [isNeutral] at h

theorem pulled?_of_isNeutral : e.pulled? = none := by
  cases e <;> first | rfl | simp [isNeutral] at h

theorem accepted?_of_isNeutral : e.accepted? = none := by
  cases e <;> first | rfl | simp [isNeutral] at h

theorem acceptsCompletion_of_isNeutral : e.acceptsCompletion = false := by
  cases e <;> first | rfl | simp [isNeutral] at h

end Neutral

theorem pulled?_of_isCall {e : Event α} (h : e.isCall = true) : e.pulled? = none := by
  cases e <;> first | rfl | simp [isCall] at h

theorem isNeutral_of_isSupply {e : Event α} (h : e.isSupply = true) : e.isNeutral = true := by
  cases e <;> first | rfl | simp [isSupply] at h

end Event

namespace Run

variable {α σ η : Type}

/-- The history of the run tells of what the ledger holds, followed by what stands in the queues.
The queue of requests may refuse one, but not without recording it. -/
structure Balanced (l : Ledger α) (r : Run α σ η) : Prop where
  isOpen : r.publisher.requests.isCompleted = false
  requests : r.history.filterMap Event.recorded? = [] →
    r.history.filterMap Event.demand? = l.requests ++ r.publisher.requests.elements
  pulled : r.history.filterMap Event.pulled? = l.pulled
  elements : r.history.filterMap Event.accepted? =
    l.elements ++ r.probe.blackbox.elements.elements
  completed : r.probe.blackbox.elements.isCompleted = r.history.any Event.acceptsCompletion

namespace Balanced

variable {l : Ledger α} {r r' : Run α σ η} {es : List (Event α)}

theorem start (v : Verification α σ η) (marks : Marks) :
    (Run.start v marks).Balanced ⟨[], [], []⟩ where
  isOpen := rfl
  requests _ := rfl
  pulled := rfl
  elements := rfl
  completed := rfl

theorem of_neutral (h : r.Balanced l) (history : r'.history = r.history ++ es)
    (neutral : ∀ e ∈ es, e.isNeutral = true) (publisher : r'.publisher = r.publisher)
    (probe : r'.probe = r.probe) : r'.Balanced l := by
  have hdemand : es.filterMap Event.demand? = [] :=
    List.filterMap_eq_nil_iff.mpr fun e he => Event.demand?_of_isNeutral (neutral e he)
  have hpulled : es.filterMap Event.pulled? = [] :=
    List.filterMap_eq_nil_iff.mpr fun e he => Event.pulled?_of_isNeutral (neutral e he)
  have haccepted : es.filterMap Event.accepted? = [] :=
    List.filterMap_eq_nil_iff.mpr fun e he => Event.accepted?_of_isNeutral (neutral e he)
  have hcompletion : es.any Event.acceptsCompletion = false := by
    simpa using fun e he => Event.acceptsCompletion_of_isNeutral (neutral e he)
  constructor
  · rw [publisher, h.isOpen]
  · intro hr
    rw [history, List.filterMap_append, List.append_eq_nil_iff] at hr
    rw [history, List.filterMap_append, hdemand, List.append_nil, h.requests hr.1, publisher]
  · rw [history, List.filterMap_append, hpulled, List.append_nil, h.pulled]
  · rw [history, List.filterMap_append, haccepted, List.append_nil, h.elements, probe]
  · rw [history, List.any_append, hcompletion, Bool.or_false, probe, h.completed]

theorem note (h : r.Balanced l) {e : Event α} (he : e.isNeutral = true) :
    (r.note e).Balanced l :=
  h.of_neutral (history_note e r) (by simpa using he) rfl rfl

theorem pass (h : r.Balanced l) (d : Duration) : (r.pass d).Balanced l :=
  h.of_neutral (Extends.pass r d).history (by simp [Event.isNeutral]) rfl rfl

/-- Nothing but the history, the publisher and the probe bears on the balance. -/
theorem of_untouched (h : r.Balanced l) (past : r'.past = r.past)
    (publisher : r'.publisher = r.publisher) (probe : r'.probe = r.probe) : r'.Balanced l := by
  have history : r'.history = r.history ++ [] := by simp [Run.history, past]
  exact h.of_neutral history (by simp) publisher probe

/-- Calls of the subject queue what they carry, which keeps the balance. -/
theorem of_subject (h : r.Balanced l) (he : r.SubjectExtends es r')
    (hpulled : es.filterMap Event.pulled? = []) : r'.Balanced l where
  isOpen := he.isOpen.trans h.isOpen
  requests hr := by
    rw [he.history, List.filterMap_append, List.append_eq_nil_iff] at hr
    rw [he.history, List.filterMap_append, h.requests hr.1, he.requests h.isOpen hr.2,
      List.append_assoc]
  pulled := by rw [he.history, List.filterMap_append, hpulled, List.append_nil, h.pulled]
  elements := by
    rw [he.history, List.filterMap_append, h.elements, he.elements, List.append_assoc]
  completed := by rw [he.history, List.any_append, he.completed, h.completed]

/-- What the subject does with a stimulus keeps the balance. -/
theorem deliver [Element α] (h : r.Balanced l) (v : Verification α σ η) (s : Stimulus α) :
    (r.deliver v s).2.Balanced l := by
  obtain ⟨es, hcalls, he⟩ := deliver_extends v s r
  refine h.of_subject he (List.filterMap_eq_nil_iff.mpr fun e hmem => ?_)
  rcases List.mem_append.mp hmem with hmem | hmem
  · rcases List.mem_cons.mp hmem with rfl | hmem
    · rfl
    · exact Event.pulled?_of_isCall (hcalls e hmem)
  · rw [eq_panicked_of_mem hmem]
    rfl

/-- What the helper does in one call keeps the balance. -/
theorem relay {π : Type} (h : r.Balanced l) (emission : Emission α η π) :
    (Run.relay emission r).2.Balanced l := by
  obtain ⟨es, hsupply, he⟩ := relay_extends emission r
  refine h.of_neutral he.history (fun e hmem => ?_) he.samePublisher he.sameProbe
  rcases List.mem_append.mp hmem with hmem | hmem
  · exact Event.isNeutral_of_isSupply (hsupply e hmem)
  · rw [eq_helperPanicked_of_mem hmem]
    rfl

/-- Subscribing the subject keeps the balance, be it accepted or not. -/
theorem subscribeSubject [Element α] (h : r.Balanced l) (v : Verification α σ η) (number : Nat) :
    (r.subscribeSubject v number).2.Balanced l := by
  simp only [Run.subscribeSubject]
  split
  next x _ _ =>
    exact h.of_neutral (history_record _ _) (by simp [Event.isNeutral]) (by simp) (by simp)
  next p hp =>
    have hrequests : p.requests = r.publisher.requests := by
      simp only [ManualPublisher.accept] at hp
      split at hp
      · rw [← (Prod.mk.inj hp).2]
      · simp at hp
    let r₀ : Run α σ η := { r with publisher := p, offers := r.offers ++ [.publisher] }
    have h₀ : r₀.Balanced l := {
      isOpen := by rw [hrequests, h.isOpen]
      requests := by
        rw [hrequests]
        exact h.requests
      pulled := h.pulled
      elements := h.elements
      completed := h.completed }
    exact h₀.deliver v _

/-! ### Taking -/

theorem take_requests (h : r.Balanced l) {p : ManualPublisher Nat} {taken : List UInt64}
    (elements : r.publisher.requests.elements = taken ++ p.requests.elements)
    (isOpen : p.requests.isCompleted = r.publisher.requests.isCompleted) :
    ({ r with publisher := p } : Run α σ η).Balanced
      { l with requests := l.requests ++ taken } where
  isOpen := isOpen.trans h.isOpen
  requests hr := by
    rw [List.append_assoc, ← elements]
    exact h.requests hr
  pulled := h.pulled
  elements := h.elements
  completed := h.completed

theorem take_element (h : r.Balanced l) {p : WhiteboxProbe α Nat} {a : α}
    (elements : r.probe.blackbox.elements.elements = a :: p.blackbox.elements.elements)
    (completed : p.blackbox.elements.isCompleted = r.probe.blackbox.elements.isCompleted) :
    ({ r with probe := p } : Run α σ η).Balanced { l with elements := l.elements ++ [a] } where
  isOpen := h.isOpen
  requests := h.requests
  pulled := h.pulled
  elements := by
    rw [List.append_assoc, List.singleton_append, ← elements]
    exact h.elements
  completed := completed.trans h.completed

theorem pull (h : r.Balanced l) (a : α) :
    (r.note (.pulled a)).Balanced { l with pulled := l.pulled ++ [a] } where
  isOpen := h.isOpen
  requests hr := by
    rw [history_note, List.filterMap_append] at hr ⊢
    exact (List.append_nil _).trans (h.requests (List.append_eq_nil_iff.mp hr).1)
  pulled := by simp [h.pulled, Event.pulled?]
  elements := by simp [h.elements, Event.accepted?]
  completed := by simp [h.completed, Event.acceptsCompletion]

end Balanced

end Run

end StreamConformance
