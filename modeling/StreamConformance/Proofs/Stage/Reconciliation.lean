import StreamConformance.Proofs.Run.Attestation
import StreamConformance.Proofs.Stage.Balance
import StreamConformance.Proofs.Stage.Extension
import StreamConformance.Proofs.Stage.Supply
import StreamConformance.Proofs.Stage.Wiring

/-!
# Following an exchange

An exchange on a stage goes through five hands: the helper signals an element, the harness pulls it
and sends it to the subject, the subject reports it, and the harness takes the report; requests go
the other way. A run is reconciled when its history agrees with the ledger and all the queues at
once, and tells which elements have been sent. Each step of a scenario keeps a run reconciled.

## Main definitions

* `Event.sent?` — the elements sent to the subject.
* `Run.Reconciled` — the history, since a known beginning, agrees with the ledger and the queues.

## Main results

* `Stage.reconciled_of_ok` — a stage that has just been set is reconciled.
* `Stage.signalNext_reconciled` — an element on its way to the subject.
-/

namespace StreamConformance

namespace Stimulus

variable {α : Type}

/-- The element that the stimulus carries. -/
def element? : Stimulus α → Option α
  | .onNext a => some a
  | _ => none

end Stimulus

namespace Event

variable {α : Type}

/-- The element that has been sent to the subject. -/
def sent? : Event α → Option α
  | .stimulated s => s.element?
  | _ => none

theorem sent?_of_isStimulus {e : Event α} (h : e.isStimulus = false) : e.sent? = none := by
  cases e <;> first | rfl | simp [isStimulus] at h

end Event

namespace Run

variable {α σ η : Type}

/-- The history of the run goes on from `base`, agrees with the ledger, the queues, the probe and
the publisher, and tells of the elements that have been sent to the subject. -/
structure Reconciled (base : List (Event α)) (l : Ledger α) (sent : List α) (r : Run α σ η) :
    Prop where
  since : base <+: r.history
  balanced : r.Balanced l
  supplied : r.Supplied l.pulled
  attested : r.Attested
  sent : r.history.filterMap Event.sent? = sent

namespace Reconciled

variable {base : List (Event α)} {l : Ledger α} {sent : List α} {r r' : Run α σ η}

theorem rebase (h : r.Reconciled base l sent) : r.Reconciled r.history l sent :=
  { h with since := List.prefix_refl _ }

/-- A reconciled run may be looked at from an earlier beginning on. -/
theorem since_earlier {earlier : List (Event α)} (h : r.Reconciled base l sent)
    (hbase : earlier <+: base) : r.Reconciled earlier l sent :=
  { h with since := hbase.trans h.since }

/-- An event that is of concern to none of the hands keeps a run reconciled. -/
theorem note (h : r.Reconciled base l sent) {e : Event α} (neutral : e.isNeutral = true)
    (unfed : e.feeds = false) (silent : e.attests = false) (unsent : e.sent? = none) :
    (r.note e).Reconciled base l sent where
  since := h.since.trans (by rw [history_note]; exact List.prefix_append _ _)
  balanced := h.balanced.note neutral
  supplied := h.supplied.note unfed
  attested := h.attested.note silent
  sent := by
    rw [history_note, List.filterMap_append, h.sent, Event.filterMap_cons_eq, unsent]
    exact List.append_nil _

theorem pass (h : r.Reconciled base l sent) (d : Duration) :
    (r.pass d).Reconciled base l sent where
  since := h.since.trans (by rw [(Extends.pass r d).history]; exact List.prefix_append _ _)
  balanced := h.balanced.pass d
  supplied := h.supplied.pass d
  attested := h.attested.pass d
  sent := by
    rw [(Extends.pass r d).history, List.filterMap_append, h.sent]
    simp [Event.filterMap_cons_eq, Event.sent?]

/-- What the subject does with a stimulus keeps a run reconciled, and the element that the stimulus
carries has been sent then and there. -/
theorem deliver [Element α] (h : r.Reconciled base l sent) (v : Verification α σ η)
    (s : Stimulus α) : (r.deliver v s).2.Reconciled (r.history ++ [.stimulated s]) l
      (sent ++ s.element?.toList) where
  since := by
    obtain ⟨es, -, hes⟩ := deliver_extends v s r
    exact ⟨es ++ panicEvents (r.deliver v s).1, by simp [hes.history]⟩
  balanced := h.balanced.deliver v s
  supplied := h.supplied.deliver v s
  attested := h.attested.deliver v s
  sent := by
    rw [filterMap_deliver (fun _ he =>
      Event.sent?_of_isStimulus (Event.isStimulus_of_isCall he)) rfl, h.sent]
    rfl

/-! ### Taking -/

theorem take_request (h : r.Reconciled base l sent) {p : ManualPublisher Nat} {n : UInt64}
    (elements : r.publisher.requests.elements = n :: p.requests.elements)
    (isOpen : p.requests.isCompleted = r.publisher.requests.isCompleted)
    (cancelled : p.cancelled = r.publisher.cancelled) :
    ({ r with publisher := p } : Run α σ η).Reconciled base
      { l with requests := l.requests ++ [n] } sent where
  since := h.since
  balanced := h.balanced.take_requests elements isOpen
  supplied := h.supplied.of_untouched rfl rfl
  attested := h.attested.of_untouched rfl rfl cancelled
  sent := h.sent

theorem take_element (h : r.Reconciled base l sent) {p : WhiteboxProbe α Nat} {a : α}
    (elements : r.probe.blackbox.elements.elements = a :: p.blackbox.elements.elements)
    (completed : p.blackbox.elements.isCompleted = r.probe.blackbox.elements.isCompleted)
    (consistent : p.blackbox.Consistent)
    (terminals : p.blackbox.terminals = r.probe.blackbox.terminals) :
    ({ r with probe := p } : Run α σ η).Reconciled base
      { l with elements := l.elements ++ [a] } sent where
  since := h.since
  balanced := h.balanced.take_element elements completed
  supplied := h.supplied.of_untouched rfl rfl
  attested := {
    consistent := consistent
    terminals := h.attested.terminals.trans terminals.symm
    cancelled := h.attested.cancelled }
  sent := h.sent

end Reconciled

end Run

namespace Stage

open Play

variable {α σ η : Type} {v : Verification α σ η} {base : List (Event α)} {l : Ledger α}
  {sent : List α} {r r' : Run α σ η} {u : Unit}

/-! ### Setting the stage -/

theorem reconciled_start (v : Verification α σ η) (marks : Marks) :
    (Run.start v marks).Reconciled [] ⟨[], [], []⟩ [] where
  since := List.prefix_refl _
  balanced := .start v marks
  supplied := .start v marks
  attested := .start v marks
  sent := rfl

theorem subscribeTees_reconciled (hr : r.Reconciled base l sent) {h : Helper α η}
    (hon : (subscribeTees v h).on r = (.ok u, r')) : r'.Reconciled base l sent := by
  have hbalanced := subscribeTees_balanced hr.balanced hon
  have hsupplied := subscribeTees_supplied hr.supplied hon
  obtain ⟨answer, hsupply, hes, -⟩ := answer_of_subscribeTees hon
  have hall : ∀ e ∈ .teesSubscribed :: answer ++ [.awaited],
      e.attests = false ∧ e.isStimulus = false := by
    intro e he
    simp only [List.cons_append, List.mem_cons, List.mem_append, List.not_mem_nil, or_false] at he
    rcases he with rfl | he | rfl
    · exact ⟨rfl, rfl⟩
    · exact ⟨Event.attests_of_isSupply (hsupply e he), Event.isStimulus_of_isSupply (hsupply e he)⟩
    · exact ⟨rfl, rfl⟩
  have hnone : (Event.teesSubscribed :: answer ++ [Event.awaited]).filterMap
      Event.sent? = [] :=
    List.filterMap_eq_nil_iff.mpr fun e he => Event.sent?_of_isStimulus (hall e he).2
  exact {
    since := hr.since.trans ⟨_, hes.history.symm⟩
    balanced := hbalanced
    supplied := hsupplied
    attested := hr.attested.of_helper hes fun e he => (hall e he).1
    sent := by rw [hes.history, List.filterMap_append, hr.sent, hnone, List.append_nil] }

variable [Element α]

theorem setSubject_reconciled (hr : r.Reconciled base l sent)
    (hfresh : r.publisher.subscriber.value = none)
    (hon : (setSubject v).on r = (.ok u, r')) : r'.Reconciled base l sent := by
  obtain ⟨r₁, p, hr₁, -, rfl⟩ := on_setSubject_eq_ok_iff.mp hon
  rw [Run.subscribeSubject_of_fresh v (by exact hfresh)] at hr₁
  have hcreated := hr.note (e := .subjectCreated) rfl rfl rfl rfl
  have haccepting : ((r.note .subjectCreated).accepting 0).Reconciled base l sent := {
    since := hcreated.since
    balanced := {
      isOpen := hcreated.balanced.isOpen
      requests := hcreated.balanced.requests
      pulled := hcreated.balanced.pulled
      elements := hcreated.balanced.elements
      completed := hcreated.balanced.completed }
    supplied := hcreated.supplied.of_untouched rfl rfl
    attested := hcreated.attested.of_untouched rfl rfl rfl
    sent := hcreated.sent }
  have hdelivered := haccepting.deliver v (.onSubscribe (r.note .subjectCreated).offers.length)
  rw [hr₁] at hdelivered
  simp only [Stimulus.element?, Option.toList_none, List.append_nil] at hdelivered
  refine (hdelivered.since_earlier ?_).pass _
  exact hcreated.since.trans (List.prefix_append _ _)

/-- A stage that has just been set is reconciled with an empty ledger. -/
theorem reconciled_of_ok {marks : Marks} {h : Helper α η}
    (htees : (subscribeTees v h).on (.start v marks) = (.ok u, r))
    (hsubject : (setSubject v).on r = (.ok u, r')) :
    r'.Reconciled r'.history ⟨[], [], []⟩ [] :=
  (setSubject_reconciled (subscribeTees_reconciled (reconciled_start v marks) htees)
    (fresh_of_subscribeTees htees) hsubject).rebase

/-! ### Signals -/

/-- What the subject does with a stimulus keeps a run reconciled, and the element that the stimulus
carries has been sent then and there. -/
theorem deliver_reconciled (hr : r.Reconciled base l sent) {s : Stimulus α}
    (hon : (Play.orPanic (Run.deliver v s)).on r = (.ok u, r')) :
    r'.Reconciled (r.history ++ [.stimulated s]) l (sent ++ s.element?.toList) := by
  have hdelivered := hr.deliver v s
  rwa [on_orPanic_eq_ok_iff.mp hon] at hdelivered

theorem prompt_reconciled (hr : r.Reconciled base l sent) {s : Stimulus α}
    (hs : s.element? = none) (hon : (Play.orPanic (Run.deliver v s)).on r = (.ok u, r')) :
    r'.Reconciled base l sent := by
  have hdelivered := deliver_reconciled hr hon
  rw [hs, Option.toList_none, List.append_nil] at hdelivered
  exact hdelivered.since_earlier (hr.since.trans (List.prefix_append _ _))

omit [Element α] in
theorem pull_reconciled (hr : r.Reconciled base l sent) {a : α}
    (hon : (pull v).on r = (.ok a, r')) :
    r'.Reconciled base { l with pulled := l.pulled ++ [a] } sent := by
  have hbalanced := pull_balanced hr.balanced hon
  have hsupplied := pull_supplied hr.supplied hon
  obtain ⟨es, hes⟩ := pull_extends v r
  rw [hon] at hes
  obtain ⟨k, r₁, t, d, hr₁, -, -, -, rfl⟩ := pull_of_ok hon
  have hattested : (Run.requestTees (helper v) k 1 r).2.Attested := (hr.attested.note rfl).relay _
  have hsent : (Run.requestTees (helper v) k 1 r).2.history.filterMap Event.sent? = sent := by
    rw [Run.requestTees, Run.filterMap_relay (fun e he =>
      Event.sent?_of_isStimulus (Event.isStimulus_of_isSupply he)) rfl, Run.history_note,
      List.filterMap_append, hr.sent]
    exact List.append_nil _
  rw [hr₁] at hattested hsent
  have htaken : ({ r₁ with tees := t } : Run α σ η).Attested := hattested.of_untouched rfl rfl rfl
  have hset : ({ ({ r₁ with tees := t } : Run α σ η).pass d with lastPulled := some a } :
      Run α σ η).Attested := (htaken.pass d).of_untouched rfl rfl rfl
  exact {
    since := hr.since.trans ⟨_, hes.history.symm⟩
    balanced := hbalanced
    supplied := hsupplied
    attested := hset.note rfl
    sent := by
      have hhistory : (({ ({ r₁ with tees := t } : Run α σ η).pass d with
          lastPulled := some a } : Run α σ η).note (.pulled a)).history =
            r₁.history ++ [.awaited, .pulled a] := by
        simp [Run.history, Run.note, Run.pass]
      rw [hhistory, List.filterMap_append, hsent]
      simp [Event.filterMap_cons_eq, Event.sent?] }

/-- Sending an element keeps a run reconciled, and the element has been sent then and there. -/
theorem sendNext_reconciled (hr : r.Reconciled base l sent) {a : α}
    (hon : (sendNext v a).on r = (.ok u, r')) :
    r'.Reconciled (r.history ++ [.stimulated (.onNext a)]) l (sent ++ [a]) := by
  simp only [sendNext, on_bind_eq_ok_iff, on_ask_eq_ok_iff] at hon
  obtain ⟨_, _, ⟨-, rfl⟩, hdeliver⟩ := hon
  exact deliver_reconciled hr hdeliver

/-! ### Assertions -/

omit [Element α] in
theorem expectRequest_reconciled (hr : r.Reconciled base l sent) {n : UInt64}
    (hon : (expectRequest v).on r = (.ok n, r')) :
    r'.Reconciled base { l with requests := l.requests ++ [n] } sent := by
  obtain ⟨p, hp, rfl⟩ := (on_await_onPart_eq_ok_iff (fun r => r.publisher)
    fun r p => { r with publisher := p }).mp hon
  obtain ⟨helements, hopen, hcancelled⟩ := ManualPublisher.of_expectRequest hp
  exact (hr.take_request helements hopen hcancelled).pass _

theorem expectElement_reconciled (hr : r.Reconciled base l sent) {a : α}
    (hon : (expectElement v a).on r = (.ok u, r')) :
    r'.Reconciled base { l with elements := l.elements ++ [a] } sent := by
  simp only [expectElement, on_bind_eq_ok_iff, on_subjectName] at hon
  obtain ⟨name, _, ⟨⟩, hon⟩ := hon
  obtain ⟨b, hb, rfl⟩ := (on_await_onPart_eq_ok_iff (fun r => r.probe.blackbox)
    fun r b => { r with probe := { r.probe with blackbox := b } }).mp hon
  obtain ⟨helements, hcompleted⟩ := BlackboxProbe.of_expectElement hb
  obtain ⟨hconsistent, hterminals⟩ := hr.attested.consistent.expectElement hb
  exact (hr.take_element helements hcompleted hconsistent hterminals).pass _

omit [Element α] in
theorem expectCancelling_reconciled (hr : r.Reconciled base l sent)
    (hon : (expectCancelling v).on r = (.ok u, r')) :
    r'.Reconciled base l sent ∧ ∃ lane, .cancelled .publisher lane ∈ r'.history := by
  obtain ⟨p, hp, rfl⟩ := (on_await_onPart_eq_ok_iff (fun r => r.publisher)
    fun r p => { r with publisher := p }).mp hon
  obtain ⟨hclosed, rfl⟩ := ManualPublisher.of_expectCancelling hp
  refine ⟨hr.pass _, ?_⟩
  rw [hr.attested.cancelled, List.any_eq_true] at hclosed
  obtain ⟨e, he, hcancels⟩ := hclosed
  obtain ⟨lane, rfl⟩ := Event.eq_of_cancelsPublisher hcancels
  refine ⟨lane, ?_⟩
  rw [(Run.Extends.pass _ _).history]
  exact List.mem_append_left _ he

end Stage

end StreamConformance
