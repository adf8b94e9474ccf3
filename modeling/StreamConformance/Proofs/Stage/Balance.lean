import StreamConformance.Proofs.Run.Balance
import StreamConformance.Proofs.Stage.Steps

/-!
# Balanced steps

The steps of a scenario keep a run balanced, and an assertion that succeeds enters what it has taken
into the ledger.

## Main results

* `Stage.expectDemand_balanced` — the demand that is taken is exactly the one expected.
* `Stage.signalNext_balanced`, `Stage.expectElement_balanced` — an element on its way.
-/

namespace StreamConformance.Stage

open Play

variable {α σ η : Type} {v : Verification α σ η} {l : Ledger α} {r r' : Run α σ η} {u : Unit}

/-! ### Setting the stage -/

theorem subscribeTees_balanced (hr : r.Balanced l) {h : Helper α η}
    (hon : (subscribeTees v h).on r = (.ok u, r')) : r'.Balanced l := by
  obtain ⟨r₁, k, hr₁, -, -, rfl⟩ := on_subscribeTees_eq_ok_iff.mp hon
  have hrelay : (r.subscribeTees h).2.Balanced l := (hr.note rfl).relay _
  rw [hr₁] at hrelay
  exact hrelay.pass _

variable [Element α]

theorem setSubject_balanced (hr : r.Balanced l) (hon : (setSubject v).on r = (.ok u, r')) :
    r'.Balanced l := by
  obtain ⟨r₁, p, hr₁, -, rfl⟩ := on_setSubject_eq_ok_iff.mp hon
  have hsubscribed := (hr.note (e := .subjectCreated) rfl).subscribeSubject v 0
  rw [hr₁] at hsubscribed
  exact hsubscribed.pass _

/-! ### Signals -/

theorem triggerRequest_balanced (hr : r.Balanced l) {puppet : Nat} {n : UInt64}
    (hon : (triggerRequest v puppet n).on r = (.ok u, r')) : r'.Balanced l := by
  have hdelivered := hr.deliver v (.triggerRequest puppet n)
  rwa [on_orPanic_eq_ok_iff.mp hon] at hdelivered

theorem sendNext_balanced (hr : r.Balanced l) {a : α}
    (hon : (sendNext v a).on r = (.ok u, r')) : r'.Balanced l := by
  simp only [sendNext, on_bind_eq_ok_iff, on_ask_eq_ok_iff, on_orPanic_eq_ok_iff] at hon
  obtain ⟨_, _, ⟨-, rfl⟩, hdeliver⟩ := hon
  have hdelivered := hr.deliver v (.onNext a)
  rwa [hdeliver] at hdelivered

omit [Element α] in
theorem pull_balanced (hr : r.Balanced l) {a : α} (hon : (pull v).on r = (.ok a, r')) :
    r'.Balanced { l with pulled := l.pulled ++ [a] } := by
  obtain ⟨k, r₁, t, d, hr₁, -, -, -, rfl⟩ := pull_of_ok hon
  have hrequested : (Run.requestTees (helper v) k 1 r).2.Balanced l := (hr.note rfl).relay _
  rw [hr₁] at hrequested
  have htaken : ({ r₁ with tees := t } : Run α σ η).Balanced l :=
    hrequested.of_untouched rfl rfl rfl
  have hset : ({ ({ r₁ with tees := t } : Run α σ η).pass d with lastPulled := some a } :
      Run α σ η).Balanced l := (htaken.pass d).of_untouched rfl rfl rfl
  exact hset.pull a

/-- An element that is pulled and sent on is entered. -/
theorem signalNext_balanced (hr : r.Balanced l) {a : α}
    (hon : (signalNext v).on r = (.ok a, r')) :
    r'.Balanced { l with pulled := l.pulled ++ [a] } := by
  obtain ⟨r₁, hpull, hsend⟩ := signalNext_of_ok hon
  exact sendNext_balanced (pull_balanced hr hpull) hsend

/-! ### Assertions -/

omit [Element α] in
/-- Demand that is expected with success is entered, and its exact sum is the one expected. -/
theorem expectDemand_balanced (hr : r.Balanced l) {expected total : UInt64}
    (hexpected : expected ≠ Demand.unbounded)
    (hon : (expectDemand v expected).on r = (.ok total, r')) :
    ∃ taken : List UInt64, Demand.total taken = expected.toNat ∧
      r'.Balanced { l with requests := l.requests ++ taken } := by
  simp only [expectDemand, on_orViolation_eq_ok_iff, Prod.mk.injEq] at hon
  obtain ⟨hok, rfl⟩ := hon
  obtain ⟨hopen, taken, htaken, hsum⟩ := ManualPublisher.expectDemand_spec (Prod.ext hok rfl)
  exact ⟨taken, hsum hexpected, (hr.take_requests htaken hopen).pass _⟩

/-- An element that is expected with success is entered. -/
theorem expectElement_balanced (hr : r.Balanced l) {a : α}
    (hon : (expectElement v a).on r = (.ok u, r')) :
    r'.Balanced { l with elements := l.elements ++ [a] } := by
  simp only [expectElement, on_bind_eq_ok_iff, on_subjectName] at hon
  obtain ⟨name, _, ⟨⟩, hon⟩ := hon
  obtain ⟨b, hb, rfl⟩ := (on_await_onPart_eq_ok_iff (fun r => r.probe.blackbox)
    fun r b => { r with probe := { r.probe with blackbox := b } }).mp hon
  obtain ⟨helements, hcompleted⟩ := BlackboxProbe.of_expectElement hb
  exact (hr.take_element helements hcompleted).pass _

theorem expectNone_balanced (hr : r.Balanced l) (hon : (expectNone v).on r = (.ok u, r')) :
    r'.Balanced l ∧ r'.probe.blackbox.elements.elements = [] ∧
      r'.probe.blackbox.elements.isCompleted = false := by
  obtain ⟨b, hb, rfl⟩ := (on_await_onPart_eq_ok_iff (fun r => r.probe.blackbox)
    fun r b => { r with probe := { r.probe with blackbox := b } }).mp hon
  obtain ⟨hempty, hopen, rfl⟩ := BlackboxProbe.of_expectNone hb
  exact ⟨hr.pass _, hempty, hopen⟩

omit [Element α] in
/-- If no request is expected with success, then there is none, and the probe is left alone. -/
theorem expectNoRequest_balanced (hr : r.Balanced l)
    (hon : (expectNoRequest v).on r = (.ok u, r')) :
    r'.Balanced l ∧ r'.publisher.requests.elements = [] ∧ r'.probe = r.probe := by
  obtain ⟨p, hp, rfl⟩ := (on_await_onPart_eq_ok_iff (fun r => r.publisher)
    fun r p => { r with publisher := p }).mp hon
  obtain ⟨hempty, rfl⟩ := ManualPublisher.of_expectNoRequest hp
  exact ⟨hr.pass _, hempty, rfl⟩

end StreamConformance.Stage
