import StreamConformance.Proofs.Run.Supply
import StreamConformance.Proofs.Stage.Steps

/-!
# Steps and what the helper supplies

The steps of a scenario keep the history in agreement with what the tees has received, and an
assertion on the tees that succeeds tells what that is.

## Main results

* `Stage.subscribeTees_supplied`, `Stage.pull_supplied` — steps that let the helper act.
* `Stage.of_expectNone`, `Stage.of_expectError` — assertions on the tees.
-/

namespace StreamConformance.Stage

open Play

variable {α σ η : Type} {v : Verification α σ η} {taken : List α} {r r' : Run α σ η} {u : Unit}

/-- Subscribing the tees keeps the agreement. -/
theorem subscribeTees_supplied (hr : r.Supplied taken) {h : Helper α η}
    (hon : (subscribeTees v h).on r = (.ok u, r')) : r'.Supplied taken := by
  obtain ⟨r₁, k, hr₁, -, -, rfl⟩ := on_subscribeTees_eq_ok_iff.mp hon
  have hsubscribed := hr.subscribeTees h
  rw [hr₁] at hsubscribed
  exact hsubscribed.pass _

/-- An element that is pulled is entered as taken. -/
theorem pull_supplied (hr : r.Supplied taken) {a : α} (hon : (pull v).on r = (.ok a, r')) :
    r'.Supplied (taken ++ [a]) := by
  obtain ⟨k, r₁, t, d, hr₁, helements, hended, herror, rfl⟩ := pull_of_ok hon
  have hrequested : (Run.requestTees (helper v) k 1 r).2.Supplied taken := (hr.note rfl).relay _
  rw [hr₁] at hrequested
  have hset : ({ ({ r₁ with tees := t } : Run α σ η).pass d with lastPulled := some a } :
      Run α σ η).Supplied (taken ++ [a]) :=
    ((hrequested.take helements hended herror).pass d).of_untouched rfl rfl
  exact hset.note rfl

/-! ### Assertions on the tees -/

/-- If it is expected with success that the tees receives nothing, then it has received no element
and no completion that would still have to be taken. -/
theorem of_expectNone [Element α]
    (hon : (await (onTees (ManualSubscriber.expectNone v.timeout))).on r = (.ok u, r')) :
    r.tees.received.elements = [] ∧ r.tees.received.isCompleted = false ∧ ∃ d, r' = r.pass d := by
  obtain ⟨t, ht, rfl⟩ := (on_await_onPart_eq_ok_iff (fun r => r.tees)
    fun r t => { r with tees := t }).mp hon
  obtain ⟨hempty, hopen, rfl⟩ := ManualSubscriber.of_expectNone ht
  exact ⟨hempty, hopen, _, rfl⟩

/-- An error that is expected with success is the one that the tees has. -/
theorem of_expectError {kind : Cause.Kind} {part : String} {e : StreamError}
    (hon : (await (onTees (ManualSubscriber.expectError kind part v.timeout))).on r = (.ok e, r')) :
    r.tees.error.value = some e ∧ e.isOf kind = true ∧ Text.occursIn part e.message = true ∧
      ∃ d, r' = r.pass d := by
  obtain ⟨t, ht, rfl⟩ := (on_await_onPart_eq_ok_iff (fun r => r.tees)
    fun r t => { r with tees := t }).mp hon
  obtain ⟨hvalue, hkind, hpart, rfl⟩ := ManualSubscriber.of_expectError ht
  exact ⟨hvalue, hkind, hpart, _, rfl⟩

end StreamConformance.Stage
