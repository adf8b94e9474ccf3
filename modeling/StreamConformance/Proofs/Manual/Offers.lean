import StreamConformance.Proofs.Run.Relay
import StreamConformance.Workbench.Delivery

/-!
# Offers to a manual subscriber

A manual subscriber keeps the first subscription that it is offered, whatever it receives besides,
and cancels each later one once. It calls nothing else.

## Main definitions

* `Workbench.equipment` — what the calls of a subscriber change.
* `Workbench.KeepsFirst` — the first subscription is kept and the later ones are cancelled.
* `Workbench.hearManual` — a manual subscriber receives signals.

## Main results

* `Workbench.keepsFirst_hearManual` — this is what a manual subscriber does, whatever it receives.
-/

namespace StreamConformance

variable {α : Type}

/-- The subscription that is offered, if one is. -/
def Delivery.offer? : Delivery α → Option SubscriptionRef
  | onSubscribe s => some s
  | onNext _ | onError _ | onComplete => none

namespace Workbench

/-- The bench without its manual subscribers and its logs. Calls on subscriptions, reports and
whatever else a subscriber does besides receiving signals can be seen here. -/
def equipment (b : Workbench α) : Workbench α := { b with manuals := [], sites := [] }

/-- The subscription that a manual subscriber holds, if any. -/
def subscriptionAt (number : Nat) (b : Workbench α) : Option SubscriptionRef :=
  b.manuals[number]?.bind (·.state.subscription.value)

/-! ### Cancellations -/

theorem manuals_cancelOn (marks : Marks) (b : Workbench α) (s : SubscriptionRef) :
    (b.cancelOn marks s).manuals = b.manuals := by
  cases s with
  | sentinel k =>
    simp only [cancelOn]
    split <;> rfl
  | _ => rfl

theorem equipment_cancelOn (marks : Marks) (b : Workbench α) (s : SubscriptionRef) :
    (b.cancelOn marks s).equipment = b.equipment.cancelOn [] s := by
  cases s with
  | sentinel k =>
    cases hk : b.sentinels[k]? <;> simp [cancelOn, equipment, record, hk]
  | _ => rfl

theorem length_recordings_cancelOn (marks : Marks) (b : Workbench α) (s : SubscriptionRef) :
    (b.cancelOn marks s).recordings.length = b.recordings.length := by
  cases s with
  | recording j => exact List.length_modify ..
  | sentinel k =>
    simp only [cancelOn]
    split <;> rfl
  | _ => rfl

/-- A cancellation is recorded where the subscription is a recorded one. -/
theorem recorded_cancelOn {k : Nat} {b : Workbench α} (hk : k < b.recordings.length)
    (marks : Marks) (s : SubscriptionRef) : (b.cancelOn marks s).recorded k =
      b.recorded k ++ if s = .recording k then [.cancel] else [] := by
  cases s with
  | recording j =>
    simp only [cancelOn, addCall, recorded, List.getElem?_modify, SubscriptionRef.recording.injEq]
    by_cases hj : j = k
    · simp [hj, List.getElem?_eq_getElem hk]
    · simp [hj]
  | sentinel j =>
    simp only [cancelOn]
    split <;> simp [recorded, record]
  | _ => simp [cancelOn, recorded, updateLedger]

theorem recorded_foldl_cancelOn {k : Nat} {b : Workbench α} (hk : k < b.recordings.length)
    (marks : Marks) (subscriptions : List SubscriptionRef) :
    (subscriptions.foldl (cancelOn marks) b).recorded k =
      b.recorded k ++ List.replicate (subscriptions.count (.recording k)) .cancel := by
  induction subscriptions generalizing b with
  | nil => simp
  | cons s rest ih =>
    rw [List.foldl_cons, ih (by rwa [length_recordings_cancelOn]), recorded_cancelOn hk,
      List.append_assoc, List.count_cons]
    by_cases hs : s = .recording k <;> simp [hs, List.replicate_succ]

/-! ### Signals -/

/-- From `b` the bench has become `b'` by signals to a manual subscriber, which has been offered
`offers`: it holds the first subscription, and has cancelled each later one once. -/
structure KeepsFirst (number : Nat) (offers : List SubscriptionRef) (b b' : Workbench α) :
    Prop where
  subscription : b'.subscriptionAt number = ((b.subscriptionAt number).toList ++ offers).head?
  /-- Nothing but the cancellations has been done. -/
  equipment : b'.equipment =
    ((b.subscriptionAt number).toList ++ offers).tail.foldl (cancelOn []) b.equipment
  recorded : ∀ k < b.recordings.length, b'.recorded k = b.recorded k ++
    List.replicate (((b.subscriptionAt number).toList ++ offers).tail.count (.recording k)) .cancel

namespace KeepsFirst

variable {number : Nat} {offers offers' : List SubscriptionRef} {b b' b'' : Workbench α}

theorem of_equipment
    (subscription : b'.subscriptionAt number = ((b.subscriptionAt number).toList ++ offers).head?)
    (equipment : b'.equipment =
      ((b.subscriptionAt number).toList ++ offers).tail.foldl (cancelOn []) b.equipment) :
    KeepsFirst number offers b b' where
  subscription := subscription
  equipment := equipment
  recorded k hk := by
    have hrecorded := recorded_foldl_cancelOn (b := b.equipment) hk []
      ((b.subscriptionAt number).toList ++ offers).tail
    rwa [← equipment] at hrecorded

protected theorem refl (number : Nat) (b : Workbench α) : KeepsFirst number [] b b :=
  .of_equipment (by cases b.subscriptionAt number <;> rfl)
    (by cases b.subscriptionAt number <;> rfl)

/-- What is offered first in the second part comes after what has been held since the first. -/
protected theorem trans (h : KeepsFirst number offers b b')
    (h' : KeepsFirst number offers' b' b'') : KeepsFirst number (offers ++ offers') b b'' := by
  have hsubscription := h'.subscription
  have hequipment := h'.equipment
  rw [h.subscription] at hsubscription hequipment
  rw [h.equipment, ← List.foldl_append] at hequipment
  cases hall : (b.subscriptionAt number).toList ++ offers with
  | nil =>
    refine .of_equipment ?_ ?_ <;> rw [← List.append_assoc, hall]
    · simpa [hall] using hsubscription
    · simpa [hall] using hequipment
  | cons s rest =>
    refine .of_equipment ?_ ?_ <;> rw [← List.append_assoc, hall]
    · simpa [hall] using hsubscription
    · simpa [hall] using hequipment

/-- A signal that offers nothing changes at most what the subscriber has received. -/
theorem store {o : ManualObject α} (h : b.manuals[number]? = some o)
    {r : Option Violation × ManualSubscriber α SubscriptionRef}
    (hr : r.2.subscription = o.state.subscription) :
    KeepsFirst number [] b (signalManual.store number b o r) := by
  have hlt : number < b.manuals.length := (List.getElem?_eq_some_iff.mp h).1
  have hheld : b.subscriptionAt number = o.state.subscription.value := by
    rw [subscriptionAt, h]
    rfl
  have hkept : (signalManual.store number b o r).subscriptionAt number =
      r.2.subscription.value := by
    simp [signalManual.store, subscriptionAt, record, hlt]
  refine .of_equipment ?_ ?_
  · rw [hkept, hr, hheld]
    cases o.state.subscription.value <;> rfl
  · cases b.subscriptionAt number <;> rfl

theorem keep {o : ManualObject α} (h : b.manuals[number]? = some o)
    (hheld : o.state.subscription.value = none) (s : SubscriptionRef) :
    KeepsFirst number [s] b { b with
      manuals := b.manuals.set number
        { o with state := { o.state with subscription := .completed s } } } := by
  have hlt : number < b.manuals.length := (List.getElem?_eq_some_iff.mp h).1
  have hnone : b.subscriptionAt number = none := by
    rw [subscriptionAt, h]
    exact hheld
  refine .of_equipment ?_ ?_
  · rw [hnone]
    simp [subscriptionAt, hlt, Promise.completed]
  · rw [hnone]
    rfl

theorem refuse {t : SubscriptionRef} (h : b.subscriptionAt number = some t) (marks : Marks)
    (s : SubscriptionRef) : KeepsFirst number [s] b (b.cancelOn marks s) := by
  refine .of_equipment ?_ ?_
  · rw [subscriptionAt, manuals_cancelOn, ← subscriptionAt, h]
    rfl
  · rw [equipment_cancelOn, h]
    rfl

theorem signalManual (hnumber : number < b.manuals.length) (marks : Marks)
    (d : Delivery α) : KeepsFirst number d.offer?.toList b (b.signalManual marks number d) := by
  obtain ⟨o, ho⟩ : ∃ o, b.manuals[number]? = some o := ⟨_, List.getElem?_eq_getElem hnumber⟩
  rw [Workbench.signalManual, ho]
  cases d with
  | onSubscribe s =>
    cases hheld : o.state.subscription.value with
    | none =>
      simpa [ManualSubscriber.onSubscribe, Promise.complete, Promise.isCompleted, hheld,
        Delivery.offer?] using keep ho hheld s
    | some t =>
      have ht : b.subscriptionAt number = some t := by
        rw [subscriptionAt, ho]
        exact hheld
      simpa [ManualSubscriber.onSubscribe, Promise.complete, Promise.isCompleted, hheld,
        Delivery.offer?] using refuse ht marks s
  | onNext a => exact store ho (ManualSubscriber.subscription_onNext a o.state)
  | onError e => exact store ho (ManualSubscriber.subscription_onError e o.state)
  | onComplete => exact store ho (ManualSubscriber.subscription_onComplete o.state)

end KeepsFirst

/-- A manual subscriber receives signals, one after the other, each on a thread with marks of its
own. -/
def hearManual (number : Nat) (signals : List (Marks × Delivery α)) (b : Workbench α) :
    Workbench α :=
  signals.foldl (fun b d => b.signalManual d.1 number d.2) b

theorem length_manuals_signalManual (marks : Marks) (number : Nat) (d : Delivery α)
    (b : Workbench α) : (b.signalManual marks number d).manuals.length = b.manuals.length := by
  unfold signalManual
  split
  · rfl
  · cases d with
    | onSubscribe s =>
      simp only
      split
      · exact List.length_set
      · rw [manuals_cancelOn]
    | _ => exact List.length_set

/-- A manual subscriber keeps the first subscription that it is offered and cancels each later one,
whatever it receives. -/
theorem keepsFirst_hearManual {number : Nat} {b : Workbench α}
    (hnumber : number < b.manuals.length) (signals : List (Marks × Delivery α)) :
    KeepsFirst number (signals.filterMap (·.2.offer?)) b (b.hearManual number signals) := by
  induction signals generalizing b with
  | nil => exact .refl number b
  | cons d signals ih =>
    have hfirst := KeepsFirst.signalManual hnumber d.1 d.2
    have hall := hfirst.trans (ih (by rwa [length_manuals_signalManual]))
    cases hoffer : d.2.offer? <;> simpa [hearManual, hoffer] using hall

end Workbench

end StreamConformance
