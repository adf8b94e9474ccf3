import StreamConformance.Proofs.Rule.TerminalReentrancy
import StreamConformance.Proofs.Specimen.Opening

/-!
# Verdicts on specimens

How each scenario ends for each specimen, with a helper that supplies enough values and with queues
that have room for the requests that wait at the same time. On a stage the silent specimen always
fails. The others fail by their own traits only: requests of their own accord are too much demand,
and a greedy specimen does not cancel a second subscription.
-/

namespace StreamConformance.Specimen

open Stream' (Seq)
open Play

/-- A helper that rejects duplicates keeps rule 2.12, whatever the subject. -/
theorem rejectsSecondSubscribe_reaches {α σ η : Type} [Element α] {v : Verification α σ η}
    {marks : Marks} (hrejects : (v.helper 1).RejectsDuplicate)
    (hfits : Stage.fits α v.config.capacity = true) :
    (Scenario.rejectsSecondSubscribe v).Reaches (.start v marks) fun _ r' =>
      r'.log.entries = [] := by
  obtain ⟨number, rest, s, e, s', hsubscribe, hrest, hrejects, hkind, hpart, s'', hcancel⟩ :=
    hrejects
  let fresh : Run α σ η := { Run.start v marks with helper := (v.helper 1).start }
  refine .bind (Q := fun _ r' => r' = .start v marks)
    ⟨(), _, Stage.on_reserve_eq_ok_iff.mpr ⟨hfits, rfl⟩, rfl⟩ ?_
  rintro _ _ rfl
  refine .bind (.modify (Q := fun _ r' => r' = fresh) rfl) ?_
  rintro _ _ rfl
  refine .unlessPanic (Q := fun _ r' => r'.log.entries = [] ∧
    r'.tees.subscription.value = some number ∧ r'.helper = s') ?_ ?_
  · have hfirst := Run.subscribeTees_of_offer (r := fresh) rfl hsubscribe hrest
    refine .bind (Q := fun _ r' => r'.log.entries = [] ∧
      r'.tees.subscription.value = some number ∧ r'.helper = s ∧ r'.tees.error.value = none ∧
        r'.tees.received.Holds v.config.capacity [])
      ⟨(), _, Stage.on_subscribeTees_eq_ok_iff.mpr ⟨_, number, hfirst, rfl, rfl, rfl⟩,
        rfl, rfl, rfl, rfl, .empty _⟩ ?_
    rintro _ r ⟨hlog, hsubscription, hhelper, herror, hreceived⟩
    have hnone : (ManualSubscriber.expectNone v.timeout).now r.tees = (.ok (), r.tees) := by
      rw [ManualSubscriber.expectNone, ManualSubscriber.onReceived, Expectation.now_onPart,
        hreceived.silence]
    refine .bind (.await (Q := fun _ r' => ∃ d, r' = r.pass d) hnone fun d => ⟨d, rfl⟩) ?_
    rintro _ _ ⟨d, rfl⟩
    obtain ⟨past, hsecond⟩ := Run.subscribeTees_of_rejection (r := r.pass d) hsubscription herror
      (hhelper ▸ hrejects)
    refine .bind (.orPanic (Q := fun _ r' => r' = _) hsecond rfl) ?_
    rintro _ _ rfl
    have hexpect := ManualSubscriber.expectError_of_value
      (m := { r.tees with error := .completed e }) rfl hkind hpart v.timeout
    refine .bind (.await (Q := fun _ r' => r'.log.entries = [] ∧
      r'.tees.subscription.value = some number ∧ r'.helper = s') hexpect
        fun d => ⟨hlog, hsubscription, rfl⟩) fun _ _ h => .pure h
  · rintro _ r ⟨hlog, hsubscription, hhelper⟩
    simp only [Run.cancelTees, hsubscription, hhelper, hcancel]
    exact hlog

variable {α η : Type} [Element α] {v : Verification α (Option Nat) η} {k : Specimen} {a b : α}
  {values : Seq α} {marks : Marks} (hv : v.subject = k.subject)
  (hfits : Stage.fits α v.config.capacity = true)

include hv hfits

/-! ### Demand -/

theorem happyPath_endsAs (hroom : k.greeting.length + k.echo.length + 2 ≤ v.config.capacity)
    (hsupplies : (Stage.helper v).Supplies (.cons a (.cons b values))) :
    (Scenario.happyPath v).EndsAs (k == silent) (.start v marks) fun _ r' =>
      r'.log.entries = [] := by
  refine set_endsAs_silent hv hfits (by omega) hsupplies fun number Left r hserves h => ?_
  refine prompt_reaches h hv (by decide) (by omega) fun r h => ?_
  refine (h.triggerRequest hv (by decide) (by simp; omega)).bind fun _ r h => ?_
  have hown := k.length_greeting_add_le
  obtain ⟨n, ns, hns, hlength⟩ := exists_first_request (k.greeting ++ [1]) 1
  rw [List.length_append, List.length_singleton] at hlength
  -- who has requested otherwise first, when it was subscribed, does not echo
  have hquiet : n ≠ 1 → k.echo.length = 0 := by
    intro hn
    cases hgreeting : k.greeting with
    | nil =>
      rw [hgreeting] at hns
      exact absurd (List.cons_eq_cons.mp hns).1.symm hn
    | cons =>
      rw [hgreeting, List.length_cons] at hown
      omega
  refine (h.expectRequest hns).bind ?_
  rintro n r ⟨rfl, h⟩
  refine (h.signalNext hv hserves rfl rfl (by simp; omega) (by simp; omega)).bind ?_
  rintro a r ⟨rfl, h⟩
  refine (h.expectElement rfl rfl).bind fun _ r h => ?_
  refine (h.triggerRequest hv (by decide) (by simp; omega)).bind fun _ r h => ?_
  -- whether or not another request is taken, there is room for the echo of the second element
  have hrest {r : Run α (Option Nat) η} {ms : List UInt64}
      (h : r.Shows v number Left ⟨.cons b values, ms, false, some 0, [], []⟩)
      (hms : ms.length + k.echo.length ≤ v.config.capacity) :
      Play.Reaches (do
        let second ← Stage.signalNext v
        Stage.expectElement v second
        Stage.signalCancel v 0
        Stage.expectCancelling v
        Stage.requireCleanLog) r fun _ r' => ∃ left, r'.Fed v number Left left := by
    refine (h.signalNext hv hserves rfl rfl (by simp; omega) hms).bind ?_
    rintro b r ⟨rfl, h⟩
    refine (h.expectElement rfl rfl).bind fun _ r h => ?_
    refine (h.signalCancel hv).bind fun _ r h => ?_
    refine (h.expectCancelling rfl).bind fun _ r h => ?_
    exact h.toFed.requireCleanLog
  split
  next =>
    obtain ⟨m, ms, hms, hlength'⟩ := exists_first_request (ns ++ k.echo) 1
    rw [List.length_append] at hlength'
    refine (h.expectRequest hms).bind ?_
    rintro m r ⟨rfl, h⟩
    exact hrest h (by omega)
  next hn =>
    have := hquiet hn
    exact hrest h (by simp; omega)

theorem signalsDemand_endsAs (hroom : k.greeting.length + k.echo.length + 1 ≤ v.config.capacity)
    (hsupplies : (Stage.helper v).Supplies (.cons a values)) :
    (Scenario.signalsDemand v).EndsAs (k == silent) (.start v marks) fun _ r' =>
      r'.log.entries = [] := by
  refine set_endsAs_silent hv hfits (by omega) hsupplies fun number Left r hserves h => ?_
  refine prompt_reaches h hv (by decide) (by omega) fun r h => ?_
  obtain ⟨n, ns, hns, hlength⟩ := exists_first_request k.greeting 1
  refine (h.expectRequest hns).bind ?_
  rintro n r ⟨rfl, h⟩
  refine (h.signalNext hv hserves rfl rfl (by simp; omega) (by simp; omega)).bind ?_
  rintro a r ⟨rfl, h⟩
  exact .pure ⟨_, h.toFed⟩

/-- A specimen registers exactly the demand that it is told to if and only if it requests nothing of
its own accord, neither when it is subscribed nor after an element. -/
theorem registersDemand_endsAs
    (hroom : k.greeting.length + k.echo.length + 1 ≤ v.config.capacity)
    (hsupplies : (Stage.helper v).Supplies (.cons a (.cons b values))) :
    (Scenario.registersDemand v).EndsAs (!(k.greeting ++ k.echo).isEmpty || k == silent)
      (.start v marks) fun _ r' => r'.log.entries = [] := by
  have hown := k.length_greeting_add_le
  refine set_endsAs hv hfits (by omega) hsupplies fun number Left r hserves h => ?_
  refine prompt_endsAs h hv (by decide) (by omega) fun r h => ?_
  cases hgreeting : k.greeting with
  | cons n ns =>
    rw [hgreeting] at h
    have hn : 2 < n := two_lt_of_mem_greeting (hgreeting ▸ List.mem_cons_self)
    exact (h.expectDemand_fails rfl (by decide) hn).bind _
  | nil =>
    rw [hgreeting] at h
    refine (h.expectDemand rfl (by decide)).bind_endsAs fun _ r h => ?_
    refine (h.signalNext hv hserves rfl rfl (by simp; omega) (by simp; omega)).bind_endsAs ?_
    rintro a r ⟨rfl, h⟩
    refine (h.expectElement rfl rfl).bind_endsAs fun _ r h => ?_
    refine (h.signalNext hv hserves rfl rfl (by simp; omega) (by simp; omega)).bind_endsAs ?_
    rintro b r ⟨rfl, h⟩
    refine (h.expectElement rfl rfl).bind_endsAs fun _ r h => ?_
    refine (h.expectNone rfl rfl).bind_endsAs fun _ r h => ?_
    -- the requests that wait now are the echoes of the two elements
    cases hecho : k.echo with
    | nil =>
      refine (h.expectNoRequest (by simp [hecho])).bind_endsAs fun _ r h => ?_
      refine (h.triggerRequest hv (by decide) (by simp [hecho]; omega)).bind_endsAs
        fun _ r h => ?_
      exact h.toFed.requireCleanLog
    | cons n ns => exact (h.expectNoRequest_fails (by simp [hecho])).bind _

/-! ### Cancellation -/

/-- A second subscription is cancelled by any specimen but the greedy one. -/
theorem cancelsSecondSubscription_endsAs (hroom : 0 < v.config.capacity)
    (hsupplies : (Stage.helper v).Supplies values) :
    (Scenario.cancelsSecondSubscription v).EndsAs (k == greedy || k == silent) (.start v marks)
      fun _ r' => r'.log.entries = [] := by
  refine set_endsAs hv hfits hroom hsupplies fun number Left r hserves h => ?_
  obtain ⟨i, hi⟩ := h.publisher.subscribed
  obtain ⟨r₁, hoffer, hsecond, hfed⟩ := h.offer_second hv
  refine Reaches.bind_endsAs (.ask (Q := fun _ r' => r' = r) (by rw [hi]) rfl) ?_
  rintro _ r rfl
  refine Reaches.bind_endsAs (.orPanic (Q := fun _ r' => r' = r₁) hoffer rfl) ?_
  rintro _ r₁ rfl
  by_cases hgreedy : k = greedy
  · rw [hgreedy] at hsecond ⊢
    exact Fails.bind (.await (Latch.closing_of_open _ _ hsecond)) _
  · have hclosed : r₁.second.isClosed = true := by simp [hsecond, hgreedy]
    refine Reaches.bind_endsAs (.await (a := ()) (Q := fun _ r' => r'.Fed v number Left _)
      (Latch.closing_eq_ok_iff.mpr ⟨hclosed, rfl⟩) fun d => { hfed hgreedy with }) fun _ r h => ?_
    rw [beq_false_of_ne hgreedy]
    exact h.requireCleanLog

theorem toleratesNextAfterCancel_endsAs
    (hroom : k.greeting.length + k.echo.length + 3 ≤ v.config.capacity) (hlimit : 1 ≤ v.maxSignals)
    (hsupplies : (Stage.helper v).Supplies (.cons a values)) :
    (Scenario.toleratesNextAfterCancel v).EndsAs (k == silent) (.start v marks) fun _ r' =>
      r'.log.entries = [] := by
  refine set_endsAs_silent hv hfits (by omega) hsupplies fun number Left r hserves h => ?_
  refine prompt_reaches h hv (by decide) (by omega) fun r h => ?_
  refine (h.signalCancel hv).bind fun _ r h => ?_
  refine (h.signalNext hv hserves rfl rfl (by simp; omega) (by simp; omega)).bind ?_
  rintro a r ⟨rfl, h⟩
  refine (h.triggerRequest hv (by decide) (by simp; omega)).bind fun _ r h => ?_
  refine (h.triggerRequest hv (by decide) (by simp; omega)).bind fun _ r h => ?_
  refine (h.awaitQuiet rfl ?_).bind fun _ r h => h.toFed.requireCleanLog
  have := UInt64.le_iff_toNat_le.mp hlimit
  simpa using this

/-! ### Terminal signals -/

theorem completionAfterRequest_endsAs
    (hroom : k.greeting.length + k.farewell.length + 1 ≤ v.config.capacity)
    (hsupplies : (Stage.helper v).Supplies values) :
    (Scenario.completionAfterRequest v).EndsAs (k == silent) (.start v marks) fun _ r' =>
      r'.log.entries = [] := by
  refine set_endsAs_silent hv hfits (by omega) hsupplies fun number Left r hserves h => ?_
  refine prompt_reaches h hv (by decide) (by omega) fun r h => ?_
  refine (h.sendCompletion hv rfl (by simp; omega)).bind ?_
  rintro _ r ⟨_, _, h⟩
  exact (h.expectCompletion rfl rfl).bind fun _ r h => h.requireCleanLog

theorem completionWithoutRequest_endsAs (hcapacity : 0 < v.config.capacity)
    (hroom : k.greeting.length + k.farewell.length ≤ v.config.capacity)
    (hsupplies : (Stage.helper v).Supplies values) :
    (Scenario.completionWithoutRequest v).EndsAs (k == silent) (.start v marks) fun _ r' =>
      r'.log.entries = [] := by
  refine set_endsAs_silent hv hfits hcapacity hsupplies fun number Left r hserves h => ?_
  refine (h.sendCompletion hv rfl hroom).bind ?_
  rintro _ r ⟨_, _, h⟩
  exact (h.expectCompletion rfl rfl).bind fun _ r h => h.requireCleanLog

theorem errorAfterRequest_endsAs
    (hroom : k.greeting.length + k.farewell.length + 2 ≤ v.config.capacity)
    (hsupplies : (Stage.helper v).Supplies values) :
    (Scenario.errorAfterRequest v).EndsAs (k == silent) (.start v marks) fun _ r' =>
      r'.log.entries = [] := by
  refine set_endsAs_silent hv hfits (by omega) hsupplies fun number Left r hserves h => ?_
  refine prompt_reaches h hv (by decide) (by omega) fun r h => ?_
  refine (h.triggerRequest hv (by decide) (by simp; omega)).bind fun _ r h => ?_
  refine (h.sendError hv rfl (by simp; omega) _).bind ?_
  rintro _ r ⟨_, _, h⟩
  exact (h.expectError rfl).bind fun _ r h => h.requireCleanLog

theorem errorWithoutRequest_endsAs (hcapacity : 0 < v.config.capacity)
    (hroom : k.greeting.length + k.farewell.length ≤ v.config.capacity)
    (hsupplies : (Stage.helper v).Supplies values) :
    (Scenario.errorWithoutRequest v).EndsAs (k == silent) (.start v marks) fun _ r' =>
      r'.log.entries = [] := by
  refine set_endsAs_silent hv hfits hcapacity hsupplies fun number Left r hserves h => ?_
  refine (h.sendError hv rfl hroom _).bind ?_
  rintro _ r ⟨_, _, h⟩
  exact (h.expectError rfl).bind fun _ r h => h.requireCleanLog

/-- Any specimen but the reentrant one leaves the sentinel alone in a terminal signal, or calls it
on another thread. -/
theorem terminalReentrancy_endsAs (t : Scenario.TerminalSignal) :
    (Scenario.terminalReentrancy v t).EndsAs (k == reentrant) (.start v []) fun _ r' =>
      r'.log.entries = [] := by
  obtain ⟨config, maxSignals, subject, helper⟩ := v
  obtain rfl : subject = k.subject := hv
  have hon := Scenario.terminalReentrancy_on ⟨config, maxSignals, k.subject, helper⟩ [] t
  rw [if_pos hfits] at hon
  -- what comes of the two callbacks depends on nothing but the specimen and the signal
  cases k
  case reentrant => cases t <;> exact ⟨_, _, hon⟩
  all_goals cases t <;> exact ⟨(), _, hon, rfl⟩

end StreamConformance.Specimen
