import StreamConformance.Proofs.Rule.Verdict
import StreamConformance.Proofs.Stage.Widening

/-!
# Verdicts within wider limits

Raising the limits never turns a pass into a failure. An entry that has passed has never met a full
queue, since that would be in the log, so within wider limits its scenario takes the same steps on
wider queues, and passes again.

## Main results

* `Catalog.followedBy_of_mem` — every scenario of the catalog within wider limits.
* `Rule.execute_withLimits` — the run that is left within wider limits.
* `Rule.passed_within_wider_limits` — a pass stays one.
-/

namespace StreamConformance

variable {α σ η : Type}

/-! ### The catalog -/

namespace Scenario

open Stage

variable [Element α] (v : Verification α σ η) {c : Nat} (b : UInt64) {d : Nat}

theorem happyPath_followedBy (hfits : Stage.fits α c = true) :
    (happyPath v).FollowedBy d (happyPath (v.withLimits c b)) := by
  have last : ∀ puppet, (do
      let second ← signalNext v
      expectElement v second
      signalCancel v puppet
      expectCancelling v
      requireCleanLog : Play α σ η Unit).FollowedBy d (do
      let second ← signalNext (v.withLimits c b)
      expectElement (v.withLimits c b) second
      signalCancel (v.withLimits c b) puppet
      expectCancelling (v.withLimits c b)
      requireCleanLog) := fun puppet =>
    .bind (signalNext_followedBy v c b) fun second =>
      .bind (expectElement_followedBy v c b second) fun _ =>
        .bind (signalCancel_followedBy v c b puppet) fun _ =>
          .bind (expectCancelling_followedBy v c b) fun _ => requireCleanLog_followedBy
  refine set_followedBy v c b hfits (.bind (puppet_followedBy v c b) fun puppet =>
    .bind (triggerRequest_followedBy v c b puppet 1) fun _ =>
      .bind (triggerRequest_followedBy v c b puppet 1) fun _ =>
        .bind (expectRequest_followedBy v c b) fun _ =>
          .bind (signalNext_followedBy v c b) fun first =>
            .bind (expectElement_followedBy v c b first) fun _ =>
              .bind (triggerRequest_followedBy v c b puppet 1) fun _ => .ite ?_ (last puppet))
  exact .bind (expectRequest_followedBy v c b) fun _ => last puppet

theorem signalsDemand_followedBy (hfits : Stage.fits α c = true) :
    (signalsDemand v).FollowedBy d (signalsDemand (v.withLimits c b)) :=
  set_followedBy v c b hfits (.bind (puppet_followedBy v c b) fun puppet =>
    .bind (triggerRequest_followedBy v c b puppet 1) fun _ =>
      .bind (expectRequest_followedBy v c b) fun _ =>
        .bind (signalNext_followedBy v c b) fun _ => .pure _)

theorem terminalReentrancy_followedBy (t : TerminalSignal) (hfits : Stage.fits α c = true) :
    (terminalReentrancy v t).FollowedBy d (terminalReentrancy (v.withLimits c b) t) :=
  .bind (reserve_followedBy v c b hfits) fun _ => .bind createSubject_followedBy fun _ =>
    .bind (offer_followedBy v c b _) fun _ => .bind (deliver_followedBy v c b _) fun _ =>
      requireCleanLog_followedBy

theorem cancelsSecondSubscription_followedBy (hfits : Stage.fits α c = true) :
    (cancelsSecondSubscription v).FollowedBy d (cancelsSecondSubscription (v.withLimits c b)) :=
  set_followedBy v c b hfits (.bind (.ask fun _ => rfl) fun _ =>
    .bind (offer_followedBy v c b _) fun _ =>
      .bind (.await (onSecond_closing_extends _ _) (onSecond_commutes _)) fun _ =>
        requireCleanLog_followedBy)

theorem toleratesNextAfterCancel_followedBy (hfits : Stage.fits α c = true)
    (hb : v.maxSignals ≤ b) :
    (toleratesNextAfterCancel v).FollowedBy d (toleratesNextAfterCancel (v.withLimits c b)) :=
  set_followedBy v c b hfits (.bind (puppet_followedBy v c b) fun puppet =>
    .bind (triggerRequest_followedBy v c b puppet 1) fun _ =>
      .bind (signalCancel_followedBy v c b puppet) fun _ =>
        .bind (signalNext_followedBy v c b) fun _ =>
          .bind (triggerRequest_followedBy v c b puppet 1) fun _ =>
            .bind (triggerRequest_followedBy v c b puppet 1) fun _ =>
              .bind (awaitQuiet_followedBy v c b hb) fun _ => requireCleanLog_followedBy)

theorem completionAfterRequest_followedBy (hfits : Stage.fits α c = true) :
    (completionAfterRequest v).FollowedBy d (completionAfterRequest (v.withLimits c b)) :=
  set_followedBy v c b hfits (.bind (puppet_followedBy v c b) fun puppet =>
    .bind (triggerRequest_followedBy v c b puppet 1) fun _ =>
      .bind (sendCompletion_followedBy v c b) fun _ =>
        .bind (expectCompletion_followedBy v c b) fun _ => requireCleanLog_followedBy)

theorem completionWithoutRequest_followedBy (hfits : Stage.fits α c = true) :
    (completionWithoutRequest v).FollowedBy d (completionWithoutRequest (v.withLimits c b)) :=
  set_followedBy v c b hfits (.bind (sendCompletion_followedBy v c b) fun _ =>
    .bind (expectCompletion_followedBy v c b) fun _ => requireCleanLog_followedBy)

theorem errorAfterRequest_followedBy (hfits : Stage.fits α c = true) :
    (errorAfterRequest v).FollowedBy d (errorAfterRequest (v.withLimits c b)) :=
  set_followedBy v c b hfits (.bind (puppet_followedBy v c b) fun puppet =>
    .bind (triggerRequest_followedBy v c b puppet 1) fun _ =>
      .bind (triggerRequest_followedBy v c b puppet 1) fun _ =>
        .bind (sendError_followedBy v c b testError) fun _ =>
          .bind (expectError_followedBy v c b testError) fun _ => requireCleanLog_followedBy)

theorem errorWithoutRequest_followedBy (hfits : Stage.fits α c = true) :
    (errorWithoutRequest v).FollowedBy d (errorWithoutRequest (v.withLimits c b)) :=
  set_followedBy v c b hfits (.bind (sendError_followedBy v c b testError) fun _ =>
    .bind (expectError_followedBy v c b testError) fun _ => requireCleanLog_followedBy)

theorem rejectsSecondSubscribe_followedBy (hfits : Stage.fits α c = true) :
    (rejectsSecondSubscribe v).FollowedBy d (rejectsSecondSubscribe (v.withLimits c b)) := by
  refine .bind (reserve_followedBy v c b hfits) fun _ => .bind (.modify (fun r => ?_) fun _ => rfl)
    fun _ => .unlessPanic (.bind (subscribeTees_followedBy v c b _) fun _ =>
      .bind (.await (onTees_onReceived_extends _) ?_) fun _ =>
        .bind (.orPanic (fun r => ?_) fun r hr => ?_) fun _ =>
          .bind (.await (expectTeesError_extends _ _ _) ?_) fun _ => .pure _)
      (fun r => ?_) fun r hr => ?_
  · exact ⟨[], (Run.HelperExtends.set_helper r _).toExtends⟩
  · exact onTees_commutes (ManualSubscriber.onReceived_commutes (Queue.silence_commutes _ _ d))
  · exact r.exists_relay_extends _ rfl rfl
  · exact Run.relay_widen hr
  · exact onTees_commutes (ManualSubscriber.expectError_commutes _ _ _)
  · exact r.exists_cancelTees_extends _
  · exact Run.cancelTees_widen hr

theorem registersDemand_followedBy (hfits : Stage.fits α c = true) :
    (registersDemand v).FollowedBy d (registersDemand (v.withLimits c b)) :=
  set_followedBy v c b hfits (.bind (puppet_followedBy v c b) fun puppet =>
    .bind (triggerRequest_followedBy v c b puppet 2) fun _ =>
      .bind (expectDemand_followedBy v c b 2) fun _ =>
        .bind (signalNext_followedBy v c b) fun first =>
          .bind (expectElement_followedBy v c b first) fun _ =>
            .bind (signalNext_followedBy v c b) fun second =>
              .bind (expectElement_followedBy v c b second) fun _ =>
                .bind (expectNone_followedBy v c b) fun _ =>
                  .bind (expectNoRequest_followedBy v c b) fun _ =>
                    .bind (triggerRequest_followedBy v c b puppet 3) fun _ =>
                      requireCleanLog_followedBy)

end Scenario

/-- Every scenario of the catalog is followed within wider limits. -/
theorem Catalog.followedBy_of_mem [Element α] {rule : Rule α σ η}
    (hr : rule ∈ (Catalog.rules : List (Rule α σ η))) {scenario : Scenario α σ η}
    (hs : rule.scenario = some scenario) (v : Verification α σ η) {c : Nat} {b : UInt64}
    (hfits : Stage.fits α c = true) (hb : v.maxSignals ≤ b) (d : Nat) :
    (scenario v).FollowedBy d (scenario (v.withLimits c b)) := by
  simp only [Catalog.rules, List.mem_cons, List.not_mem_nil, or_false] at hr
  rcases hr with rfl | rfl | rfl | rfl | rfl | rfl | rfl | rfl | rfl | rfl | rfl | rfl | rfl |
    rfl | rfl | rfl | rfl | rfl | rfl | rfl | rfl | rfl | rfl | rfl <;> cases hs
  · exact Scenario.happyPath_followedBy v b hfits
  · exact Scenario.signalsDemand_followedBy v b hfits
  · exact Scenario.terminalReentrancy_followedBy v b .complete hfits
  · exact Scenario.terminalReentrancy_followedBy v b .error hfits
  · exact Scenario.cancelsSecondSubscription_followedBy v b hfits
  · exact Scenario.toleratesNextAfterCancel_followedBy v b hfits hb
  · exact Scenario.completionAfterRequest_followedBy v b hfits
  · exact Scenario.completionWithoutRequest_followedBy v b hfits
  · exact Scenario.errorAfterRequest_followedBy v b hfits
  · exact Scenario.errorWithoutRequest_followedBy v b hfits
  · exact Scenario.rejectsSecondSubscribe_followedBy v b hfits
  · exact Scenario.registersDemand_followedBy v b hfits

/-! ### Verdicts -/

namespace Rule

variable [Element α] {rule : Rule α σ η} {v : Verification α σ η}

/-- Where an entry of the catalog passes, it passes with more room in the queues and with a higher
limit of elements, and leaves the same run but for the room in its queues. -/
theorem execute_withLimits (hr : rule ∈ (Catalog.rules : List (Rule α σ η))) {d : Nat} {b : UInt64}
    (hfits : Stage.fits α (v.config.capacity + d) = true) (hb : v.maxSignals ≤ b) {marks : Marks}
    (hpassed : (rule.execute v marks).1 = .passed) :
    rule.execute (v.withLimits (v.config.capacity + d) b) marks =
      (.passed, (rule.execute v marks).2.widen d) := by
  cases hs : rule.scenario with
  | none => simp [execute, hs] at hpassed
  | some scenario =>
    have hfollowed := Catalog.followedBy_of_mem hr hs v hfits hb d
    obtain ⟨r, hexecute, hon, hlog, -⟩ := of_passed hs hfollowed.grows hpassed
    rw [execute_of_scenario hs, hexecute, Run.start_withLimits, hfollowed.on_widen hon hlog]
    exact Prod.ext ((judge_eq_passed_iff _ _ _).mpr ⟨rfl, hlog⟩) rfl

variable (v) (marks : Marks)

/-- Raising the limits never turns a pass into a failure: an entry of the catalog that passes also
passes with every greater capacity for which storage can be reserved and with every higher limit of
elements, and what passes between the harness, the subject and the helper is the same. -/
theorem passed_within_wider_limits (hr : rule ∈ (Catalog.rules : List (Rule α σ η)))
    {capacity : Nat} {maxSignals : UInt64} (hcapacity : v.config.capacity ≤ capacity)
    (hlimit : v.maxSignals ≤ maxSignals) (hfits : Stage.fits α capacity = true)
    (hpassed : (rule.execute v marks).1 = .passed) :
    (rule.execute (v.withLimits capacity maxSignals) marks).1 = .passed ∧
      (rule.execute (v.withLimits capacity maxSignals) marks).2.history =
        (rule.execute v marks).2.history := by
  obtain ⟨d, rfl⟩ := Nat.exists_eq_add_of_le hcapacity
  rw [execute_withLimits hr hfits hlimit hpassed]
  exact ⟨rfl, rfl⟩

/-- What the reference passes with room for three requests it passes with a hundred times the
room. -/
theorem passed_within_wider_limits_reference :
    let v := Specimen.reference.verification ⟨.ofMillis 100, 3⟩
    ∃ rule ∈ Catalog.rules, rule.rules = ["2.8"] ∧ v.config.capacity ≤ 300 ∧
      v.maxSignals ≤ 18446744073709551615 ∧ Stage.fits UInt64 300 = true ∧
      (rule.execute v []).1 = .passed ∧
      (rule.execute (v.withLimits 300 18446744073709551615) []).1 = .passed := by
  intro v
  have hr : Catalog.required
      ("required_spec208_must_be_prepared_to_receive_on_next_signals_after_having_called_" ++
        "subscription_cancel") ["2.8"] "onNext may still arrive after cancel"
      Scenario.toleratesNextAfterCancel ∈ (Catalog.rules :
        List (Rule UInt64 (Option Nat) Range.HelperState)) := by
    simp [Catalog.rules]
  refine ⟨_, hr, rfl, by decide, by decide, by decide, by decide +kernel, ?_⟩
  exact (passed_within_wider_limits v [] hr (by decide) (by decide) (by decide)
    (by decide +kernel)).1

end Rule

end StreamConformance
