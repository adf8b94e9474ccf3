import StreamConformance.Rule.Catalog
import StreamConformance.Proofs.Cell.Promise
import StreamConformance.Proofs.Play.Basic
import StreamConformance.Proofs.Run.Calls
import StreamConformance.Proofs.Run.Relay

/-!
# Scenarios extend their runs

Every step that a scenario takes on a run extends the run, and so does every scenario of the
catalog: nothing that has been recorded is ever lost, whichever way the scenario ends.

## Main definitions

* `Stage.OnStage` — a program that is played on a stage.

## Main results

* `Stage.set_extends` — playing on a stage extends the run if what is played does.
* `Catalog.scenario_of_mem` — which scenarios of the catalog are played on a stage.
* `Catalog.extends_of_mem` — every scenario of the catalog extends its run.
-/

namespace StreamConformance

variable {α σ η ρ : Type}

namespace Run

variable (r : Run α σ η)

theorem exists_deliver_extends [Element α] (v : Verification α σ η) (s : Stimulus α) :
    ∃ es, r.Extends es (r.deliver v s).2 := by
  obtain ⟨es, -, h⟩ := deliver_extends v s r
  exact ⟨_, h.toExtends⟩

theorem exists_offer_extends [Element α] (v : Verification α σ η) (t : Target) :
    ∃ es, r.Extends es (r.offer v t).2 := by
  obtain ⟨es, -, h⟩ := offer_extends v t r
  exact ⟨_, (Extends.set_offers r t).trans h.toExtends⟩

theorem exists_subscribeSubject_extends [Element α] (v : Verification α σ η) (number : Nat) :
    ∃ es, r.Extends es (r.subscribeSubject v number).2 := by
  simp only [subscribeSubject]
  split
  next x _ _ => exact ⟨_, .record r (some x)⟩
  next p _ =>
    let r₀ : Run α σ η := { r with publisher := p }
    have hset : r.Extends [] r₀ := .of_untouched rfl rfl rfl rfl rfl rfl rfl
    obtain ⟨es, h⟩ := r₀.exists_offer_extends v .publisher
    exact ⟨[] ++ es, hset.trans h⟩

theorem exists_relay_extends {π : Type} (emission : Emission α η π) {e : Event α}
    (call : e.isCall = false) (kept : e.kept? = none) :
    ∃ es, r.Extends es (relay emission (r.note e)).2 := by
  obtain ⟨es, -, h⟩ := relay_extends emission (r.note e)
  exact ⟨_, (Extends.note r call kept).trans h.toExtends⟩

theorem exists_pulled_extends (a : α) :
    ∃ es, r.Extends es (({ r with lastPulled := some a } : Run α σ η).note (.pulled a)) := by
  have hset : r.Extends [] { r with lastPulled := some a } :=
    .of_untouched rfl rfl rfl rfl rfl rfl rfl
  exact ⟨_, hset.trans (.note _ rfl rfl)⟩

theorem exists_cancelTees_extends (h : Helper α η) : ∃ es, r.Extends es (r.cancelTees h) := by
  obtain ⟨es, -, hes⟩ := cancelTees_extends h r
  exact ⟨es, hes.toExtends⟩

end Run

namespace Stage

open Play (Extends)

/-! ### Expectations -/

theorem onPublisher_extends (e : Expectation (ManualPublisher Nat) ρ) (r : Run α σ η) :
    r.Extends [] ((onPublisher e).now r).2 :=
  .of_untouched rfl rfl rfl rfl rfl rfl rfl

/-- What is expected of the queue of the tees changes that queue only. -/
theorem onTees_onReceived_extends (e : Expectation (Queue α) ρ) (r : Run α σ η) :
    r.Extends [] ((onTees (ManualSubscriber.onReceived e)).now r).2 :=
  .of_untouched rfl rfl rfl rfl rfl rfl rfl

/-- What is expected of the blackbox part of the probe changes that part only. -/
theorem onProbe_onBlackbox_extends (e : Expectation (BlackboxProbe α) ρ) (r : Run α σ η) :
    r.Extends [] ((onProbe (WhiteboxProbe.onBlackbox e)).now r).2 :=
  .of_untouched rfl rfl rfl rfl rfl rfl rfl

theorem expectSubscription_extends (timeout : Duration) (r : Run α σ η) :
    r.Extends [] ((onTees (ManualSubscriber.expectSubscription timeout)).now r).2 :=
  .of_untouched rfl rfl rfl rfl rfl rfl (Promise.completion_now_snd ..)

theorem expectTeesError_extends (kind : Cause.Kind) (part : String) (timeout : Duration)
    (r : Run α σ η) :
    r.Extends [] ((onTees (ManualSubscriber.expectError kind part timeout)).now r).2 :=
  .of_untouched rfl rfl rfl rfl rfl rfl rfl

theorem expectRegistration_extends (subject : String) (timeout : Duration) (r : Run α σ η) :
    r.Extends [] ((onProbe (WhiteboxProbe.expectRegistration subject timeout)).now r).2 :=
  .of_untouched rfl rfl rfl rfl rfl (Promise.completion_now_snd ..) rfl

theorem onSecond_closing_extends (timeout : Duration) (message : String) (r : Run α σ η) :
    r.Extends [] ((onSecond (Latch.closing timeout message)).now r).2 :=
  .of_untouched rfl rfl rfl rfl rfl rfl rfl

/-! ### Setting the stage -/

section

variable (v : Verification α σ η)

theorem subjectName_extends : (subjectName v).Extends :=
  .bind .get fun _ => .pure _

theorem reserve_extends [Element α] : (reserve v).Extends :=
  .orPanic fun r => ⟨[], by split <;> exact .refl r⟩

theorem requireCleanLog_extends : (requireCleanLog : Play α σ η Unit).Extends := .ask _

theorem subscribeTees_extends (h : Helper α η) : (subscribeTees v h).Extends := by
  refine .bind (.orPanic fun r => ?_) fun _ => .bind (.await ?_) fun _ => requireCleanLog_extends
  · exact r.exists_relay_extends _ rfl rfl
  · exact expectSubscription_extends v.timeout

theorem createSubject_extends : (createSubject : Play α σ η Unit).Extends :=
  .modify fun r => ⟨_, .note r rfl rfl⟩

theorem wireSubject_extends [Element α] (number : Nat) : (wireSubject v number).Extends := by
  refine .bind (.orPanic fun r => ?_) fun _ => .bind (subjectName_extends v) fun name =>
    .bind (.await ?_) fun _ => .pure _
  · exact r.exists_subscribeSubject_extends v number
  · exact expectRegistration_extends name v.timeout

theorem setSubject_extends [Element α] : (setSubject v).Extends :=
  .bind createSubject_extends fun _ => wireSubject_extends v 0

/-- Playing on a stage extends the run if what is played does. -/
theorem set_extends [Element α] {body : Play α σ η ρ} (hb : body.Extends) :
    (set v body).Extends := by
  refine .bind (reserve_extends v) fun _ => .bind (subscribeTees_extends v _) fun _ =>
    .ensuring (.bind (setSubject_extends v) fun _ => hb) fun r => ?_
  exact r.exists_cancelTees_extends _

/-- The program is something that extends the run, played on a stage. -/
def OnStage [Element α] (p : Play α σ η ρ) : Prop := ∃ body, p = set v body ∧ body.Extends

variable {v} in
theorem OnStage.extends [Element α] {p : Play α σ η ρ} (h : OnStage v p) : p.Extends := by
  obtain ⟨body, rfl, hbody⟩ := h
  exact set_extends v hbody

/-! ### The steps of a scenario -/

theorem puppet_extends : (puppet v).Extends := .ask _

variable [Element α]

theorem triggerRequest_extends (puppet : Nat) (n : UInt64) :
    (triggerRequest v puppet n).Extends := .orPanic fun r => r.exists_deliver_extends v _

theorem signalCancel_extends (puppet : Nat) : (signalCancel v puppet).Extends :=
  .orPanic fun r => r.exists_deliver_extends v _

theorem sendNext_extends (a : α) : (sendNext v a).Extends :=
  .bind (.ask _) fun _ => .orPanic fun r => r.exists_deliver_extends v _

theorem sendCompletion_extends : (sendCompletion v).Extends :=
  .bind (.ask _) fun _ => .orPanic fun r => r.exists_deliver_extends v _

theorem sendError_extends (e : StreamError) : (sendError v e).Extends :=
  .bind (.ask _) fun _ => .orPanic fun r => r.exists_deliver_extends v _

omit [Element α] in
theorem pull_extends : (pull v).Extends := by
  refine .bind (.bind (.ask _) fun k => .bind (.orPanic fun r => ?_) fun _ => .await ?_)
    fun a => .bind (.modify fun r => r.exists_pulled_extends a) fun _ => .pure a
  · exact r.exists_relay_extends _ rfl rfl
  · exact onTees_onReceived_extends _

theorem signalNext_extends : (signalNext v).Extends :=
  .bind (pull_extends v) fun a => .bind (sendNext_extends v a) fun _ => .pure a

omit [Element α] in
theorem expectRequest_extends : (expectRequest v).Extends :=
  .await (onPublisher_extends _)

omit [Element α] in
theorem expectDemand_extends (expected : UInt64) : (expectDemand v expected).Extends :=
  .orViolation fun r => by
    let r₀ : Run α σ η := { r with publisher := (r.publisher.expectDemand v.timeout expected).2 }
    have hset : r.Extends [] r₀ := .of_untouched rfl rfl rfl rfl rfl rfl rfl
    exact ⟨_, hset.trans (.pass _ _)⟩

omit [Element α] in
theorem expectNoRequest_extends : (expectNoRequest v).Extends :=
  .await (onPublisher_extends _)

omit [Element α] in
theorem expectCancelling_extends : (expectCancelling v).Extends :=
  .await (onPublisher_extends _)

theorem expectElement_extends (a : α) : (expectElement v a).Extends :=
  .bind (subjectName_extends v) fun _ => .await (onProbe_onBlackbox_extends _)

theorem expectCompletion_extends : (expectCompletion v).Extends :=
  .bind (subjectName_extends v) fun _ => .await (onProbe_onBlackbox_extends _)

omit [Element α] in
theorem expectError_extends (e : StreamError) : (expectError v e).Extends :=
  .bind (subjectName_extends v) fun _ => .await (onProbe_onBlackbox_extends _)

theorem expectNone_extends : (expectNone v).Extends :=
  .await (onProbe_onBlackbox_extends _)

theorem drain_extends (rounds drained : Nat) : (drain v rounds drained).Extends := by
  induction rounds generalizing drained with
  | zero => exact .bind (subjectName_extends v) fun _ => .throw _
  | succ rounds ih =>
    refine .bind (.outcome (onProbe_onBlackbox_extends _)) fun outcome => ?_
    split
    · exact .pure _
    · exact ih _
    · exact .throw _

theorem awaitQuiet_extends : (awaitQuiet v).Extends := drain_extends v _ _

end

end Stage

/-! ### The catalog -/

namespace Stage

variable [Element α] {v : Verification α σ η} {p : Play α σ η ρ}

/-- On a stage the puppet requests twice, and what follows extends the run. -/
def RequestsTwice (v : Verification α σ η) (p : Play α σ η ρ) : Prop :=
  ∃ rest : Nat → Play α σ η ρ, p = set v (do
    let puppet ← puppet v
    triggerRequest v puppet 1
    triggerRequest v puppet 1
    rest puppet) ∧ ∀ puppet, (rest puppet).Extends

theorem RequestsTwice.onStage (h : RequestsTwice v p) : OnStage v p := by
  obtain ⟨rest, rfl, hrest⟩ := h
  exact ⟨_, rfl, .bind (puppet_extends v) fun puppet =>
    .bind (triggerRequest_extends v puppet 1) fun _ =>
      .bind (triggerRequest_extends v puppet 1) fun _ => hrest puppet⟩

end Stage

namespace Scenario

open Stage

variable [Element α] (v : Verification α σ η)

theorem happyPath_requestsTwice : RequestsTwice v (happyPath v) := by
  have last : ∀ puppet, (do
      let second ← signalNext v
      expectElement v second
      signalCancel v puppet
      expectCancelling v
      requireCleanLog : Play α σ η Unit).Extends := fun puppet =>
    .bind (signalNext_extends v) fun second => .bind (expectElement_extends v second) fun _ =>
      .bind (signalCancel_extends v puppet) fun _ => .bind (expectCancelling_extends v) fun _ =>
        requireCleanLog_extends
  refine ⟨_, rfl, fun puppet => .bind (expectRequest_extends v) fun _ =>
    .bind (signalNext_extends v) fun first => .bind (expectElement_extends v first) fun _ =>
      .bind (triggerRequest_extends v puppet 1) fun _ => .ite ?_ (last puppet)⟩
  exact .bind (expectRequest_extends v) fun _ => last puppet

theorem happyPath_onStage : OnStage v (happyPath v) := (happyPath_requestsTwice v).onStage

theorem happyPath_extends : (happyPath v).Extends := (happyPath_onStage v).extends

theorem signalsDemand_onStage : OnStage v (signalsDemand v) :=
  ⟨_, rfl, .bind (puppet_extends v) fun puppet =>
    .bind (triggerRequest_extends v puppet 1) fun _ => .bind (expectRequest_extends v) fun _ =>
      .bind (signalNext_extends v) fun _ => .pure _⟩

theorem signalsDemand_extends : (signalsDemand v).Extends := (signalsDemand_onStage v).extends

theorem terminalReentrancy_extends (t : TerminalSignal) : (terminalReentrancy v t).Extends := by
  refine .bind (reserve_extends v) fun _ => .bind createSubject_extends fun _ =>
    .bind (.orPanic fun r => ?_) fun _ => .bind (.orPanic fun r => ?_) fun _ =>
      requireCleanLog_extends
  · exact r.exists_offer_extends v _
  · exact r.exists_deliver_extends v _

theorem cancelsSecondSubscription_onStage : OnStage v (cancelsSecondSubscription v) := by
  refine ⟨_, rfl, .bind (.ask _) fun _ => .bind (.orPanic fun r => ?_) fun _ =>
    .bind (.await ?_) fun _ => requireCleanLog_extends⟩
  · exact r.exists_offer_extends v _
  · exact onSecond_closing_extends _ _

theorem cancelsSecondSubscription_extends : (cancelsSecondSubscription v).Extends :=
  (cancelsSecondSubscription_onStage v).extends

theorem toleratesNextAfterCancel_onStage : OnStage v (toleratesNextAfterCancel v) :=
  ⟨_, rfl, .bind (puppet_extends v) fun puppet =>
    .bind (triggerRequest_extends v puppet 1) fun _ =>
      .bind (signalCancel_extends v puppet) fun _ => .bind (signalNext_extends v) fun _ =>
        .bind (triggerRequest_extends v puppet 1) fun _ =>
          .bind (triggerRequest_extends v puppet 1) fun _ =>
            .bind (awaitQuiet_extends v) fun _ => requireCleanLog_extends⟩

theorem completionAfterRequest_onStage : OnStage v (completionAfterRequest v) :=
  ⟨_, rfl, .bind (puppet_extends v) fun puppet =>
    .bind (triggerRequest_extends v puppet 1) fun _ => .bind (sendCompletion_extends v) fun _ =>
      .bind (expectCompletion_extends v) fun _ => requireCleanLog_extends⟩

theorem completionWithoutRequest_onStage : OnStage v (completionWithoutRequest v) :=
  ⟨_, rfl, .bind (sendCompletion_extends v) fun _ =>
    .bind (expectCompletion_extends v) fun _ => requireCleanLog_extends⟩

theorem errorAfterRequest_requestsTwice : RequestsTwice v (errorAfterRequest v) :=
  ⟨_, rfl, fun _ => .bind (sendError_extends v testError) fun _ =>
    .bind (expectError_extends v testError) fun _ => requireCleanLog_extends⟩

theorem errorAfterRequest_onStage : OnStage v (errorAfterRequest v) :=
  (errorAfterRequest_requestsTwice v).onStage

theorem errorWithoutRequest_onStage : OnStage v (errorWithoutRequest v) :=
  ⟨_, rfl, .bind (sendError_extends v testError) fun _ =>
    .bind (expectError_extends v testError) fun _ => requireCleanLog_extends⟩

theorem rejectsSecondSubscribe_extends : (rejectsSecondSubscribe v).Extends := by
  refine .bind (reserve_extends v) fun _ => .bind (.modify fun r => ?_) fun _ =>
    .unlessPanic (.bind (subscribeTees_extends v _) fun _ => .bind (.await ?_) fun _ =>
      .bind (.orPanic fun r => ?_) fun _ => .bind (.await ?_) fun _ => .pure _) fun r => ?_
  · exact ⟨[], (Run.HelperExtends.set_helper r _).toExtends⟩
  · exact onTees_onReceived_extends _
  · exact r.exists_relay_extends _ rfl rfl
  · exact expectTeesError_extends _ _ _
  · exact r.exists_cancelTees_extends _

theorem registersDemand_onStage : OnStage v (registersDemand v) :=
  ⟨_, rfl, .bind (puppet_extends v) fun puppet =>
    .bind (triggerRequest_extends v puppet 2) fun _ => .bind (expectDemand_extends v 2) fun _ =>
      .bind (signalNext_extends v) fun first => .bind (expectElement_extends v first) fun _ =>
        .bind (signalNext_extends v) fun second => .bind (expectElement_extends v second) fun _ =>
          .bind (expectNone_extends v) fun _ => .bind (expectNoRequest_extends v) fun _ =>
            .bind (triggerRequest_extends v puppet 3) fun _ => requireCleanLog_extends⟩

theorem registersDemand_extends : (registersDemand v).Extends := (registersDemand_onStage v).extends

omit [Element α] in
theorem recording_extends (records : List Violation) (ending : Except Halt Unit) :
    (recording records ending v).Extends := by
  refine .bind ?_ fun _ => ?_
  · induction records with
    | nil => exact .pure _
    | cons x records ih =>
      rw [List.forIn_cons]
      refine .bind (.bind (.modify fun r => ⟨_, .record r (some x)⟩) fun _ => .pure _)
        fun step => ?_
      cases step with
      | done => exact .pure _
      | yield => exact ih
  · rcases ending with h | ⟨⟩
    · exact .throw h
    · exact .pure _

end Scenario

/-- The scenarios of the catalog: those of rule 2.3 and the one of rule 2.12 set no stage, and all
others are played on one. -/
theorem Catalog.scenario_of_mem [Element α] {rule : Rule α σ η}
    (hr : rule ∈ (Catalog.rules : List (Rule α σ η))) {scenario : Scenario α σ η}
    (hs : rule.scenario = some scenario) :
    (rule.rules ≠ ["2.12"] ∧ ∀ v, Stage.OnStage v (scenario v)) ∨
    (rule.rules ≠ ["2.12"] ∧ ∃ t, scenario = fun v => Scenario.terminalReentrancy v t) ∨
    (rule.rules = ["2.12"] ∧ scenario = Scenario.rejectsSecondSubscribe) := by
  simp only [Catalog.rules, List.mem_cons, List.not_mem_nil, or_false] at hr
  rcases hr with rfl | rfl | rfl | rfl | rfl | rfl | rfl | rfl | rfl | rfl | rfl | rfl | rfl |
    rfl | rfl | rfl | rfl | rfl | rfl | rfl | rfl | rfl | rfl | rfl <;> cases hs
  · exact .inl ⟨by simp [required], Scenario.happyPath_onStage⟩
  · exact .inl ⟨by simp [required], Scenario.signalsDemand_onStage⟩
  · exact .inr (.inl ⟨by simp [required], .complete, rfl⟩)
  · exact .inr (.inl ⟨by simp [required], .error, rfl⟩)
  · exact .inl ⟨by simp [required], Scenario.cancelsSecondSubscription_onStage⟩
  · exact .inl ⟨by simp [required], Scenario.toleratesNextAfterCancel_onStage⟩
  · exact .inl ⟨by simp [required], Scenario.completionAfterRequest_onStage⟩
  · exact .inl ⟨by simp [required], Scenario.completionWithoutRequest_onStage⟩
  · exact .inl ⟨by simp [required], Scenario.errorAfterRequest_onStage⟩
  · exact .inl ⟨by simp [required], Scenario.errorWithoutRequest_onStage⟩
  · exact .inr (.inr ⟨rfl, rfl⟩)
  · exact .inl ⟨by simp [required], Scenario.registersDemand_onStage⟩

/-- Every scenario of the catalog extends its run. -/
theorem Catalog.extends_of_mem [Element α] {rule : Rule α σ η}
    (hr : rule ∈ (Catalog.rules : List (Rule α σ η))) {scenario : Scenario α σ η}
    (hs : rule.scenario = some scenario) (v : Verification α σ η) : (scenario v).Extends := by
  rcases scenario_of_mem hr hs with ⟨-, h⟩ | ⟨-, t, rfl⟩ | ⟨-, rfl⟩
  · exact (h v).extends
  · exact Scenario.terminalReentrancy_extends v t
  · exact Scenario.rejectsSecondSubscribe_extends v

end StreamConformance
