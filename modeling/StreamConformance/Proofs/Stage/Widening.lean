import StreamConformance.Proofs.Run.Widening
import StreamConformance.Proofs.Stage.Extension
import StreamConformance.Proofs.Stage.Steps

/-!
# Scenarios within wider limits

Within wider limits every step of a scenario that ends well and leaves nothing in the log ends in
the same way on the wider run. Two steps look at the limits themselves: the storage for the queues
must still be reserved, and a wait for a quiet window has more rounds.

## Main definitions

* `Play.FollowedBy` — a program that another one follows on the wider run.

## Main results

* `Play.FollowedBy.bind` and its companions — programs made of such programs are such programs.
* `Stage.set_followedBy` — playing on a stage within wider limits.
* `Stage.awaitQuiet_followedBy` — waiting for a quiet window in more rounds.
-/

namespace StreamConformance

variable {α σ η ρ ρ' : Type}

namespace Play

/-- Where the program `p` ends well and leaves nothing in the log, the program `p'` ends with the
same value on the run with room for `d` more entries, and leaves the wider run. -/
structure FollowedBy (d : Nat) (p p' : Play α σ η ρ) : Prop where
  /-- What is not in the log at the end was never there. -/
  grows : p.Extends
  on_widen : ∀ {r r₁ : Run α σ η} {a : ρ}, p.on r = (.ok a, r₁) → r₁.log.entries = [] →
    p'.on (r.widen d) = (.ok a, r₁.widen d)

namespace FollowedBy

variable {d : Nat}

protected theorem pure (a : ρ) : (pure a : Play α σ η ρ).FollowedBy d (pure a) where
  grows := .pure a
  on_widen hon _ := by
    rw [on_pure, Prod.mk.injEq] at hon
    rw [on_pure, hon.1, hon.2]

/-- A sequence is followed by a sequence of followers. Since what comes later only adds to the log,
a log that is empty at the end is empty in between. -/
protected theorem bind {x x' : Play α σ η ρ} {f f' : ρ → Play α σ η ρ'} (hx : x.FollowedBy d x')
    (hf : ∀ a, (f a).FollowedBy d (f' a)) : (x >>= f).FollowedBy d (x' >>= f') where
  grows := .bind hx.grows fun a => (hf a).grows
  on_widen {r r₂ b} hon hlog := by
    obtain ⟨a, r₁, hfirst, hrest⟩ := on_bind_eq_ok_iff.mp hon
    obtain ⟨es, hes⟩ := (hf a).grows r₁
    rw [hrest] at hes
    exact on_bind_eq_ok_iff.mpr
      ⟨a, r₁.widen d, hx.on_widen hfirst (hes.log_eq_nil hlog), (hf a).on_widen hrest hlog⟩

protected theorem ite {c : Prop} [Decidable c] {x x' y y' : Play α σ η ρ}
    (hx : x.FollowedBy d x') (hy : y.FollowedBy d y') :
    (if c then x else y).FollowedBy d (if c then x' else y') := by
  split
  · exact hx
  · exact hy

protected theorem modify {f : Run α σ η → Run α σ η}
    (hext : ∀ r : Run α σ η, ∃ es, r.Extends es (f r)) (hf : ∀ r, f (r.widen d) = (f r).widen d) :
    (modify f : Play α σ η Unit).FollowedBy d (modify f) where
  grows := .modify hext
  on_widen hon _ := by
    rw [on_modify, Prod.mk.injEq] at hon
    rw [on_modify, hf, hon.2]

protected theorem orPanic {f : Run α σ η → Except Panic ρ × Run α σ η}
    (hext : ∀ r : Run α σ η, ∃ es, r.Extends es (f r).2)
    (hf : ∀ r, (f r).2.log.entries = [] → f (r.widen d) = (f r).map id (.widen d)) :
    (orPanic f).FollowedBy d (orPanic f) where
  grows := .orPanic hext
  on_widen {r r₁ a} hon hlog := by
    rw [on_orPanic_eq_ok_iff] at hon ⊢
    rw [hf r (by rw [hon]; exact hlog), hon]
    rfl

protected theorem orViolation {f : Run α σ η → Except Violation ρ × Run α σ η}
    (hext : ∀ r : Run α σ η, ∃ es, r.Extends es (f r).2)
    (hf : ∀ r, f (r.widen d) = (f r).map id (.widen d)) :
    (orViolation f).FollowedBy d (orViolation f) where
  grows := .orViolation hext
  on_widen {r r₁ a} hon _ := by
    rw [on_orViolation_eq_ok_iff] at hon ⊢
    rw [hf r, hon]
    rfl

protected theorem ask {f : Run α σ η → Except Violation ρ} (hf : ∀ r, f (r.widen d) = f r) :
    (ask f).FollowedBy d (ask f) :=
  .orViolation (fun r => ⟨[], .refl r⟩) fun r => by rw [hf r]; rfl

protected theorem await {e : Expectation (Run α σ η) ρ}
    (hext : ∀ r : Run α σ η, r.Extends [] (e.now r).2) (he : e.Commutes (.widen d)) :
    (await e).FollowedBy d (await e) :=
  .orViolation (fun r => ⟨_, (hext r).trans (.pass _ _)⟩) fun r => by rw [he.now, he.cost]; rfl

protected theorem outcome {e : Expectation (Run α σ η) ρ}
    (hext : ∀ r : Run α σ η, r.Extends [] (e.now r).2) (he : e.Commutes (.widen d)) :
    (outcome e).FollowedBy d (outcome e) where
  grows := .outcome hext
  on_widen hon _ := by
    rw [on_outcome, Prod.mk.injEq] at hon
    rw [on_outcome, he.now, he.cost, ← hon.1, ← hon.2]
    rfl

protected theorem ensuring {body body' : Play α σ η ρ} {last : Run α σ η → Run α σ η}
    (hbody : body.FollowedBy d body') (hext : ∀ r : Run α σ η, ∃ es, r.Extends es (last r))
    (hlast : ∀ r, (last r).log.entries = [] → last (r.widen d) = (last r).widen d) :
    (ensuring body last).FollowedBy d (ensuring body' last) where
  grows := .ensuring hbody.grows hext
  on_widen {r r₂ a} hon hlog := by
    obtain ⟨r₁, hended, rfl⟩ := on_ensuring_eq_ok_iff.mp hon
    obtain ⟨es, hes⟩ := hext r₁
    refine on_ensuring_eq_ok_iff.mpr ⟨_, hbody.on_widen hended (hes.log_eq_nil hlog), ?_⟩
    rw [hlast r₁ hlog]

protected theorem unlessPanic {body body' : Play α σ η ρ} {last : Run α σ η → Run α σ η}
    (hbody : body.FollowedBy d body') (hext : ∀ r : Run α σ η, ∃ es, r.Extends es (last r))
    (hlast : ∀ r, (last r).log.entries = [] → last (r.widen d) = (last r).widen d) :
    (unlessPanic body last).FollowedBy d (unlessPanic body' last) where
  grows := .unlessPanic hbody.grows hext
  on_widen {r r₂ a} hon hlog := by
    obtain ⟨r₁, hended, rfl⟩ := on_unlessPanic_eq_ok_iff.mp hon
    obtain ⟨es, hes⟩ := hext r₁
    refine on_unlessPanic_eq_ok_iff.mpr ⟨_, hbody.on_widen hended (hes.log_eq_nil hlog), ?_⟩
    rw [hlast r₁ hlog]

end FollowedBy

end Play

namespace Stage

open Play (FollowedBy)

variable {d : Nat}

/-! ### Expectations -/

theorem onPublisher_commutes {e : Expectation (ManualPublisher Nat) ρ}
    (he : e.Commutes (.widen d)) :
    (onPublisher e : Expectation (Run α σ η) ρ).Commutes (.widen d) :=
  he.onPart (fun _ => rfl) fun _ _ => rfl

theorem onTees_commutes {e : Expectation (ManualSubscriber α Nat) ρ} (he : e.Commutes (.widen d)) :
    (onTees e : Expectation (Run α σ η) ρ).Commutes (.widen d) :=
  he.onPart (fun _ => rfl) fun _ _ => rfl

theorem onProbe_commutes {e : Expectation (WhiteboxProbe α Nat) ρ} (he : e.Commutes (.widen d)) :
    (onProbe e : Expectation (Run α σ η) ρ).Commutes (.widen d) :=
  he.onPart (fun _ => rfl) fun _ _ => rfl

theorem onSecond_commutes (e : Expectation Latch ρ) :
    (onSecond e : Expectation (Run α σ η) ρ).Commutes (.widen d) :=
  (Expectation.Commutes.id e).onPart (fun _ => rfl) fun _ _ => rfl

/-! ### Setting the stage -/

variable (v : Verification α σ η) (c : Nat) (b : UInt64)

theorem subjectName_followedBy :
    (subjectName v).FollowedBy d (subjectName (v.withLimits c b)) where
  grows := subjectName_extends v
  on_widen hon _ := by
    rw [on_subjectName, Prod.mk.injEq] at hon
    rw [on_subjectName, ← hon.1, ← hon.2]
    rfl

/-- Storage is reserved within wider limits if there can be that much of it. -/
theorem reserve_followedBy [Element α] (hfits : Stage.fits α c = true) :
    (reserve v).FollowedBy d (reserve (v.withLimits c b)) where
  grows := reserve_extends v
  on_widen hon _ := by
    obtain ⟨-, rfl⟩ := on_reserve_eq_ok_iff.mp hon
    exact on_reserve_eq_ok_iff.mpr ⟨hfits, rfl⟩

theorem requireCleanLog_followedBy :
    (requireCleanLog : Play α σ η Unit).FollowedBy d requireCleanLog := .ask fun _ => rfl

theorem subscribeTees_followedBy (h : Helper α η) :
    (subscribeTees v h).FollowedBy d (subscribeTees (v.withLimits c b) h) := by
  refine .bind (.orPanic (fun r => ?_) fun r hr => ?_) fun _ => .bind (.await ?_ ?_) fun _ =>
    requireCleanLog_followedBy
  · exact r.exists_relay_extends _ rfl rfl
  · exact Run.relay_widen hr
  · exact expectSubscription_extends v.timeout
  · exact onTees_commutes (ManualSubscriber.expectSubscription_commutes v.timeout)

theorem createSubject_followedBy :
    (createSubject : Play α σ η Unit).FollowedBy d createSubject :=
  .modify (fun r => ⟨_, .note r rfl rfl⟩) fun _ => rfl

theorem setSubject_followedBy [Element α] :
    (setSubject v).FollowedBy d (setSubject (v.withLimits c b)) := by
  refine .bind createSubject_followedBy fun _ => .bind (.orPanic (fun r => ?_) fun r hr => ?_)
    fun _ => .bind (subjectName_followedBy v c b) fun name => .bind (.await ?_ ?_) fun _ => .pure _
  · exact r.exists_subscribeSubject_extends v 0
  · exact Run.subscribeSubject_widen hr
  · exact expectRegistration_extends name v.timeout
  · exact onProbe_commutes (WhiteboxProbe.expectRegistration_commutes name v.timeout)

/-- A stage within wider limits is set and left in the same way, if there can be storage for it. -/
theorem set_followedBy [Element α] (hfits : Stage.fits α c = true) {body body' : Play α σ η ρ}
    (hbody : body.FollowedBy d body') :
    (set v body).FollowedBy d (set (v.withLimits c b) body') := by
  refine .bind (reserve_followedBy v c b hfits) fun _ => .bind (subscribeTees_followedBy v c b _)
    fun _ => .ensuring (.bind (setSubject_followedBy v c b) fun _ => hbody) (fun r => ?_)
      fun r hr => ?_
  · exact r.exists_cancelTees_extends _
  · exact Run.cancelTees_widen hr

/-! ### The steps of a scenario -/

theorem puppet_followedBy : (puppet v).FollowedBy d (puppet (v.withLimits c b)) :=
  .ask fun _ => rfl

variable [Element α]

theorem deliver_followedBy (s : Stimulus α) :
    (Play.orPanic (Run.deliver v s)).FollowedBy d
      (Play.orPanic (Run.deliver (v.withLimits c b) s)) :=
  .orPanic (fun r => r.exists_deliver_extends v s) fun _ => Run.deliver_widen

theorem offer_followedBy (t : Target) :
    (Play.orPanic (Run.offer v t)).FollowedBy d
      (Play.orPanic (Run.offer (v.withLimits c b) t)) :=
  .orPanic (fun r => r.exists_offer_extends v t) fun _ => Run.offer_widen

theorem triggerRequest_followedBy (puppet : Nat) (n : UInt64) :
    (triggerRequest v puppet n).FollowedBy d (triggerRequest (v.withLimits c b) puppet n) :=
  deliver_followedBy v c b _

theorem signalCancel_followedBy (puppet : Nat) :
    (signalCancel v puppet).FollowedBy d (signalCancel (v.withLimits c b) puppet) :=
  deliver_followedBy v c b _

theorem sendNext_followedBy (a : α) :
    (sendNext v a).FollowedBy d (sendNext (v.withLimits c b) a) :=
  .bind (.ask fun _ => rfl) fun _ => deliver_followedBy v c b _

theorem sendCompletion_followedBy :
    (sendCompletion v).FollowedBy d (sendCompletion (v.withLimits c b)) :=
  .bind (.ask fun _ => rfl) fun _ => deliver_followedBy v c b _

theorem sendError_followedBy (e : StreamError) :
    (sendError v e).FollowedBy d (sendError (v.withLimits c b) e) :=
  .bind (.ask fun _ => rfl) fun _ => deliver_followedBy v c b _

omit [Element α] in
theorem pull_followedBy : (pull v).FollowedBy d (pull (v.withLimits c b)) := by
  refine .bind (.bind (.ask fun _ => rfl) fun k => .bind (.orPanic (fun r => ?_) fun r hr => ?_)
    fun _ => .await ?_ ?_) fun a =>
      .bind (.modify (fun r => r.exists_pulled_extends a) fun _ => rfl) fun _ => .pure a
  · exact r.exists_relay_extends _ rfl rfl
  · exact Run.relay_widen hr
  · exact onTees_onReceived_extends _
  · exact onTees_commutes (ManualSubscriber.onReceived_commutes (Queue.next_commutes _ _ d))

theorem signalNext_followedBy : (signalNext v).FollowedBy d (signalNext (v.withLimits c b)) :=
  .bind (pull_followedBy v c b) fun a => .bind (sendNext_followedBy v c b a) fun _ => .pure a

omit [Element α] in
theorem expectRequest_followedBy :
    (expectRequest v).FollowedBy d (expectRequest (v.withLimits c b)) :=
  .await (onPublisher_extends _)
    (onPublisher_commutes (ManualPublisher.expectRequest_commutes v.timeout))

omit [Element α] in
theorem expectDemand_followedBy (expected : UInt64) :
    (expectDemand v expected).FollowedBy d (expectDemand (v.withLimits c b) expected) where
  grows := expectDemand_extends v expected
  on_widen {r r₁ a} hon _ := by
    simp only [expectDemand, Play.on_orViolation_eq_ok_iff] at hon ⊢
    have hwide : (r.widen d).publisher.expectDemand (v.withLimits c b).timeout expected =
        (r.publisher.expectDemand v.timeout expected).map id (.widen d) :=
      ManualPublisher.expectDemand_widen v.timeout expected r.publisher
    rw [hwide]
    rw [Prod.mk.injEq] at hon ⊢
    exact ⟨hon.1, by rw [← hon.2]; rfl⟩

omit [Element α] in
theorem expectNoRequest_followedBy :
    (expectNoRequest v).FollowedBy d (expectNoRequest (v.withLimits c b)) :=
  .await (onPublisher_extends _)
    (onPublisher_commutes (ManualPublisher.expectNoRequest_commutes v.timeout))

omit [Element α] in
theorem expectCancelling_followedBy :
    (expectCancelling v).FollowedBy d (expectCancelling (v.withLimits c b)) :=
  .await (onPublisher_extends _)
    (onPublisher_commutes (ManualPublisher.expectCancelling_commutes v.timeout))

omit [Element α] in
theorem onBlackbox_followedBy {e : Expectation (BlackboxProbe α) ρ}
    (he : e.Commutes (.widen d)) :
    (Play.await (onProbe (WhiteboxProbe.onBlackbox e)) : Play α σ η ρ).FollowedBy d
      (Play.await (onProbe (WhiteboxProbe.onBlackbox e))) :=
  .await (onProbe_onBlackbox_extends e) (onProbe_commutes (WhiteboxProbe.onBlackbox_commutes he))

theorem expectElement_followedBy (a : α) :
    (expectElement v a).FollowedBy d (expectElement (v.withLimits c b) a) :=
  .bind (subjectName_followedBy v c b) fun name =>
    onBlackbox_followedBy (BlackboxProbe.expectElement_commutes name a v.timeout)

theorem expectCompletion_followedBy :
    (expectCompletion v).FollowedBy d (expectCompletion (v.withLimits c b)) :=
  .bind (subjectName_followedBy v c b) fun name =>
    onBlackbox_followedBy (BlackboxProbe.expectCompletion_commutes name v.timeout)

omit [Element α] in
theorem expectError_followedBy (e : StreamError) :
    (expectError v e).FollowedBy d (expectError (v.withLimits c b) e) :=
  .bind (subjectName_followedBy v c b) fun name =>
    onBlackbox_followedBy (BlackboxProbe.expectError_commutes name e v.timeout)

theorem expectNone_followedBy :
    (expectNone v).FollowedBy d (expectNone (v.withLimits c b)) :=
  onBlackbox_followedBy (BlackboxProbe.expectNone_commutes v.timeout)

/-- What is found quiet in some rounds is found quiet in more rounds. -/
theorem drain_followedBy {rounds rounds' : Nat} (h : rounds ≤ rounds') (drained : Nat) :
    (drain v rounds drained).FollowedBy d (drain (v.withLimits c b) rounds' drained) := by
  induction rounds generalizing rounds' drained with
  | zero =>
    -- Without a round nothing is found quiet, so there is nothing to follow.
    refine ⟨drain_extends v 0 drained, fun hon _ => ?_⟩
    simp only [drain, Play.on_bind_eq_ok_iff] at hon
    obtain ⟨_, _, -, hthrow⟩ := hon
    cases hthrow
  | succ rounds ih =>
    obtain ⟨rounds', rfl⟩ : ∃ n, rounds' = n + 1 := ⟨rounds' - 1, by omega⟩
    refine .bind (.outcome (onProbe_onBlackbox_extends _) (onProbe_commutes
      (WhiteboxProbe.onBlackbox_commutes (BlackboxProbe.expectNone_commutes v.timeout))))
        fun outcome => ?_
    split
    · exact .pure _
    · exact ih (Nat.le_of_succ_le_succ h) _
    · exact ⟨.throw _, fun hon _ => by cases hon⟩

/-- Waiting for a quiet window while more elements may still be reported. -/
theorem awaitQuiet_followedBy (h : v.maxSignals ≤ b) :
    (awaitQuiet v).FollowedBy d (awaitQuiet (v.withLimits c b)) :=
  drain_followedBy v c b (Nat.succ_le_succ h) 0

end Stage

end StreamConformance
