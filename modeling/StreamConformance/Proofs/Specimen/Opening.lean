import StreamConformance.Proofs.Specimen.Steps
import StreamConformance.Proofs.Stage.Extension
import StreamConformance.Proofs.Stage.Wiring

/-!
# Setting the stage for a specimen

With a helper that supplies values a stage is set for every specimen but the silent one, and shows
the opening scene. For the silent one it is not set, since that registers no puppet.

## Main definitions

* `Scene.opening` — what a specimen on a stage shows at first.

## Main results

* `Specimen.set_endsAs`, `Specimen.set_endsAs_silent`, `Specimen.set_records` — playing on a stage.
* `Specimen.prompt_endsAs`, `Specimen.prompt_reaches` — playing on after the first request.
-/

namespace StreamConformance

open Stream' (Seq)
open Play

variable {α η ρ : Type}

/-- What a specimen on a stage shows when it has accepted the publisher's subscription. -/
def Scene.opening (k : Specimen) (values : Seq α) : Scene α where
  left := values
  requests := k.greeting
  isCancelled := false
  puppet := some 0
  reports := []
  terminals := []

namespace Specimen

variable [Element α] {v : Verification α (Option Nat) η} {k : Specimen} {number : Nat}
  {Left : Seq α → η → Prop} {values : Seq α} {marks : Marks}

/-- A fed run on which the specimen has not been offered anything shows the opening scene after the
specimen has been subscribed. -/
theorem subscribeSubject_shows {r : Run α (Option Nat) η} (h : r.Fed v number Left values)
    (hv : v.subject = k.subject) (hroom : 0 < v.config.capacity) (hsubject : r.subject = none)
    (hoffers : r.offers = []) (hsecond : r.second = .opened)
    (hpublisher : r.publisher = .empty v.config.capacity)
    (hprobe : r.probe = .empty v.config.capacity) : ∃ r', r.subscribeSubject v 0 = (.ok (), r') ∧
      r'.Shows v number Left
        { Scene.opening k values with puppet := if k = silent then none else some 0 } := by
  have hfresh : r.publisher.subscriber.value = none := by
    rw [hpublisher]
    rfl
  have haccepting : ({ r.accepting 0 with subject := some 0 } : Run α (Option Nat) η).Shows
      v number Left { Scene.opening k values with requests := [], puppet := none } :=
    { h with
      subject := rfl
      offers := by rw [Run.accepting, hoffers]; rfl
      second := by rw [Run.accepting, hsecond]; rfl
      publisher := by
        rw [Run.accepting, hpublisher]
        exact ⟨⟨0, rfl⟩, .empty _, rfl⟩
      puppet := by rw [Run.accepting, hprobe]; rfl
      probe := by
        rw [Run.accepting, hprobe]
        exact .empty _ }
  have hrespond : (k.respond r.subject (.onSubscribe 0) : List (Lane × Call α) × Option Nat) =
      (k.acceptCalls 0, some 0) := by
    rw [hsubject]
    rfl
  rw [Run.subscribeSubject_of_fresh v hfresh, hoffers]
  refine haccepting.deliver_of hv hrespond fun r' hr' => ?_
  have hlength := k.length_greeting_add_le
  have hgreeted := hr'.requests k.zero_notMem_greeting (by simp only [List.length_nil]; omega)
  rw [acceptCalls_eq, List.foldl_append]
  split
  · exact hgreeted
  · exact hgreeted.registerPuppet rfl .delivering 0

/-- On a fresh run the tees subscribes well, and the specimen shows the opening scene, up to its
puppet, when it has been created and subscribed. -/
theorem exists_opening (hv : v.subject = k.subject) (hroom : 0 < v.config.capacity)
    (hsupplies : (Stage.helper v).Supplies values) (marks : Marks) : ∃ number Left r₁ r₂,
      (Stage.helper v).Serves number Left ∧
      (Stage.subscribeTees v (Stage.helper v)).on (.start v marks) = (.ok (), r₁) ∧
      (r₁.note .subjectCreated).subscribeSubject v 0 = (.ok (), r₂) ∧
      r₂.Shows v number Left
        { Scene.opening k values with puppet := if k = silent then none else some 0 } := by
  obtain ⟨number, Left, hserves, ⟨⟩, r₁, htees, hfed, tees, helper, past, elapsed, rfl⟩ :=
    Run.Fed.of_subscribeTees hsupplies marks
  have hstart : v.subject.start = none := by
    rw [hv]
    rfl
  let created := Run.note .subjectCreated { Run.start v marks with tees, helper, past, elapsed }
  have hcreated : created.Fed v number Left values := { hfed with }
  obtain ⟨r₂, hsubscribe, hshows⟩ :=
    subscribeSubject_shows hcreated hv hroom hstart rfl rfl rfl rfl
  exact ⟨number, Left, _, r₂, hserves, htees, hsubscribe, hshows⟩

section Set

variable {body : Play α (Option Nat) η ρ}

/-- Any specimen but the silent one is wired, and shows the opening scene. -/
theorem exists_wired (hv : v.subject = k.subject) (hk : k ≠ silent) (hroom : 0 < v.config.capacity)
    (hsupplies : (Stage.helper v).Supplies values) (marks : Marks) : ∃ number Left r₁ r₂,
      (Stage.helper v).Serves number Left ∧
      (Stage.subscribeTees v (Stage.helper v)).on (.start v marks) = (.ok (), r₁) ∧
      (Stage.setSubject v).on r₁ = (.ok (), r₂) ∧
      r₂.Shows v number Left (.opening k values) := by
  obtain ⟨number, Left, r₁, r₂, hserves, htees, hsubscribe, hshows⟩ :=
    exists_opening hv hroom hsupplies marks
  rw [if_neg hk] at hshows
  exact ⟨number, Left, r₁, r₂.pass .zero, hserves, htees,
    Stage.on_setSubject_eq_ok_iff.mpr ⟨r₂, 0, hsubscribe, hshows.puppet, rfl⟩, { hshows with }⟩

/-- On a stage the silent specimen fails whatever is to be played, since it registers no puppet. -/
theorem set_silent_fails (hv : v.subject = silent.subject)
    (hfits : Stage.fits α v.config.capacity = true) (hroom : 0 < v.config.capacity)
    (hsupplies : (Stage.helper v).Supplies values) :
    (Stage.set v body).Fails (.start v marks) := by
  obtain ⟨number, Left, r₁, r₂, hserves, htees, hsubscribe, hshows⟩ :=
    exists_opening hv hroom hsupplies marks
  have hnone : r₂.probe.puppet.value = none := by
    rw [hshows.puppet, if_pos rfl]
  have hregistration :
      (WhiteboxProbe.expectRegistration (r₂.subjectName v) v.timeout).now r₂.probe =
        (.error (.timeout (WhiteboxProbe.notRegistered (r₂.subjectName v)) v.timeout),
          r₂.probe) := by
    rw [WhiteboxProbe.expectRegistration, Expectation.now_onPart,
      Promise.completion_of_none _ _ hnone]
  have hsubject : (Stage.setSubject v).Fails r₁ := by
    refine Reaches.bind_fails (.modify (Q := fun _ r' => r' = r₁.note .subjectCreated) rfl) ?_
    rintro ⟨⟩ _ rfl
    refine Reaches.bind_fails (.orPanic (Q := fun _ r' => r' = r₂) hsubscribe rfl) ?_
    rintro ⟨⟩ r₂ rfl
    refine Reaches.bind_fails
      (Q := fun name r' => name = r₂.subjectName v ∧ r' = r₂) ⟨_, _, rfl, rfl, rfl⟩ ?_
    rintro _ _ ⟨rfl, rfl⟩
    exact Fails.bind (.await hregistration) _
  obtain ⟨x, r₃, hon⟩ := hsubject
  exact ⟨x, _, Stage.on_set_eq_error_iff.mpr
    (.inr ⟨hfits, .inr ⟨r₁, r₃, htees, rfl, .inl hon⟩⟩)⟩

/-- What is played on a stage ends as it does from the opening scene, provided that it leaves a fed
run if it ends well, and that the specimen is not silent. Then nothing has been recorded at the
end. -/
theorem set_endsAs {isBroken : Bool} (hv : v.subject = k.subject)
    (hfits : Stage.fits α v.config.capacity = true) (hroom : 0 < v.config.capacity)
    (hsupplies : (Stage.helper v).Supplies values)
    (hbody : ∀ number Left r, (Stage.helper v).Serves number Left →
      r.Shows v number Left (.opening k values) →
        body.EndsAs isBroken r fun _ r' => ∃ left, r'.Fed v number Left left) :
    (Stage.set v body).EndsAs (isBroken || k == silent) (.start v marks) fun _ r' =>
      r'.log.entries = [] := by
  by_cases hk : k = silent
  · rw [hk, beq_self_eq_true, Bool.or_true]
    exact set_silent_fails (hk ▸ hv) hfits hroom hsupplies
  · rw [beq_false_of_ne hk, Bool.or_false]
    obtain ⟨number, Left, r₁, r₂, hserves, htees, hsubject, hshows⟩ :=
      exists_wired hv hk hroom hsupplies marks
    have hend := hbody number Left r₂ hserves hshows
    cases isBroken with
    | true =>
      obtain ⟨x, r₃, hon⟩ := hend
      exact ⟨x, _, by rw [Stage.on_set_of_wired hfits htees hsubject, hon]⟩
    | false =>
      obtain ⟨a, r₃, hon, left, hfed⟩ := hend
      exact ⟨a, _, by rw [Stage.on_set_of_wired hfits htees hsubject, hon],
        hfed.cancelTees hserves⟩

/-- What ends well from the opening scene fails on a stage for the silent specimen only. -/
theorem set_endsAs_silent (hv : v.subject = k.subject)
    (hfits : Stage.fits α v.config.capacity = true) (hroom : 0 < v.config.capacity)
    (hsupplies : (Stage.helper v).Supplies values)
    (hbody : ∀ number Left r, (Stage.helper v).Serves number Left →
      r.Shows v number Left (.opening k values) →
        body.Reaches r fun _ r' => ∃ left, r'.Fed v number Left left) :
    (Stage.set v body).EndsAs (k == silent) (.start v marks) fun _ r' => r'.log.entries = [] :=
  (set_endsAs hv hfits hroom hsupplies fun number Left r hserves h =>
    endsAs_false.mpr (hbody number Left r hserves h)).congr (Bool.false_or _).symm

/-- What is recorded from the opening scene on is recorded on a stage, unless the specimen is
silent. -/
theorem set_records (hv : v.subject = k.subject) (hk : k ≠ silent)
    (hfits : Stage.fits α v.config.capacity = true) (hroom : 0 < v.config.capacity)
    (hsupplies : (Stage.helper v).Supplies values)
    (hbody : ∀ number Left r, (Stage.helper v).Serves number Left →
      r.Shows v number Left (.opening k values) → body.Records r) :
    (Stage.set v body).Records (.start v marks) := by
  obtain ⟨number, Left, r₁, r₂, hserves, htees, hsubject, hshows⟩ :=
    exists_wired hv hk hroom hsupplies marks
  obtain ⟨es, hes⟩ := (body.on r₂).2.exists_cancelTees_extends (Stage.helper v)
  rw [Records, Stage.on_set_of_wired hfits htees hsubject]
  exact mt hes.log_eq_nil (hbody number Left r₂ hserves hshows)

/-- The scenarios that need demand at first have the puppet request, and go on from there. -/
theorem prompt_endsAs {r : Run α (Option Nat) η} (h : r.Shows v number Left (.opening k values))
    (hv : v.subject = k.subject) {n : UInt64} (hn : n ≠ 0)
    (hroom : k.greeting.length < v.config.capacity) {next : Nat → Play α (Option Nat) η ρ}
    {isBroken : Bool} {Q : ρ → Run α (Option Nat) η → Prop}
    (hnext : ∀ r', r'.Shows v number Left ⟨values, k.greeting ++ [n], false, some 0, [], []⟩ →
      (next 0).EndsAs isBroken r' Q) :
    (Stage.puppet v >>= fun puppet => Stage.triggerRequest v puppet n >>= fun _ =>
      next puppet).EndsAs isBroken r Q := by
  refine (h.puppet_reaches rfl).bind_endsAs ?_
  rintro _ r ⟨rfl, h⟩
  exact (h.triggerRequest hv hn hroom).bind_endsAs fun _ r' h' => hnext r' h'

/-- What follows the first request of the puppet ends well. -/
theorem prompt_reaches {r : Run α (Option Nat) η} (h : r.Shows v number Left (.opening k values))
    (hv : v.subject = k.subject) {n : UInt64} (hn : n ≠ 0)
    (hroom : k.greeting.length < v.config.capacity) {next : Nat → Play α (Option Nat) η ρ}
    {Q : ρ → Run α (Option Nat) η → Prop}
    (hnext : ∀ r', r'.Shows v number Left ⟨values, k.greeting ++ [n], false, some 0, [], []⟩ →
      (next 0).Reaches r' Q) :
    (Stage.puppet v >>= fun puppet => Stage.triggerRequest v puppet n >>= fun _ =>
      next puppet).Reaches r Q :=
  endsAs_false.mp (prompt_endsAs h hv hn hroom hnext)

end Set

end Specimen

end StreamConformance
