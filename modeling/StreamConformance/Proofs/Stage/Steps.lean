import StreamConformance.Stage
import StreamConformance.Proofs.Cell.Promise
import StreamConformance.Proofs.Manual.Subscriber
import StreamConformance.Proofs.Play.Basic

/-!
# Steps of a scenario

What comes of the single steps of a scenario when they are played on a run, and which runs they end
well on.

## Main results

* `Stage.on_set_eq_ok_iff`, `Stage.on_set_eq_error_iff` — when playing on a stage ends well, and
  when it does not.
-/

namespace StreamConformance.Stage

variable {α σ η ρ : Type} {v : Verification α σ η} {r r' : Run α σ η}

open Play

/-! ### Setting the stage -/

/-- The storage for the queues is reserved if there can be that much of it. -/
theorem on_reserve [Element α] (v : Verification α σ η) (r : Run α σ η) :
    (reserve v).on r = if Stage.fits α v.config.capacity then (.ok (), r)
      else (.error (.panic .capacityOverflow), r) := by
  rw [reserve, on_orPanic]
  split <;> rfl

theorem on_reserve_eq_ok_iff [Element α] {a : Unit} :
    (reserve v).on r = (.ok a, r') ↔ Stage.fits α v.config.capacity = true ∧ r' = r := by
  rw [on_reserve]
  split
  next h => simp [h, eq_comm]
  next h => simp [h]

@[simp] theorem on_createSubject (r : Run α σ η) :
    (createSubject : Play α σ η Unit).on r = (.ok (), r.note .subjectCreated) := rfl

@[simp] theorem on_subjectName (v : Verification α σ η) (r : Run α σ η) :
    (subjectName v).on r = (.ok (r.subjectName v), r) := rfl

/-- Nothing has been recorded if and only if that is insisted on with success. -/
theorem on_requireCleanLog_eq_ok_iff {a : Unit} :
    (requireCleanLog : Play α σ η Unit).on r = (.ok a, r') ↔ r.log.entries = [] ∧ r' = r := by
  rw [requireCleanLog, on_ask_eq_ok_iff, ← Log.assertEmpty_eq_ok_iff]

/-- Awaiting a promise that is a part of the run takes time and does nothing else. -/
theorem on_await_completion_snd (timeout : Duration) (message : String)
    (get : Run α σ η → Promise ρ) (set : Run α σ η → Promise ρ → Run α σ η)
    (hset : ∀ r, set r (get r) = r) (r : Run α σ η) : ∃ d : Duration,
      ((await ((Promise.completion timeout message).onPart get set)).on r).2 = r.pass d := by
  refine ⟨((Promise.completion timeout message).onPart get set).cost r, ?_⟩
  rw [on_await, Expectation.now_onPart, Promise.completion_now_snd, hset]

/-- A promise that is a part of the run is awaited with success if and only if it has its value, and
then no time is spent. -/
theorem on_await_completion_eq_ok_iff {timeout : Duration} {message : String} {a : ρ}
    (get : Run α σ η → Promise ρ) (set : Run α σ η → Promise ρ → Run α σ η)
    (hset : ∀ r, set r (get r) = r) :
    (await ((Promise.completion timeout message).onPart get set)).on r = (.ok a, r') ↔
      (get r).value = some a ∧ r' = r.pass .zero := by
  rw [on_await_onPart_eq_ok_iff]
  constructor
  · rintro ⟨p, h, rfl⟩
    obtain ⟨hvalue, rfl⟩ := Promise.completion_eq_ok_iff.mp h
    exact ⟨hvalue, by rw [Promise.cost_completion timeout message hvalue, hset]⟩
  · rintro ⟨hvalue, rfl⟩
    refine ⟨get r, Promise.completion_eq_ok_iff.mpr ⟨hvalue, rfl⟩, ?_⟩
    rw [Promise.cost_completion timeout message hvalue, hset]

/-- The tees has subscribed well if and only if the helper has returned, the tees has a
subscription, and nothing has been recorded. -/
theorem on_subscribeTees_eq_ok_iff {h : Helper α η} {a : Unit} :
    (subscribeTees v h).on r = (.ok a, r') ↔ ∃ r₁ k, r.subscribeTees h = (.ok (), r₁) ∧
      r₁.tees.subscription.value = some k ∧ r₁.log.entries = [] ∧ r' = r₁.pass .zero := by
  have hawait (r₁ r₂ : Run α σ η) (k : Nat) :
      (await (onTees (ManualSubscriber.expectSubscription v.timeout))).on r₁ = (.ok k, r₂) ↔
        r₁.tees.subscription.value = some k ∧ r₂ = r₁.pass .zero :=
    on_await_completion_eq_ok_iff (fun r => r.tees.subscription)
      (fun r c => { r with tees := { r.tees with subscription := c } }) fun _ => rfl
  simp only [subscribeTees, on_bind_eq_ok_iff, on_orPanic_eq_ok_iff, hawait,
    on_requireCleanLog_eq_ok_iff]
  constructor
  · rintro ⟨⟨⟩, r₁, hr₁, k, _, ⟨hk, rfl⟩, hlog, rfl⟩
    exact ⟨r₁, k, hr₁, hk, hlog, rfl⟩
  · rintro ⟨r₁, k, hr₁, hk, hlog, rfl⟩
    exact ⟨(), r₁, hr₁, k, _, ⟨hk, rfl⟩, hlog, rfl⟩

/-- The subject is wired if and only if its first callback has returned and it has registered a
puppet. -/
theorem on_setSubject_eq_ok_iff [Element α] {a : Unit} :
    (setSubject v).on r = (.ok a, r') ↔ ∃ r₁ p,
      (r.note .subjectCreated).subscribeSubject v 0 = (.ok (), r₁) ∧
        r₁.probe.puppet.value = some p ∧ r' = r₁.pass .zero := by
  have hawait (name : String) (r₁ r₂ : Run α σ η) (p : Nat) :
      (await (onProbe (WhiteboxProbe.expectRegistration name v.timeout))).on r₁ = (.ok p, r₂) ↔
        r₁.probe.puppet.value = some p ∧ r₂ = r₁.pass .zero :=
    on_await_completion_eq_ok_iff (fun r => r.probe.puppet)
      (fun r c => { r with probe := { r.probe with puppet := c } }) fun _ => rfl
  simp only [setSubject, wireSubject, on_bind_eq_ok_iff, on_createSubject, on_orPanic_eq_ok_iff,
    on_subjectName, hawait, on_pure]
  constructor
  · rintro ⟨_, _, ⟨⟩, ⟨⟩, r₁, hr₁, _, _, ⟨⟩, p, _, ⟨hp, rfl⟩, ⟨⟩⟩
    exact ⟨r₁, p, hr₁, hp, rfl⟩
  · rintro ⟨r₁, p, hr₁, hp, rfl⟩
    exact ⟨(), _, rfl, (), r₁, hr₁, _, _, rfl, p, _, ⟨hp, rfl⟩, rfl⟩

/-- Playing on a stage ends well if and only if the queues can be reserved, the tees subscribes
well, the subject is wired, and what is played ends well. The tees is cancelled at last. -/
theorem on_set_eq_ok_iff [Element α] {body : Play α σ η ρ} {a : ρ} :
    (set v body).on r = (.ok a, r') ↔ Stage.fits α v.config.capacity = true ∧ ∃ r₁ r₂ r₃,
      (subscribeTees v (helper v)).on r = (.ok (), r₁) ∧ (setSubject v).on r₁ = (.ok (), r₂) ∧
        body.on r₂ = (.ok a, r₃) ∧ r' = r₃.cancelTees (helper v) := by
  rw [set, on_bind, on_reserve]
  by_cases hfits : Stage.fits α v.config.capacity = true
  · simp only [hfits, ↓reduceIte, on_bind_eq_ok_iff, on_ensuring_eq_ok_iff, true_and]
    constructor
    · rintro ⟨⟨⟩, r₁, h₁, r₃, ⟨⟨⟩, r₂, h₂, h₃⟩, rfl⟩
      exact ⟨r₁, r₂, r₃, h₁, h₂, h₃, rfl⟩
    · rintro ⟨r₁, r₂, r₃, h₁, h₂, h₃, rfl⟩
      exact ⟨(), r₁, h₁, r₃, ⟨(), r₂, h₂, h₃⟩, rfl⟩
  · simp [hfits]

/-- Playing on a stage ends badly if and only if the queues cannot be reserved, the tees does not
subscribe well, the subject is not wired, or what is played ends badly. -/
theorem on_set_eq_error_iff [Element α] {body : Play α σ η ρ} {x : Halt} :
    (set v body).on r = (.error x, r') ↔
      (Stage.fits α v.config.capacity = false ∧ x = .panic .capacityOverflow ∧ r' = r) ∨
      (Stage.fits α v.config.capacity = true ∧
        ((subscribeTees v (helper v)).on r = (.error x, r') ∨
        ∃ r₁ r₂, (subscribeTees v (helper v)).on r = (.ok (), r₁) ∧
          r' = r₂.cancelTees (helper v) ∧
          ((setSubject v).on r₁ = (.error x, r₂) ∨
          ∃ r₃, (setSubject v).on r₁ = (.ok (), r₃) ∧ body.on r₃ = (.error x, r₂)))) := by
  rw [set, on_bind, on_reserve]
  by_cases hfits : Stage.fits α v.config.capacity = true
  · simp only [hfits, ↓reduceIte, on_bind_eq_error_iff, on_ensuring_eq_error_iff, true_and,
      reduceCtorEq, false_and, false_or]
    constructor
    · rintro (h₁ | ⟨⟨⟩, r₁, h₁, r₂, h₂ | ⟨⟨⟩, r₃, h₂, h₃⟩, rfl⟩)
      · exact .inl h₁
      · exact .inr ⟨r₁, r₂, h₁, rfl, .inl h₂⟩
      · exact .inr ⟨r₁, r₂, h₁, rfl, .inr ⟨r₃, h₂, h₃⟩⟩
    · rintro (h₁ | ⟨r₁, r₂, h₁, rfl, h₂ | ⟨r₃, h₂, h₃⟩⟩)
      · exact .inl h₁
      · exact .inr ⟨(), r₁, h₁, r₂, .inl h₂, rfl⟩
      · exact .inr ⟨(), r₁, h₁, r₂, .inr ⟨(), r₃, h₂, h₃⟩, rfl⟩
  · simp [hfits, eq_comm]

/-- Once the stage is wired, playing on it ends as what is played does. -/
theorem on_set_of_wired [Element α] {body : Play α σ η ρ} {r₁ r₂ : Run α σ η}
    (hfits : Stage.fits α v.config.capacity = true)
    (htees : (subscribeTees v (helper v)).on r = (.ok (), r₁))
    (hsubject : (setSubject v).on r₁ = (.ok (), r₂)) :
    (set v body).on r = ((body.on r₂).1, (body.on r₂).2.cancelTees (helper v)) := by
  rcases hbody : body.on r₂ with ⟨x | a, r₃⟩
  · exact on_set_eq_error_iff.mpr
      (.inr ⟨hfits, .inr ⟨r₁, r₃, htees, rfl, .inr ⟨r₂, hsubject, hbody⟩⟩⟩)
  · exact on_set_eq_ok_iff.mpr ⟨hfits, r₁, r₂, r₃, htees, hsubject, hbody, rfl⟩

/-! ### The helper -/

/-- Where an element is pulled with success, the tees has requested one on its subscription, and has
given up the element that then stood first. -/
theorem pull_of_ok {a : α} (hon : (pull v).on r = (.ok a, r')) :
    ∃ (k : Nat) (r₁ : Run α σ η) (t : ManualSubscriber α Nat) (d : Duration),
      Run.requestTees (helper v) k 1 r = (.ok (), r₁) ∧
      r₁.tees.received.elements = a :: t.received.elements ∧
      t.received.isCompleted = r₁.tees.received.isCompleted ∧ t.error = r₁.tees.error ∧
      r' = ({ ({ r₁ with tees := t } : Run α σ η).pass d with lastPulled := some a }).note
        (.pulled a) := by
  simp only [pull, requestNext, on_bind_eq_ok_iff, on_ask_eq_ok_iff, on_orPanic_eq_ok_iff,
    on_modify, on_pure, Prod.mk.injEq, Except.ok.injEq] at hon
  obtain ⟨_, _, ⟨k, _, ⟨-, rfl⟩, ⟨⟩, r₁, hr₁, hawait⟩, ⟨⟩, _, ⟨-, rfl⟩, rfl, rfl⟩ := hon
  obtain ⟨t, ht, rfl⟩ := (on_await_onPart_eq_ok_iff (fun r => r.tees)
    fun r t => { r with tees := t }).mp hawait
  obtain ⟨helements, hended, herror, -⟩ := ManualSubscriber.of_expectElement ht
  exact ⟨k, r₁, t, _, hr₁, helements, hended, herror, rfl⟩

/-- An element that is signalled with success has been pulled and then sent. -/
theorem signalNext_of_ok [Element α] {a : α} (hon : (signalNext v).on r = (.ok a, r')) :
    ∃ r₁, (pull v).on r = (.ok a, r₁) ∧ (sendNext v a).on r₁ = (.ok (), r') := by
  simp only [signalNext, on_bind_eq_ok_iff, on_pure, Prod.mk.injEq, Except.ok.injEq] at hon
  obtain ⟨_, r₁, hpull, ⟨⟩, _, hsend, rfl, rfl⟩ := hon
  exact ⟨r₁, hpull, hsend⟩

end StreamConformance.Stage
