import StreamConformance.Proofs.Run.Calls
import StreamConformance.Proofs.Run.Relay
import StreamConformance.Proofs.Stage.Steps

/-!
# Wiring a stage

A stage is wired when the tees has a subscription of the helper and the subject has registered its
puppet. What has happened until then can be read off the history, and so can what is missing if the
stage is not wired.

## Main definitions

* `Stage.Wired` — the history of a run on a stage that has been wired.

## Main results

* `Stage.wired_of_ok` — a stage that has been set is wired.
* `Stage.subscribeTees_of_error`, `Stage.setSubject_of_error` — what is missing otherwise.
-/

namespace StreamConformance

variable {α σ η : Type} {v : Verification α σ η} {r r' : Run α σ η}

namespace Run

theorem subscribeTees_helperExtends (h : Helper α η) (r : Run α σ η) : ∃ es : List (Event α),
    (∀ e ∈ es, e.isSupply = true) ∧
      r.HelperExtends (.teesSubscribed :: es ++ helperPanicEvents (r.subscribeTees h).1)
        (r.subscribeTees h).2 := by
  obtain ⟨es, hsupply, hes⟩ := relay_extends (h.subscribe r.helper) (r.note .teesSubscribed)
  exact ⟨es, hsupply, (HelperExtends.note r rfl rfl).trans hes⟩

/-- The run in which the subject, known by a number, has been accepted by the publisher and is
offered its subscription. -/
def accepting (number : Nat) (r : Run α σ η) : Run α σ η :=
  { r with
    publisher := { r.publisher with subscriber := .completed number }
    offers := r.offers ++ [.publisher] }

theorem subscribeSubject_of_fresh [Element α] (v : Verification α σ η)
    (hr : r.publisher.subscriber.value = none) (number : Nat) :
    r.subscribeSubject v number =
      (r.accepting number).deliver v (.onSubscribe r.offers.length) := by
  have haccept : r.publisher.accept number =
      (none, { r.publisher with subscriber := .completed number }) := by
    simp [ManualPublisher.accept, Promise.complete, Promise.isCompleted, hr]
  rw [subscribeSubject, haccept]
  rfl

end Run

namespace Stage

open Play Run

/-- The history of a run on a stage that has been wired: before the subject was created the tees has
kept a subscription and nothing has been recorded, and the subject has registered a puppet while it
handled the first subscription. -/
def Wired (history : List (Event α)) : Prop :=
  ∃ setting rest k p, history = setting ++ .subjectCreated :: rest ∧
    .teesOffered k true ∈ setting ∧ setting.filterMap Event.recorded? = [] ∧
    Event.During (.onSubscribe 0) (.reported (.registerPuppet p) true) rest

theorem Wired.subjectCreated_mem {history : List (Event α)} (h : Wired history) :
    .subjectCreated ∈ history := by
  obtain ⟨setting, rest, k, p, rfl, -⟩ := h
  simp

theorem Wired.exists_kept {history : List (Event α)} (h : Wired history) :
    ∃ k, k ∈ history.filterMap Event.kept? := by
  obtain ⟨setting, rest, k, p, rfl, hkept, -⟩ := h
  exact ⟨k, List.mem_filterMap.mpr ⟨.teesOffered k true, List.mem_append_left _ hkept, rfl⟩⟩

theorem Wired.exists_puppet {history : List (Event α)} (h : Wired history) :
    ∃ p, p ∈ history.filterMap Event.puppet? := by
  obtain ⟨setting, rest, k, p, rfl, -, -, hpuppet⟩ := h
  refine ⟨p, List.mem_filterMap.mpr ⟨.reported (.registerPuppet p) true, ?_, rfl⟩⟩
  exact List.mem_append_right _ (List.mem_cons_of_mem _ hpuppet.mem)

/-! ### The tees -/

/-- Where the tees subscribes well it has a subscription, the helper has answered by its signals
only, and there is no record. -/
theorem answer_of_subscribeTees {h : Helper α η} {u : Unit}
    (hon : (subscribeTees v h).on r = (.ok u, r')) : ∃ answer : List (Event α),
      (∀ e ∈ answer, e.isSupply = true) ∧
        r.HelperExtends (.teesSubscribed :: answer ++ [.awaited]) r' ∧ r'.log.entries = [] ∧
        ∃ k, r'.tees.subscription.value = some k := by
  obtain ⟨r₁, k, hr₁, hk, hlog, rfl⟩ := on_subscribeTees_eq_ok_iff.mp hon
  obtain ⟨es, hsupply, hes⟩ := subscribeTees_helperExtends h r
  rw [hr₁] at hes
  simp only [helperPanicEvents, List.append_nil] at hes
  exact ⟨es, hsupply, hes.trans (.pass r₁ .zero), hlog, k, hk⟩

/-- Where the tees subscribes well it has a subscription, and there is no panic and no record. -/
theorem subscribeTees_of_ok {h : Helper α η} {u : Unit}
    (hon : (subscribeTees v h).on r = (.ok u, r')) : ∃ es : List (Event α),
      (∀ e ∈ es, e.isStimulus = false ∧ e.isPanic = false) ∧ r.HelperExtends es r' ∧
        r'.log.entries = [] ∧ ∃ k, r'.tees.subscription.value = some k := by
  obtain ⟨answer, hsupply, hes, hlog, hk⟩ := answer_of_subscribeTees hon
  refine ⟨_, fun e he => ?_, hes, hlog, hk⟩
  simp only [List.mem_append, List.mem_cons, List.not_mem_nil, or_false] at he
  rcases he with (rfl | he) | rfl
  · exact ⟨rfl, rfl⟩
  · exact ⟨Event.isStimulus_of_isSupply (hsupply e he), Event.isPanic_of_isSupply (hsupply e he)⟩
  · exact ⟨rfl, rfl⟩

/-- The tees leaves the publisher of a fresh run without a subscriber. -/
theorem fresh_of_subscribeTees {marks : Marks} {h : Helper α η} {u : Unit}
    (hon : (subscribeTees v h).on (.start v marks) = (.ok u, r)) :
    r.publisher.subscriber.value = none := by
  obtain ⟨es, -, hes, -⟩ := subscribeTees_of_ok hon
  rw [hes.samePublisher]
  rfl

/-- Where the tees does not subscribe well no subject has been created. -/
theorem subscribeTees_of_error {h : Helper α η} {x : Halt}
    (hon : (subscribeTees v h).on r = (.error x, r')) :
    ∃ es, r'.history = r.history ++ es ∧ .subjectCreated ∉ es := by
  obtain ⟨es, hsupply, hes⟩ := subscribeTees_helperExtends h r
  have hnone : .subjectCreated ∉
      .teesSubscribed :: es ++ helperPanicEvents (r.subscribeTees h).1 := by
    intro hmem
    simp only [List.cons_append, List.mem_cons, reduceCtorEq, List.mem_append, false_or] at hmem
    rcases hmem with hmem | hmem
    · simpa [Event.isSupply] using hsupply _ hmem
    · simpa using eq_helperPanicked_of_mem hmem
  simp only [subscribeTees, on_bind_eq_error_iff, on_orPanic_eq_error_iff,
    on_orPanic_eq_ok_iff] at hon
  rcases hon with ⟨p, -, hd⟩ | ⟨⟨⟩, r₁, hd, hon⟩
  · rw [hd] at hes hnone
    exact ⟨_, hes.history, hnone⟩
  · rw [hd] at hes hnone
    obtain ⟨d, hd⟩ := on_await_completion_snd v.timeout _ (fun r => r.tees.subscription)
      (fun r c => { r with tees := { r.tees with subscription := c } }) (fun _ => rfl) r₁
    obtain rfl : r' = r₁.pass d := by
      rcases hon with hon | ⟨k, r₂, hon, hlog⟩
      · exact (congrArg Prod.snd hon).symm.trans hd
      · obtain ⟨-, -, -, rfl⟩ := on_ask_eq_error_iff.mp hlog
        exact (congrArg Prod.snd hon).symm.trans hd
    refine ⟨_, (hes.trans (.pass r₁ d)).history, ?_⟩
    simpa using hnone

/-- On a stage that has been wired the tees has something to cancel. -/
theorem cancelTees_of_wired {h : Helper α η} (hwired : Wired (r.cancelTees h).history)
    (hkept : (r.cancelTees h).tees.subscription.value.toList =
      (r.cancelTees h).history.filterMap Event.kept?) :
    ∃ k last, (r.cancelTees h).history = r.history ++ .teesCancelled k :: last := by
  cases hvalue : r.tees.subscription.value with
  | none =>
    obtain ⟨k, hk⟩ := hwired.exists_kept
    rw [← hkept, Run.cancelTees, hvalue] at hk
    simp [hvalue] at hk
  | some k =>
    obtain ⟨last, -, hes⟩ := Run.cancelTees_of_some h hvalue
    exact ⟨k, last, hes.history⟩

/-! ### The subject -/

variable [Element α]

/-- Where the subject is wired it has been offered the publisher's subscription, its callback has
returned, and it has a puppet. -/
theorem setSubject_of_ok (hfresh : r.publisher.subscriber.value = none) {u : Unit}
    (hon : (setSubject v).on r = (.ok u, r')) : ∃ (calls : List (Event α)) (p : Nat),
      (∀ e ∈ calls, e.isCall = true) ∧ r'.probe.puppet.value = some p ∧
        (r.accepting 0).SubjectExtends (.subjectCreated ::
          .stimulated (.onSubscribe r.offers.length) :: calls ++ [.awaited]) r' := by
  obtain ⟨r₁, p, hr₁, hp, rfl⟩ := on_setSubject_eq_ok_iff.mp hon
  rw [subscribeSubject_of_fresh v (by exact hfresh)] at hr₁
  obtain ⟨calls, hcalls, hes⟩ :=
    ((r.note .subjectCreated).accepting 0).deliver_extends v (.onSubscribe r.offers.length)
  rw [show (r.note .subjectCreated).offers = r.offers from rfl] at hr₁
  rw [hr₁] at hes
  simp only [panicEvents, List.append_nil] at hes
  have hcreated : (r.accepting 0).SubjectExtends [.subjectCreated]
      ((r.note .subjectCreated).accepting 0) := .note (r.accepting 0) rfl rfl
  exact ⟨calls, p, hcalls, hp, (hcreated.trans hes).trans (.pass r₁ .zero)⟩

/-- Where the subject is not wired its callback has panicked or it has no puppet. -/
theorem setSubject_of_error (hfresh : r.publisher.subscriber.value = none) {x : Halt}
    (hon : (setSubject v).on r = (.error x, r')) :
    .panicked ∈ r'.history ∨ r'.probe.puppet.value = none := by
  simp only [setSubject, wireSubject, on_bind_eq_error_iff, on_createSubject,
    on_orPanic_eq_error_iff, on_orPanic_eq_ok_iff, on_subjectName, on_pure, Prod.mk.injEq,
    reduceCtorEq, false_and, false_or, and_false, exists_false, or_false] at hon
  obtain ⟨⟨⟩, _, ⟨-, rfl⟩, hon⟩ := hon
  rw [subscribeSubject_of_fresh v (by exact hfresh)] at hon
  rcases hon with ⟨p, -, hdeliver⟩ | ⟨⟨⟩, r₁, -, name, _, ⟨-, rfl⟩, hawait⟩
  · left
    have hpanicked := panicked_mem_deliver v (.onSubscribe r.offers.length)
      ((r.note .subjectCreated).accepting 0)
    rw [show r.offers = (r.note .subjectCreated).offers from rfl, hdeliver] at hpanicked
    exact hpanicked.mpr (.inr ⟨p, rfl⟩)
  · right
    obtain ⟨y, c, -, hnow, rfl⟩ := (on_await_onPart_eq_error_iff (fun r => r.probe.puppet)
      fun r c => { r with probe := { r.probe with puppet := c } }).mp hawait
    exact Promise.value_of_completion_error hnow

/-! ### The wired stage -/

variable {marks : Marks} {r₁ r₂ : Run α σ η} {h : Helper α η} {u : Unit}

omit [Element α] in
/-- The subscription that the tees has at last has been offered to it and kept. -/
theorem teesOffered_mem {es : List (Event α)} {k : Nat} (hes : r.HelperExtends es r')
    (hnone : r.tees.subscription.value = none) (hk : r'.tees.subscription.value = some k) :
    .teesOffered k true ∈ es := by
  have hkept : es.filterMap Event.kept? = [k] := by
    have := hes.subscription
    rw [hnone, hk] at this
    simpa using this.symm
  obtain ⟨e, he, hek⟩ := List.mem_filterMap.mp (hkept ▸ List.mem_singleton_self k)
  rwa [← Event.eq_of_kept? hek]

omit [Element α] in
/-- The puppet that the subject has when it is wired has been registered in its first callback. -/
theorem registerPuppet_mem {s : Stimulus α} {calls : List (Event α)} {p : Nat}
    (hes : r.SubjectExtends (.subjectCreated :: .stimulated s :: calls ++ [.awaited]) r')
    (hnone : r.probe.puppet.value = none) (hp : r'.probe.puppet.value = some p) :
    .reported (.registerPuppet p) true ∈ calls := by
  have hpuppet : calls.filterMap Event.puppet? = [p] := by
    have := hes.puppet
    rw [hnone, hp] at this
    simpa [Event.filterMap_cons_eq, Event.puppet?] using this.symm
  obtain ⟨e, he, hep⟩ := List.mem_filterMap.mp (hpuppet ▸ List.mem_singleton_self p)
  rwa [← Event.eq_of_puppet? hep]

/-- When the stage of a fresh run has been set, it is wired whatever happens on it, nothing has
panicked, and the subject has only been offered the publisher's subscription. -/
theorem wired_of_ok (htees : (subscribeTees v h).on (.start v marks) = (.ok u, r₁))
    (hsubject : (setSubject v).on r₁ = (.ok u, r₂)) :
    (∀ rest, Wired (r₂.history ++ rest)) ∧ (∀ e ∈ r₂.history, e.isPanic = false) ∧
      r₂.offers = [.publisher] ∧ r₂.second.isClosed = false := by
  obtain ⟨setting, hsetting, h₁, hlog, k, hk⟩ := subscribeTees_of_ok htees
  have hoffers₁ : r₁.offers = [] := h₁.sameOffers
  obtain ⟨calls, p, hcalls, hp, h₂⟩ := setSubject_of_ok (fresh_of_subscribeTees htees) hsubject
  have hoffers₂ : r₂.offers = [.publisher] := by
    rw [h₂.sameOffers, accepting, hoffers₁]
    rfl
  have hhistory₁ : r₁.history = setting := h₁.history
  have hhistory₂ : r₂.history = setting ++
      (.subjectCreated :: .stimulated (.onSubscribe 0) :: calls ++ [.awaited]) := by
    rw [h₂.history, hoffers₁]
    exact congrArg (· ++ _) hhistory₁
  refine ⟨fun rest => ?_, fun e he => ?_, hoffers₂, ?_⟩
  · refine ⟨setting, .stimulated (.onSubscribe 0) :: calls ++ ([.awaited] ++ rest), k, p, ?_, ?_,
      ?_, ?_⟩
    · simp [hhistory₂]
    · exact teesOffered_mem h₁ rfl hk
    · exact h₁.log.symm.trans hlog
    · have hnone : (r₁.accepting 0).probe.puppet.value = none := by
        rw [accepting, h₁.sameProbe]
        rfl
      have hstimulus : ∀ e ∈ calls, e.isStimulus = false := fun e he =>
        Event.isStimulus_of_isCall (hcalls e he)
      exact (Event.During.of_mem hstimulus (registerPuppet_mem h₂ hnone hp) :
        Event.During _ _ ([] ++ _ :: calls ++ _))
  · rw [hhistory₂] at he
    simp only [List.mem_append, List.mem_cons, List.not_mem_nil, or_false] at he
    rcases he with he | (rfl | rfl | he) | rfl
    · exact (hsetting e he).2
    · rfl
    · rfl
    · exact Event.isPanic_of_isCall (hcalls e he)
    · rfl
  · rw [h₂.second, accepting, h₁.sameSecond]
    simp only [Run.start, Latch.opened, Bool.false_or, List.any_eq_false]
    intro e he hcancel
    obtain ⟨lane, rfl⟩ := Event.eq_of_cancelsSecond hcancel
    simpa [hoffers₂] using h₂.targets _ he .second rfl

/-- Where playing on a stage ends badly although the stage has been wired and no callback has
panicked, it is what is played that ends badly. -/
theorem set_of_error {ρ : Type} {body : Play α σ η ρ} {x : Halt}
    (hon : (set v body).on (.start v marks) = (.error x, r)) (hwired : Wired r.history)
    (hcalm : .panicked ∉ r.history)
    (hpuppets : r.probe.puppet.value.toList = r.history.filterMap Event.puppet?) :
    ∃ r₁ r₂ r₃, (subscribeTees v (helper v)).on (.start v marks) = (.ok (), r₁) ∧
      (setSubject v).on r₁ = (.ok (), r₂) ∧ body.on r₂ = (.error x, r₃) ∧
      r = r₃.cancelTees (helper v) := by
  rcases on_set_eq_error_iff.mp hon with
    ⟨-, -, rfl⟩ | ⟨-, htees | ⟨r₁, r₃, htees, rfl, hsubject | ⟨r₂, hsubject, hbody⟩⟩⟩
  · exact absurd hwired.subjectCreated_mem (by simp [Run.history, Run.start])
  · obtain ⟨es, hhistory, hes⟩ := subscribeTees_of_error htees
    have hmem := hwired.subjectCreated_mem
    rw [hhistory] at hmem
    exact absurd hmem hes
  · obtain ⟨last, -, hlast⟩ := r₃.cancelTees_extends (helper v)
    rcases setSubject_of_error (fresh_of_subscribeTees htees) hsubject with hpanicked | hnone
    · rw [hlast.history] at hcalm
      exact absurd (List.mem_append_left _ hpanicked) hcalm
    · obtain ⟨p, hp⟩ := hwired.exists_puppet
      rw [← hpuppets, hlast.sameProbe, hnone] at hp
      simp at hp
  · exact ⟨r₁, r₂, r₃, htees, hsubject, hbody, rfl⟩

end Stage

end StreamConformance
