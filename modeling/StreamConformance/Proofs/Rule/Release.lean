import StreamConformance.Helper.Script
import StreamConformance.Proofs.Rule.TerminalReentrancy
import StreamConformance.Proofs.Stage.Wiring

/-!
# Releasing the helper

The tees holds a subscription of the helper from the moment at which it has kept one. A stage that
has been set cancels it at the end, whichever way the end comes, and so does the entry of rule 2.12
unless the helper panics. But a stage owns its tees only once the tees has subscribed well. If the
helper panics before, or something is recorded, the entry fails and the subscription is abandoned.

## Main definitions

* `Released` — the harness has cancelled a subscription at last.
* `Entry.Abandons` — an entry has given up before anybody was there to cancel.
* `Play.IsUpstream` — a program that has to do with the helper only.

## Main results

* `Rule.released_iff_not_abandoned` — which subscriptions of the helper are cancelled.
* `Rule.not_released_of_abandoned` — some are not.
-/

namespace StreamConformance

variable {α σ η ρ ρ' : Type}

namespace Event

/-- Whether a subject has been created. -/
def isCreation : Event α → Bool
  | .subjectCreated => true
  | _ => false

/-- The subscription that has been cancelled. -/
def released? : Event α → Option Nat
  | .teesCancelled k => some k
  | _ => none

/-- What has happened before a subject was created. -/
def opening (history : List (Event α)) : List (Event α) := history.takeWhile (!·.isCreation)

theorem isCreation_of_isSupply {e : Event α} (h : e.isSupply = true) : e.isCreation = false := by
  cases e <;> first | rfl | cases h

theorem released?_of_isSupply {e : Event α} (h : e.isSupply = true) : e.released? = none := by
  cases e <;> first | rfl | cases h

/-- Where no subject has been created, all that has happened has happened before. -/
theorem opening_eq_self {history : List (Event α)} (h : ∀ e ∈ history, e.isCreation = false) :
    opening history = history := by
  have happend : (history ++ []).takeWhile (!·.isCreation) = history ++ [] :=
    List.takeWhile_append_of_pos (by simpa using h)
  rwa [List.append_nil] at happend

theorem opening_append {before : List (Event α)} (h : ∀ e ∈ before, e.isCreation = false)
    (after : List (Event α)) : opening (before ++ .subjectCreated :: after) = before := by
  rw [opening, List.takeWhile_append_of_pos (by simpa using h)]
  simp [isCreation]

end Event

/-- The harness has cancelled the subscription `k`, and since then the helper has answered at
most. -/
def Released (k : Nat) (history : List (Event α)) : Prop :=
  ∃ before after, history = before ++ .teesCancelled k :: after ∧ ∀ e ∈ after, e.isSupply = true

/-- The entry has given up before anybody was there to cancel: before a subject was created the
helper has panicked, or something has been recorded. The entry of rule 2.12, which cancels by
itself, gives up only if the helper panics. -/
def Entry.Abandons (e : Entry) (history : List (Event α)) : Prop :=
  .helperPanicked ∈ Event.opening history ∨
    (e.rules ≠ ["2.12"] ∧ (Event.opening history).filterMap Event.recorded? ≠ [])

instance [DecidableEq α] (e : Entry) (history : List (Event α)) :
    Decidable (e.Abandons history) :=
  inferInstanceAs (Decidable (_ ∨ _))

/-- What becomes of the subscription `k`: it is released, or it is abandoned, and then the program
has ended badly and nothing at all has been cancelled. -/
def Disposed (isAbandoned : Prop) (k : Nat) (ending : Except Halt ρ) (history : List (Event α)) :
    Prop :=
  (¬ isAbandoned ∧ Released k history) ∨
    (isAbandoned ∧ (∃ x, ending = .error x) ∧ ∀ e ∈ history, e.released? = none)

/-! ### Programs that have to do with the helper only -/

namespace Play

/-- The program has to do with the helper only: it creates no subject and cancels nothing, and the
helper panics in it if and only if it ends by a panic. -/
def IsUpstream (p : Play α σ η ρ) : Prop :=
  ∀ r : Run α σ η, ∃ es : List (Event α), r.HelperExtends es (p.on r).2 ∧
    (∀ e ∈ es, e.isCreation = false ∧ e.released? = none) ∧
    (.helperPanicked ∈ es ↔ ∃ x, (p.on r).1 = .error (.panic x))

namespace IsUpstream

protected theorem pure (a : ρ) : (pure a : Play α σ η ρ).IsUpstream := fun r =>
  ⟨[], .refl r, nofun, by simp⟩

protected theorem bind {x : Play α σ η ρ} {f : ρ → Play α σ η ρ'} (hx : x.IsUpstream)
    (hf : ∀ a, (f a).IsUpstream) : (x >>= f).IsUpstream := by
  intro r
  obtain ⟨es, hes, hcalm, hpanic⟩ := hx r
  rw [on_bind]
  rcases hr : x.on r with ⟨h | a, r'⟩ <;> rw [hr] at hes hpanic
  · exact ⟨es, hes, hcalm, by simpa using hpanic⟩
  · obtain ⟨es', hes', hcalm', hpanic'⟩ := hf a r'
    have hnone : .helperPanicked ∉ es := by simp [hpanic]
    refine ⟨es ++ es', hes.trans hes', fun e he => ?_, by simpa [hnone] using hpanic'⟩
    rcases List.mem_append.mp he with he | he
    · exact hcalm e he
    · exact hcalm' e he

protected theorem ask (f : Run α σ η → Except Violation ρ) : (ask f).IsUpstream := by
  intro r
  rw [on_ask]
  refine ⟨[], .refl r, nofun, ?_⟩
  cases f r <;> simp

protected theorem await {e : Expectation (Run α σ η) ρ}
    (he : ∀ r : Run α σ η, r.HelperExtends [] (e.now r).2) : (await e).IsUpstream := by
  intro r
  rw [on_await]
  refine ⟨_, (he r).trans (.pass _ _), by simp [Event.isCreation, Event.released?], ?_⟩
  cases (e.now r).1 <;> simp

protected theorem subscribeTees (h : Helper α η) :
    (orPanic (Run.subscribeTees h) : Play α σ η Unit).IsUpstream := by
  intro r
  obtain ⟨es, hsupply, hes⟩ := Run.subscribeTees_helperExtends h r
  rw [on_orPanic]
  refine ⟨_, hes, fun e he => ?_, ?_⟩
  · simp only [List.cons_append, List.mem_cons, List.mem_append] at he
    rcases he with rfl | he | he
    · exact ⟨rfl, rfl⟩
    · exact ⟨Event.isCreation_of_isSupply (hsupply e he),
        Event.released?_of_isSupply (hsupply e he)⟩
    · rw [Run.eq_helperPanicked_of_mem he]
      exact ⟨rfl, rfl⟩
  · have hnone : .helperPanicked ∉ es := fun hmem => by
      simpa [Event.isSupply] using hsupply _ hmem
    rcases (r.subscribeTees h).1 with p | ⟨⟩ <;> simp [Run.helperPanicEvents, hnone]

end IsUpstream

end Play

namespace Stage

theorem subscribeTees_isUpstream (v : Verification α σ η) (h : Helper α η) :
    (subscribeTees v h).IsUpstream :=
  .bind (.subscribeTees h) fun _ =>
    .bind (.await fun r => ⟨expectSubscription_extends v.timeout r, rfl, rfl, rfl, rfl⟩) fun _ =>
      .ask _

/-- Where the tees has a subscription and is not subscribed well although nothing has panicked,
something has been recorded. -/
theorem recorded_of_subscribeTees {v : Verification α σ η} {h : Helper α η} {r r' : Run α σ η}
    {x : Violation} {k : Nat} (hon : (subscribeTees v h).on r = (.error (.violation x), r'))
    (hk : r'.tees.subscription.value = some k) : r'.log.entries ≠ [] := by
  simp only [subscribeTees, Play.on_bind_eq_error_iff, Play.on_orPanic_eq_error_iff,
    Play.on_orPanic_eq_ok_iff, reduceCtorEq, false_and, exists_false, false_or] at hon
  obtain ⟨⟨⟩, r₁, -, hawait | ⟨_, r₂, -, hlog⟩⟩ := hon
  · -- The tees has its subscription, so it has not been awaited in vain.
    obtain ⟨y, c, -, hnow, rfl⟩ := (Play.on_await_onPart_eq_error_iff
      (fun r => r.tees.subscription)
      fun r c => { r with tees := { r.tees with subscription := c } }).mp hawait
    have hnone : c.value = none := Promise.value_of_completion_error hnow
    exact absurd (hk.symm.trans hnone) (Option.some_ne_none k)
  · obtain ⟨y, -, hassert, rfl⟩ := Play.on_ask_eq_error_iff.mp hlog
    intro hempty
    rw [(Log.assertEmpty_eq_ok_iff _).mpr hempty] at hassert
    cases hassert

/-- Whatever happens to a subject and on its stage happens after the creation of the subject. -/
theorem history_setSubject_bind [Element α] (v : Verification α σ η) {body : Play α σ η ρ}
    (hbody : body.Extends) (r : Run α σ η) : ∃ es : List (Event α),
      ((do setSubject v; body : Play α σ η ρ).on r).2.history =
        r.history ++ .subjectCreated :: es := by
  have hcreate : (do setSubject v; body : Play α σ η ρ).on r =
      (do wireSubject v 0; body : Play α σ η ρ).on (r.note .subjectCreated) := rfl
  obtain ⟨es, hes⟩ := (Play.Extends.bind (wireSubject_extends v 0) fun _ => hbody)
    (r.note .subjectCreated)
  exact ⟨es, by rw [hcreate, hes.history, Run.history_note, List.append_assoc]; rfl⟩

end Stage

/-! ### The end of a run -/

/-- The subscription that the tees has when it has been cancelled has been released. -/
theorem Run.released_cancelTees (h : Helper α η) {r : Run α σ η} {k : Nat}
    (hk : (r.cancelTees h).tees.subscription.value = some k) :
    Released k (r.cancelTees h).history := by
  cases hvalue : r.tees.subscription.value with
  | none =>
    have hidle : r.cancelTees h = r := by simp only [cancelTees, hvalue]
    rw [hidle, hvalue] at hk
    cases hk
  | some k' =>
    obtain ⟨last, hsupply, hes⟩ := cancelTees_of_some h hvalue
    obtain rfl : k' = k := Option.some.inj ((hes.subscription_of_some hvalue).symm.trans hk)
    exact ⟨r.history, last, hes.history, hsupply⟩

variable [Element α] {v : Verification α σ η} {marks : Marks} {r : Run α σ η} {k : Nat}

/-- A stage releases the subscription of its tees, unless the helper has panicked or something has
been recorded before there was a subject. -/
theorem Stage.set_disposed {body : Play α σ η ρ} (hbody : body.Extends) {d : Except Halt ρ}
    (hon : (set v body).on (.start v marks) = (d, r))
    (hk : r.tees.subscription.value = some k) :
    Disposed (.helperPanicked ∈ Event.opening r.history ∨
      (Event.opening r.history).filterMap Event.recorded? ≠ []) k d r.history := by
  obtain ⟨es, hes, hcalm, hpanic⟩ := subscribeTees_isUpstream v (helper v) (.start v marks)
  have hcreation : ∀ e ∈ es, e.isCreation = false := fun e he => (hcalm e he).1
  rw [set, Play.on_bind, on_reserve] at hon
  by_cases hfits : Stage.fits α v.config.capacity = true
  · simp only [hfits, ↓reduceIte, Play.on_bind] at hon
    rcases htees : (subscribeTees v (helper v)).on (.start v marks) with ⟨x | ⟨⟩, r₁⟩ <;>
      rw [htees] at hon hes hpanic
    · -- The tees is not subscribed well, and the stage does not own it.
      obtain ⟨rfl, rfl⟩ := Prod.mk.inj hon
      have hhistory : r₁.history = es := hes.history
      refine .inr ⟨?_, ⟨x, rfl⟩, fun e he => (hcalm e (hhistory ▸ he)).2⟩
      rw [hhistory, Event.opening_eq_self hcreation]
      cases x with
      | panic p => exact .inl (hpanic.mpr ⟨p, rfl⟩)
      | violation x =>
        have hlog := recorded_of_subscribeTees htees hk
        rw [hes.log] at hlog
        exact .inr (by simpa [Run.start] using hlog)
    · -- The stage owns the tees from here on.
      obtain ⟨-, hrun⟩ := Prod.mk.inj hon
      obtain ⟨es', hhistory'⟩ := history_setSubject_bind v hbody r₁
      obtain ⟨last, -, hlast⟩ := Run.cancelTees_supply (helper v)
        ((do setSubject v; body : Play α σ η ρ).on r₁).2
      have hhistory : r.history = es ++ .subjectCreated :: (es' ++ last) := by
        rw [← hrun]
        refine hlast.history.trans ?_
        rw [hhistory', show r₁.history = es from hes.history, List.append_assoc,
          List.cons_append]
      have hlog : es.filterMap Event.recorded? = [] := by
        obtain ⟨r₂, -, -, -, hlog, rfl⟩ := on_subscribeTees_eq_ok_iff.mp htees
        exact (hes.log.symm.trans hlog)
      refine .inl ⟨?_, ?_⟩
      · rw [hhistory, Event.opening_append hcreation, hpanic, hlog]
        simp
      · rw [← hrun] at hk ⊢
        exact Run.released_cancelTees _ hk
  · -- Without storage there has been nothing.
    simp only [hfits] at hon
    obtain ⟨-, rfl⟩ := Prod.mk.inj hon
    exact absurd hk.symm (Option.some_ne_none k)

theorem Scenario.terminalReentrancy_subscription (t : TerminalSignal) :
    ((terminalReentrancy v t).on (.start v marks)).2.tees.subscription.value = none := by
  have htees (s : Stimulus α) (r : Run α σ η) : (r.deliver v s).2.tees = r.tees := by
    obtain ⟨es, -, hes⟩ := r.deliver_extends v s
    exact hes.sameTees
  have hfirst := htees (.onSubscribe 0) (sentinelOffered v marks t)
  rw [terminalReentrancy_on]
  split
  · rcases hopening : (sentinelOffered v marks t).deliver v (.onSubscribe 0) with ⟨p | ⟨⟩, r⟩ <;>
      rw [hopening] at hfirst
    · exact congrArg (·.subscription.value) hfirst
    · have hsecond := (htees t.stimulus r).trans hfirst
      dsimp only
      rcases hclosing : r.deliver v t.stimulus with ⟨p | ⟨⟩, r'⟩ <;> rw [hclosing] at hsecond
      · exact congrArg (·.subscription.value) hsecond
      · exact congrArg (·.subscription.value) hsecond
  · rfl

/-- The scenario of rule 2.12 releases the subscription of its tees unless the helper panics. -/
theorem Scenario.rejectsSecondSubscribe_disposed {d : Except Halt Unit}
    (hon : (rejectsSecondSubscribe v).on (.start v marks) = (d, r))
    (hk : r.tees.subscription.value = some k) :
    Disposed (.helperPanicked ∈ Event.opening r.history) k d r.history := by
  obtain ⟨body, hbody, hscenario⟩ : ∃ body : Play α σ η Unit, body.IsUpstream ∧
      rejectsSecondSubscribe v = (do
        Stage.reserve v
        modify fun r => { r with helper := (v.helper 1).start }
        Play.unlessPanic body (Run.cancelTees (v.helper 1))) := by
    refine ⟨_, ?_, rfl⟩
    refine .bind (Stage.subscribeTees_isUpstream v _) fun _ => .bind (.await fun r => ?_) fun _ =>
      .bind (.subscribeTees _) fun _ => .bind (.await fun r => ?_) fun _ => .pure _
    · exact ⟨Stage.onTees_onReceived_extends _ r, rfl, rfl, rfl, rfl⟩
    · exact ⟨Stage.expectTeesError_extends _ _ _ r, rfl, rfl, rfl, rfl⟩
  rw [hscenario, Play.on_bind, Stage.on_reserve] at hon
  by_cases hfits : Stage.fits α v.config.capacity = true
  · simp only [hfits, ↓reduceIte, Play.on_bind, Play.on_modify] at hon
    obtain ⟨es, hes, hcalm, hpanic⟩ :=
      hbody ({ Run.start v marks with helper := (v.helper 1).start })
    have hcreation : ∀ e ∈ es, e.isCreation = false := fun e he => (hcalm e he).1
    generalize hbodyOn : body.on { Run.start v marks with helper := (v.helper 1).start } = d₁ at *
    by_cases hpanicked : ∃ p, d₁.1 = .error (.panic p)
    · -- Nobody cancels.
      obtain ⟨p, hp⟩ := hpanicked
      rw [Play.on_unlessPanic_of_panic (by rw [hbodyOn, hp]), hbodyOn] at hon
      subst hon
      have hhistory : r.history = es := hes.history
      refine .inr ⟨?_, ⟨_, hp⟩, fun e he => (hcalm e (hhistory ▸ he)).2⟩
      rw [hhistory, Event.opening_eq_self hcreation]
      exact hpanic.mpr ⟨p, hp⟩
    · -- The scenario cancels, and the helper answers.
      rw [Play.on_unlessPanic_of_calm (by rw [hbodyOn]; exact fun p hp => hpanicked ⟨p, hp⟩),
        hbodyOn] at hon
      obtain ⟨-, rfl⟩ := Prod.mk.inj hon
      obtain ⟨last, hsupply, hlast⟩ := Run.cancelTees_supply (v.helper 1) d₁.2
      refine .inl ⟨fun hmem => ?_, Run.released_cancelTees _ hk⟩
      have hhistory : (d₁.2.cancelTees (v.helper 1)).history = es ++ last := by
        rw [hlast.history]
        exact congrArg (· ++ last) hes.history
      rw [hhistory] at hmem
      rcases List.mem_append.mp ((List.takeWhile_sublist _).subset hmem) with hmem | hmem
      · exact hpanicked (hpanic.mp hmem)
      · rcases hsupply _ hmem with h | ⟨k', h⟩
        · simp [Event.isSupply] at h
        · cases h
  · simp only [hfits] at hon
    obtain ⟨-, rfl⟩ := Prod.mk.inj hon
    exact absurd hk.symm (Option.some_ne_none k)

/-! ### The catalog -/

namespace Rule

/-- A subscription that the tees has kept it still has at the end of the run. -/
theorem subscription_of_kept {rule : Rule α σ η}
    (hr : rule ∈ (Catalog.rules : List (Rule α σ η))) {scenario : Scenario α σ η}
    (hs : rule.scenario = some scenario)
    (hkept : .teesOffered k true ∈ ((scenario v).on (.start v marks)).2.history) :
    ((scenario v).on (.start v marks)).2.tees.subscription.value = some k := by
  obtain ⟨es, hes⟩ := Catalog.extends_of_mem hr hs v (.start v marks)
  have hhistory : ((scenario v).on (.start v marks)).2.history = es := hes.history
  rw [hhistory] at hkept
  have hmem : k ∈ ((scenario v).on (.start v marks)).2.tees.subscription.value.toList := by
    rw [hes.subscription]
    exact List.mem_append_right _ (List.mem_filterMap.mpr ⟨_, hkept, rfl⟩)
  simpa using hmem

variable (v) (marks : Marks)

/-- What becomes of a subscription of the helper that the tees of an entry has kept. The harness
cancels it at last, whatever goes wrong, unless the entry has abandoned it; and where the entry has
abandoned it, the harness has cancelled nothing and the entry has failed. -/
theorem released_iff_not_abandoned {rule : Rule α σ η}
    (hr : rule ∈ (Catalog.rules : List (Rule α σ η))) {k : Nat}
    (hkept : .teesOffered k true ∈ (rule.execute v marks).2.history) :
    let history := (rule.execute v marks).2.history
    (Released k history ↔ ¬ rule.toEntry.Abandons history) ∧
      (rule.toEntry.Abandons history →
        (∀ k', .teesCancelled k' ∉ history) ∧ (rule.execute v marks).1.isFailure = true) := by
  intro history
  cases hs : rule.scenario with
  | none =>
    simp only [execute, hs] at hkept
    exact absurd hkept List.not_mem_nil
  | some scenario =>
    have hexecute := execute_of_scenario hs v marks
    rw [hexecute] at hkept
    have hk := subscription_of_kept hr hs hkept
    generalize hd : (scenario v).on (.start v marks) = d at hk hexecute
    have hhistory : history = d.2.history := congrArg (fun d => d.2.history) hexecute
    have hdisposed : Disposed (rule.toEntry.Abandons history) k d.1 history := by
      rw [hhistory]
      rcases Catalog.scenario_of_mem hr hs with ⟨hrules, h⟩ | ⟨-, t, rfl⟩ | ⟨hrules, rfl⟩
      · obtain ⟨body, hset, hbody⟩ := h v
        rw [hset] at hd
        simpa [Entry.Abandons, hrules] using Stage.set_disposed hbody hd hk
      · rw [← hd, Scenario.terminalReentrancy_subscription] at hk
        cases hk
      · simpa [Entry.Abandons, hrules] using Scenario.rejectsSecondSubscribe_disposed hd hk
    rcases hdisposed with ⟨hheld, hreleased⟩ | ⟨habandoned, ⟨x, hx⟩, hnone⟩
    · exact ⟨iff_of_true hreleased hheld, fun h => absurd h hheld⟩
    · have hidle : ∀ k', .teesCancelled k' ∉ history := fun k' hk' =>
        absurd (hnone _ hk') (Option.some_ne_none k')
      refine ⟨iff_of_false ?_ (fun h => h habandoned), fun _ => ⟨hidle, ?_⟩⟩
      · rintro ⟨before, after, hsplit, -⟩
        exact hidle k (by rw [hsplit]; simp)
      · rw [hexecute, hx]
        cases x <;> rfl

/-- With a range publisher the reference gives its subscription back. -/
theorem released_iff_not_abandoned_reference :
    let v := Specimen.reference.verification ⟨.ofMillis 100, 8⟩
    ∃ rule ∈ Catalog.rules, rule.rules = ["2.12"] ∧
      .teesOffered 0 true ∈ (rule.execute v []).2.history ∧
      Released 0 (rule.execute v []).2.history := by
  intro v
  have hr : Catalog.required
      "required_spec212_must_not_call_on_subscribe_more_than_once_based_on_object_equality"
      ["2.12"] "subscribing the same subscriber twice is rejected"
      Scenario.rejectsSecondSubscribe ∈ (Catalog.rules :
        List (Rule UInt64 (Option Nat) Range.HelperState)) := by
    simp [Catalog.rules]
  refine ⟨_, hr, rfl, by decide +kernel, ?_⟩
  exact (released_iff_not_abandoned v [] hr (by decide +kernel)).1.mpr (by decide +kernel)

/-- A helper that completes twice as soon as it has offered a subscription is abandoned by a stage,
and one that panics when it is subscribed to once more is abandoned by the entry of rule 2.12. -/
theorem not_released_of_abandoned :
    let verification (script : HelperScript UInt64) :
        Verification UInt64 (Option Nat) HelperScript.State :=
      ⟨⟨.ofMillis 100, 8⟩, 100, Specimen.reference.subject, fun _ => script.helper⟩
    let abandoned (v : Verification UInt64 (Option Nat) HelperScript.State) (name : String) :=
      ∃ rule, Catalog.find? name = some rule ∧
        .teesOffered 0 true ∈ (rule.execute v []).2.history ∧
        .teesCancelled 0 ∉ (rule.execute v []).2.history
    abandoned (verification ⟨[[.onSubscribe, .onComplete, .onComplete]], [], false⟩)
        "required_exercise_whitebox_happy_path" ∧
      abandoned (verification ⟨[[.onSubscribe], [.panic (.text "twice")]], [], false⟩)
        "required_spec212_must_not_call_on_subscribe_more_than_once_based_on_object_equality" := by
  intro verification abandoned
  exact ⟨⟨_, rfl, by decide, by decide⟩,
    ⟨_, rfl, by decide, by decide⟩⟩

end Rule

end StreamConformance
