import StreamConformance.Proofs.Rule.Verdict
import StreamConformance.Proofs.Stage.Wiring
import StreamConformance.Run.Specimen

/-!
# A second subscription

The entry of rule 2.5 offers the subject of a wired stage a second subscription, which the subject
must cancel at once. The entry passes if and only if the stage has been wired, no callback has
panicked, the subject has cancelled the second subscription while it handled the offer, and nothing
has been recorded up to the end of the stage.

## Main results

* `Scenario.cancelsSecondSubscription_of_ok`, `Scenario.cancelsSecondSubscription_of_error` — what
  has happened where the scenario ends well, and what is missing where it does not.
* `Scenario.cancelsSecondSubscription_verdict` — when the entry passes.
-/

namespace StreamConformance.Scenario

open Stage Play

variable {α σ η : Type} [Element α] {v : Verification α σ η} {marks : Marks} {r : Run α σ η}

/-- Where the scenario ends well the stage has been wired, nothing has panicked, and the second
subscription has been cancelled from within the callback in which it was offered. -/
theorem cancelsSecondSubscription_of_ok
    (hon : (cancelsSecondSubscription v).on (.start v marks) = (.ok (), r)) :
    Wired r.history ∧ (∀ e ∈ r.history, e.isPanic = false) ∧
      ∃ lane, Event.During (.onSubscribe 1) (.cancelled .second lane) r.history := by
  obtain ⟨-, r₁, wired, r₃, htees, hsubject, hbody, rfl⟩ := on_set_eq_ok_iff.mp hon
  obtain ⟨hwired, hpanic, hoffers, hsecond⟩ := wired_of_ok htees hsubject
  simp only [on_bind_eq_ok_iff] at hbody
  obtain ⟨_, r₂, hsubscriber, ⟨⟩, r₄, hoffer, ⟨⟩, r₅, hclosing, hclean⟩ := hbody
  obtain ⟨-, rfl⟩ := on_ask_eq_ok_iff.mp hsubscriber
  obtain ⟨-, rfl⟩ := on_requireCleanLog_eq_ok_iff.mp hclean
  -- The offer: its number is one, since the publisher's subscription has been offered before.
  obtain ⟨answer, hanswer, h₄⟩ := r₂.offer_extends v .second
  rw [on_orPanic_eq_ok_iff.mp hoffer] at h₄
  simp only [Run.panicEvents, List.append_nil, hoffers, List.length_singleton] at h₄
  -- The cancellation: the second subscription was open before the offer.
  have hclosed : r₄.second.isClosed = true ∧ ∃ d, r₃ = r₄.pass d := by
    obtain ⟨l, hl, rfl⟩ := (on_await_onPart_eq_ok_iff (fun r => r.second)
      fun r l => { r with second := l }).mp hclosing
    obtain ⟨hclosed, rfl⟩ := Latch.closing_eq_ok_iff.mp hl
    exact ⟨hclosed, _, rfl⟩
  obtain ⟨hclosed, d, rfl⟩ := hclosed
  have hcancelled := h₄.second
  rw [hclosed, hsecond, Bool.false_or, eq_comm, List.any_eq_true] at hcancelled
  obtain ⟨e, he, hcancel⟩ := hcancelled
  obtain ⟨lane, rfl⟩ := Event.eq_of_cancelsSecond hcancel
  replace he : .cancelled .second lane ∈ answer := by simpa using he
  -- The whole history.
  obtain ⟨last, hlast, h₅⟩ := (r₄.pass d).cancelTees_extends (helper v)
  have hhistory : ((r₄.pass d).cancelTees (helper v)).history =
      r₂.history ++ .stimulated (.onSubscribe 1) :: answer ++ (.awaited :: last) := by
    rw [h₅.history, (Run.Extends.pass r₄ d).history, h₄.history]
    simp [Run.history]
  refine ⟨?_, fun e he => ?_, lane, ?_⟩
  · rw [hhistory, List.append_assoc]
    exact hwired _
  · rw [hhistory] at he
    simp only [List.mem_append, List.mem_cons] at he
    rcases he with (he | rfl | he) | rfl | he
    · exact hpanic e he
    · rfl
    · exact Event.isPanic_of_isCall (hanswer e he)
    · rfl
    · exact (hlast e he).2
  · rw [hhistory]
    exact .of_mem (fun e he => Event.isStimulus_of_isCall (hanswer e he)) he

/-- Where the scenario ends badly something is missing: the stage, the offer or the cancellation;
or a callback has panicked or something has been recorded. -/
theorem cancelsSecondSubscription_of_error {x : Halt}
    (hon : (cancelsSecondSubscription v).on (.start v marks) = (.error x, r)) :
    .subjectCreated ∉ r.history ∨ .panicked ∈ r.history ∨ r.probe.puppet.value = none ∨
      .second ∉ r.offers ∨ r.second.isClosed = false ∨ r.log.entries ≠ [] := by
  rcases on_set_eq_error_iff.mp hon with
    ⟨-, -, rfl⟩ | ⟨-, htees | ⟨r₁, r₂, htees, rfl, hsubject | ⟨r₃, hsubject, hbody⟩⟩⟩
  · left
    simp [Run.history, Run.start]
  · left
    obtain ⟨es, hhistory, hes⟩ := subscribeTees_of_error htees
    rw [hhistory]
    exact hes
  · obtain ⟨last, -, hlast⟩ := r₂.cancelTees_extends (helper v)
    rcases setSubject_of_error (fresh_of_subscribeTees htees) hsubject with hpanicked | hpuppet
    · right; left
      rw [hlast.history]
      exact List.mem_append_left _ hpanicked
    · right; right; left
      rw [hlast.sameProbe]
      exact hpuppet
  · obtain ⟨last, -, hlast⟩ := r₂.cancelTees_extends (helper v)
    obtain ⟨-, -, hoffers, -⟩ := wired_of_ok htees hsubject
    simp only [on_bind_eq_error_iff] at hbody
    rcases hbody with hsubscriber | ⟨_, r₄, hsubscriber, hoffer | ⟨⟨⟩, r₅, hoffer, hclosing |
      ⟨⟨⟩, r₆, hclosing, hclean⟩⟩⟩
    · right; right; right; left
      obtain ⟨-, -, -, rfl⟩ := on_ask_eq_error_iff.mp hsubscriber
      rw [hlast.sameOffers, hoffers]
      simp
    · right; left
      obtain ⟨p, -, hoffer⟩ := on_orPanic_eq_error_iff.mp hoffer
      obtain ⟨answer, -, h₄⟩ := r₄.offer_extends v .second
      rw [hoffer] at h₄
      rw [hlast.history, h₄.history]
      simp [Run.panicEvents]
    · right; right; right; right; left
      obtain ⟨y, l, -, hl, rfl⟩ := (on_await_onPart_eq_error_iff (fun r => r.second)
        fun r l => { r with second := l }).mp hclosing
      rw [hlast.sameSecond]
      exact Latch.isClosed_of_closing_error hl
    · right; right; right; right; right
      obtain ⟨y, -, hy, rfl⟩ := on_ask_eq_error_iff.mp hclean
      rw [hlast.log]
      intro hempty
      rw [(Log.assertEmpty_eq_ok_iff _).mpr (List.append_eq_nil_iff.mp hempty).1] at hy
      simp at hy

/-- When nothing is in the log, the scenario has ended well if and only if the stage has been wired,
no callback has panicked, and the second subscription has been cancelled. -/
theorem cancelsSecondSubscription_eq_ok_iff {ending : Except Halt Unit}
    (hon : (cancelsSecondSubscription v).on (.start v marks) = (ending, r))
    (hlog : r.log.entries = []) :
    ending = .ok () ↔ Wired r.history ∧ .panicked ∉ r.history ∧
      ∃ lane, Event.During (.onSubscribe 1) (.cancelled .second lane) r.history := by
  obtain ⟨es, hes⟩ := cancelsSecondSubscription_extends v (.start v marks)
  rw [hon] at hes
  obtain rfl : r.history = es := hes.history
  have hpuppets : r.probe.puppet.value.toList = r.history.filterMap Event.puppet? := hes.puppet
  have hsecond : r.second.isClosed = r.history.any Event.cancelsSecond := hes.second
  constructor
  · rintro rfl
    obtain ⟨hwired, hpanic, hcancel⟩ := cancelsSecondSubscription_of_ok hon
    exact ⟨hwired, fun h => by simpa [Event.isPanic] using hpanic _ h, hcancel⟩
  · rintro ⟨hwired, hpanicked, lane, hcancel⟩
    rcases ending with x | ⟨⟩
    · rcases cancelsSecondSubscription_of_error hon with h | h | h | h | h | h
      · exact absurd hwired.subjectCreated_mem h
      · exact absurd h hpanicked
      · obtain ⟨p, hp⟩ := hwired.exists_puppet
        simp [← hpuppets, h] at hp
      · exact absurd (hes.targets _ hcancel.mem .second rfl) h
      · rw [hsecond, List.any_eq_false] at h
        exact absurd rfl (h _ hcancel.mem)
      · exact absurd hlog h
    · rfl

/-- Where the scenario ends well and nothing is in the log, the helper has not panicked, nothing has
been requested on the second subscription, and exactly one puppet has been offered. -/
theorem cancelsSecondSubscription_blameless
    (hon : (cancelsSecondSubscription v).on (.start v marks) = (.ok (), r))
    (hlog : r.log.entries = []) :
    .helperPanicked ∉ r.history ∧ (∀ lane n, .requested .second lane n ∉ r.history) ∧
      r.history.countP Event.offersPuppet = 1 := by
  obtain ⟨es, hes⟩ := cancelsSecondSubscription_extends v (.start v marks)
  rw [hon] at hes
  obtain rfl : r.history = es := hes.history
  have hpuppets : r.probe.puppet.value.toList = r.history.filterMap Event.puppet? := hes.puppet
  have hblameless := hes.blameless (hes.log.symm.trans hlog)
  obtain ⟨hwired, hpanic, -⟩ := cancelsSecondSubscription_of_ok hon
  refine ⟨fun h => by simpa [Event.isPanic] using hpanic _ h, fun lane n h => ?_, ?_⟩
  · simpa [Event.isBlameless] using hblameless _ h
  · obtain ⟨p, hp⟩ := hwired.exists_puppet
    rw [Event.countP_offersPuppet hblameless, ← hpuppets]
    cases hvalue : r.probe.puppet.value with
    | none => simp [← hpuppets, hvalue] at hp
    | some q => rfl

variable (v marks)

/-- The verdict on rule 2.5. The entry has passed if and only if the stage has been wired, no
callback has panicked, the subject has cancelled the second subscription while it handled the offer,
and nothing has been recorded in the whole run, the end of the stage included. If it has passed, the
helper has not panicked either, the subject has never requested on the second subscription, and it
has offered exactly one puppet. -/
theorem cancelsSecondSubscription_verdict :
    ∃ rule, Catalog.find? ("required_spec205_must_call_subscription_cancel_if_it_already_has_a_" ++
        "subscription_and_receives_another_on_subscribe_signal") = some rule ∧
      let run := (rule.execute v marks).2
      let outcome := (rule.execute v marks).1
      (outcome = .passed ↔ Wired run.history ∧ .panicked ∉ run.history ∧
        (∃ lane, Event.During (.onSubscribe 1) (.cancelled .second lane) run.history) ∧
        run.history.filterMap Event.recorded? = []) ∧
      (outcome = .passed → .helperPanicked ∉ run.history ∧
        (∀ lane n, .requested .second lane n ∉ run.history) ∧
        run.history.countP Event.offersPuppet = 1) := by
  obtain ⟨rule, hfind, hs⟩ : ∃ rule : Rule α σ η, Catalog.find?
      ("required_spec205_must_call_subscription_cancel_if_it_already_has_a_" ++
        "subscription_and_receives_another_on_subscribe_signal") = some rule ∧
      rule.scenario = some cancelsSecondSubscription := ⟨_, rfl, rfl⟩
  refine ⟨rule, hfind, ?_⟩
  have hpassed := Rule.execute_passed_iff hs v marks
  have hlog := (cancelsSecondSubscription_extends v).appends.log_start v marks
  simp only [Rule.execute_of_scenario hs v marks] at hpassed ⊢
  generalize hd : (cancelsSecondSubscription v).on (.start v marks) = d at hpassed hlog ⊢
  rw [hpassed, ← hlog]
  refine ⟨?_, fun ⟨hok, hclean⟩ => cancelsSecondSubscription_blameless
    (hd.trans (Prod.ext hok rfl)) hclean⟩
  constructor
  · rintro ⟨hok, hclean⟩
    obtain ⟨hwired, hpanicked, hcancel⟩ := (cancelsSecondSubscription_eq_ok_iff hd hclean).mp hok
    exact ⟨hwired, hpanicked, hcancel, hclean⟩
  · rintro ⟨hwired, hpanicked, hcancel, hclean⟩
    exact ⟨(cancelsSecondSubscription_eq_ok_iff hd hclean).mpr ⟨hwired, hpanicked, hcancel⟩, hclean⟩

/-- The reference subject passes the entry, and offers one puppet. -/
theorem cancelsSecondSubscription_verdict_reference :
    let v := Specimen.reference.verification ⟨.ofMillis 100, 8⟩
    ∃ rule, Catalog.find? ("required_spec205_must_call_subscription_cancel_if_it_already_has_a_" ++
        "subscription_and_receives_another_on_subscribe_signal") = some rule ∧
      (rule.execute v []).1 = .passed ∧
      (rule.execute v []).2.history.countP Event.offersPuppet = 1 := by
  intro v
  obtain ⟨rule, hfind, -, hpassed⟩ := cancelsSecondSubscription_verdict v []
  have hrule : (rule.execute v []).1 = .passed := by
    obtain rfl := Option.some.inj hfind
    decide
  exact ⟨rule, hfind, hrule, (hpassed hrule).2.2⟩

end StreamConformance.Scenario
