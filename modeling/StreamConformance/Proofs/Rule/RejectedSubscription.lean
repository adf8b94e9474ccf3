import StreamConformance.Helper.Script
import StreamConformance.Proofs.Rule.Verdict
import StreamConformance.Proofs.Stage.Supply
import StreamConformance.Proofs.Stage.Wiring
import StreamConformance.Run.Specimen

/-!
# Subscribing twice

The entry of rule 2.12 subscribes the tees to a helper, insists that no element and no completion
has come, subscribes it once more and expects an error. The tees remembers the first error that it
receives, whenever that comes, so the error that is expected may be older than the second
subscription. A helper that signals it too early passes.

## Main definitions

* `Scenario.SubscribedTwice` — what has happened in a run that passes.
* `Scenario.RejectedSecond` — what has happened in a run in which the second time is rejected.

## Main results

* `Scenario.rejectsSecondSubscribe_sound` — the entry does not pass unless that has happened.
* `Scenario.rejectsSecondSubscribe_early` — the error may have come first.
-/

namespace StreamConformance.Scenario

open Stage Play

variable {α σ η : Type}

/-- The tees has subscribed twice. The answer to the first time has offered it a subscription and
has signalled no element and no completion. In the two answers there is exactly one error, which is
the only one of the whole run, and it is the one that rule 2.12 asks for. -/
def SubscribedTwice (history : List (Event α)) : Prop :=
  ∃ first second e, Event.answers history = [first, second] ∧
    (∃ k, .teesOffered k true ∈ first) ∧ first.filterMap Event.supplied? = [] ∧
    .teesComplete ∉ first ∧ (first ++ second).filterMap Event.failure? = [e] ∧
    history.filterMap Event.failure? = [e] ∧ e.isOf .illegalState = true ∧
    Text.occursIn "2.12" e.message = true

/-- The tees has subscribed twice. The answer to the first time has offered it a subscription and
has signalled nothing else, and the first error comes in the answer to the second time and is the
one that rule 2.12 asks for. -/
def RejectedSecond (history : List (Event α)) : Prop :=
  ∃ first second e, Event.answers history = [first, second] ∧
    (∃ k, .teesOffered k true ∈ first) ∧ first.filterMap Event.supplied? = [] ∧
    .teesComplete ∉ first ∧ first.filterMap Event.failure? = [] ∧
    (second.filterMap Event.failure?).head? = some e ∧ e.isOf .illegalState = true ∧
    Text.occursIn "2.12" e.message = true

variable [Element α] {v : Verification α σ η} {marks : Marks} {r : Run α σ η}

/-- Where the scenario ends well, the helper has answered twice and once more to the cancellation of
the tees. Before the second time the tees had received no element and no completion, and after it
the tees had the error that is expected. -/
theorem rejectsSecondSubscribe_parts
    (hon : (rejectsSecondSubscribe v).on (.start v marks) = (.ok (), r)) :
    ∃ (r₁ r₂ : Run α σ η) (first second last : List (Event α)) (k : Nat) (e : StreamError),
      (∀ e ∈ first, e.isSupply = true) ∧ (∀ e ∈ second, e.isSupply = true) ∧
      (∀ e ∈ last, e.isSupply = true) ∧ .teesOffered k true ∈ first ∧
      r₁.history = .teesSubscribed :: first ++ [.awaited, .awaited] ∧
      r₂.history = r₁.history ++ (.teesSubscribed :: second ++ [.awaited]) ∧
      r.history = r₂.history ++ .teesCancelled k :: last ∧
      r₁.Supplied [] ∧ r₁.tees.received.elements = [] ∧ r₁.tees.received.isCompleted = false ∧
      r₂.Supplied [] ∧ r₂.tees.error.value = some e ∧ r.Supplied [] ∧
      e.isOf .illegalState = true ∧ Text.occursIn "2.12" e.message = true := by
  simp only [rejectsSecondSubscribe, on_bind_eq_ok_iff, on_reserve_eq_ok_iff, on_modify,
    on_unlessPanic_eq_ok_iff, on_orPanic_eq_ok_iff, on_pure, Prod.mk.injEq, true_and] at hon
  obtain ⟨⟨⟩, _, ⟨-, rfl⟩, ⟨⟩, r₀, hset, r₅, ⟨⟨⟩, r₁, hfirst, ⟨⟩, r₂, hnone, ⟨⟩, r₃, hsecond, e, _,
    herror, rfl⟩, rfl⟩ := hon
  have h₀ : r₀.Supplied [] := (Run.Supplied.start v marks).of_untouched (by rw [← hset])
    (by rw [← hset])
  have hhistory₀ : r₀.history = [] := by
    rw [← hset]
    rfl
  have hsubscription₀ : r₀.tees.subscription.value = none := by
    rw [← hset]
    rfl
  -- The first answer, and the wait after it.
  have h₁ := subscribeTees_supplied h₀ hfirst
  obtain ⟨first, hfirstSupply, hes₁, -, k, hk⟩ := answer_of_subscribeTees hfirst
  obtain ⟨hempty, hopen, d, rfl⟩ := of_expectNone hnone
  have hhistory₁ : r₁.history = .teesSubscribed :: first ++ [.awaited] := by
    rw [hes₁.history, hhistory₀]
    rfl
  have hoffered : .teesOffered k true ∈ first := by
    simpa using teesOffered_mem hes₁ hsubscription₀ hk
  -- The second answer, and the wait for the error.
  obtain ⟨second, hsecondSupply, hes₂⟩ :=
    Run.subscribeTees_helperExtends (v.helper 1) (r₁.pass d)
  have h₂ := (h₁.pass d).subscribeTees (v.helper 1)
  rw [hsecond] at hes₂ h₂
  simp only [Run.helperPanicEvents, List.append_nil] at hes₂
  obtain ⟨hvalue, hkind, hpart, d', rfl⟩ := of_expectError herror
  -- The end of the run.
  have hk₃ : (r₃.pass d').tees.subscription.value = some k :=
    hes₂.subscription_of_some (r := r₁.pass d) hk
  obtain ⟨last, hlastSupply, hes₃⟩ := Run.cancelTees_of_some (v.helper 1) hk₃
  refine ⟨r₁.pass d, r₃.pass d', first, second, last, k, e, hfirstSupply, hsecondSupply,
    hlastSupply, hoffered, ?_, ?_, hes₃.history, h₁.pass d, hempty, hopen, h₂.pass d', hvalue,
    (h₂.pass d').cancelTees _, hkind, hpart⟩
  · rw [(Run.Extends.pass r₁ d).history, hhistory₁]
    simp
  · rw [(Run.Extends.pass r₃ d').history, hes₂.history]
    simp

/-- Where the scenario ends well and nothing has been recorded, the tees has subscribed twice and
has got the error that is expected. -/
theorem rejectsSecondSubscribe_of_ok
    (hon : (rejectsSecondSubscribe v).on (.start v marks) = (.ok (), r))
    (clean : r.history.filterMap Event.recorded? = []) : SubscribedTwice r.history := by
  obtain ⟨r₁, r₂, first, second, last, k, e, hfirst, hsecond, hlast, hoffered, hhistory₁,
    hhistory₂, hhistory, h₁, hempty, hopen, h₂, hvalue, h, hkind, hpart⟩ :=
    rejectsSecondSubscribe_parts hon
  have clean₂ : r₂.history.filterMap Event.recorded? = [] := by
    rw [hhistory, List.filterMap_append, List.append_eq_nil_iff] at clean
    exact clean.1
  have clean₁ : r₁.history.filterMap Event.recorded? = [] := by
    rw [hhistory₂, List.filterMap_append, List.append_eq_nil_iff] at clean₂
    exact clean₂.1
  have hsupplied := h₁.elements clean₁
  have hended := h₁.ended
  have hfailures := h₂.failures clean₂
  rw [hhistory₁] at hsupplied hended
  rw [hempty] at hsupplied
  rw [hopen] at hended
  rw [hhistory₂, hhistory₁, hvalue] at hfailures
  -- The first error is the only one, since any other one would have been recorded.
  have hfailure : r.history.filterMap Event.failure? = [e] := by
    have hcons : r.history.filterMap Event.failure? =
        e :: (.teesCancelled k :: last).filterMap Event.failure? := by
      rw [hhistory, List.filterMap_append, h₂.failures clean₂, hvalue]
      rfl
    rw [h.failures clean] at hcons ⊢
    cases herror : r.tees.error.value with
    | none => simp [herror] at hcons
    | some e' =>
      rw [herror] at hcons
      simpa using (List.cons.inj hcons).1
  refine ⟨first, second, e, ?_, ⟨k, hoffered⟩, ?_, ?_, ?_, hfailure, hkind, hpart⟩
  · have hnone : .teesSubscribed ∉ .awaited :: .teesCancelled k :: last := by
      simp only [List.mem_cons, reduceCtorEq, false_or]
      exact fun hmem => by simpa [Event.isSupply] using hlast _ hmem
    have hsplit : r.history = .teesSubscribed :: first ++ .awaited :: ([.awaited] ++
        (.teesSubscribed :: second ++ .awaited :: (.teesCancelled k :: last))) := by
      rw [hhistory, hhistory₂, hhistory₁]
      simp
    have hrest : Event.answers (.awaited :: .teesCancelled k :: last) = [] := by
      have happend : Event.answers ((.awaited :: .teesCancelled k :: last) ++ []) =
          Event.answers [] := Event.answers_append hnone
      simpa [Event.answers] using happend
    rw [hsplit, Event.answers_subscribed hfirst rfl, ← List.cons_append,
      Event.answers_append (by simp), Event.answers_subscribed hsecond rfl]
    rw [hrest]
  · simpa [Event.filterMap_cons_eq, Event.supplied?] using hsupplied
  · intro hmem
    rw [eq_comm, List.any_eq_false] at hended
    exact hended .teesComplete (by simp [hmem]) rfl
  · simpa [Event.filterMap_cons_eq, Event.failure?] using hfailures

variable (v marks)

/-- What the entry of rule 2.12 is sound for: it does not pass unless the tees has subscribed twice
and there is exactly one error in the answers, which is the one that the rule asks for. -/
theorem rejectsSecondSubscribe_sound {rule : Rule α σ η}
    (hfind : Catalog.find?
      "required_spec212_must_not_call_on_subscribe_more_than_once_based_on_object_equality" =
        some rule)
    (hpassed : (rule.execute v marks).1 = .passed) :
    SubscribedTwice (rule.execute v marks).2.history := by
  have hs : rule.scenario = some rejectsSecondSubscribe := by
    have hscenario : ((Catalog.find?
        "required_spec212_must_not_call_on_subscribe_more_than_once_based_on_object_equality").bind
          Rule.scenario : Option (Scenario α σ η)) = some rejectsSecondSubscribe := rfl
    rwa [hfind] at hscenario
  obtain ⟨r, hexecute, hon, -, hclean, -⟩ :=
    Rule.of_passed hs (rejectsSecondSubscribe_extends v) hpassed
  rw [hexecute]
  exact rejectsSecondSubscribe_of_ok hon hclean

/-- The range publisher passes the entry. -/
theorem rejectsSecondSubscribe_sound_range :
    let v := Specimen.reference.verification ⟨.ofMillis 100, 8⟩
    ∃ rule, Catalog.find?
        "required_spec212_must_not_call_on_subscribe_more_than_once_based_on_object_equality" =
          some rule ∧
      (rule.execute v []).1 = .passed ∧ SubscribedTwice (rule.execute v []).2.history := by
  intro v
  have hpassed : ∀ rule : Rule UInt64 (Option Nat) Range.HelperState, Catalog.find?
      "required_spec212_must_not_call_on_subscribe_more_than_once_based_on_object_equality" =
        some rule → (rule.execute v []).1 = .passed := by
    rintro _ ⟨⟩
    decide
  exact ⟨_, rfl, hpassed _ rfl, rejectsSecondSubscribe_sound v [] rfl (hpassed _ rfl)⟩

/-- A helper that signals the error when it is subscribed to for the first time, and nothing
afterwards, passes the entry all the same. -/
theorem rejectsSecondSubscribe_early :
    let script : HelperScript UInt64 :=
      ⟨[[.onSubscribe, .onError (.illegalState "Rule 2.12: early")], []], [], false⟩
    let v : Verification UInt64 (Option Nat) HelperScript.State :=
      ⟨⟨.ofMillis 100, 8⟩, 100, Specimen.reference.subject, fun _ => script.helper⟩
    ∃ rule, Catalog.find?
        "required_spec212_must_not_call_on_subscribe_more_than_once_based_on_object_equality" =
          some rule ∧
      (rule.execute v []).1 = .passed ∧ ¬ RejectedSecond (rule.execute v []).2.history := by
  intro script v
  refine ⟨_, rfl, by decide, ?_⟩
  rintro ⟨first, second, e, hanswers, -, -, -, hnone, -⟩
  have herrors := congrArg (fun answers => answers.head?.map (List.filterMap Event.failure?))
    hanswers
  simp only [List.head?_cons, Option.map_some, hnone] at herrors
  exact absurd herrors (by decide)

end StreamConformance.Scenario
