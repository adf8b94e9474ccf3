import StreamConformance.Proofs.Rule.Verdict
import StreamConformance.Proofs.Stage.Balance

/-!
# Demand that registers

The entry of rule 3.8 tells the puppet to request two elements, sends two elements on, and tells the
puppet to request three more. In between it looks for demand and for reports that it has not asked
for. It passes only if up to the last request the subject has requested two elements in all, with no
request for nothing, and has reported the two elements that it has been sent and nothing else.

## Main definitions

* `Scenario.DemandRegistered` — what has happened before the last request of a run that passes.

## Main results

* `Scenario.registersDemand_sound` — the entry fails unless that has happened.
-/

namespace StreamConformance.Scenario

open Stage Play

variable {α σ η : Type}

/-- Two elements have been requested in all, each request for some, and the probe has accepted
exactly the two elements pulled from the helper, in their order, and no completion. -/
structure DemandRegistered (history : List (Event α)) : Prop where
  positive : ∀ n ∈ history.filterMap Event.demand?, n ≠ 0
  requested : Demand.total (history.filterMap Event.demand?) = 2
  pulled : (history.filterMap Event.pulled?).length = 2
  accepted : history.filterMap Event.accepted? = history.filterMap Event.pulled?
  uncompleted : history.any Event.acceptsCompletion = false

/-- A balanced run all of whose queues have been found empty shows what the ledger holds. -/
theorem DemandRegistered.of_balanced {r : Run α σ η} {taken : List UInt64} {elements : List α}
    (h : r.Balanced ⟨taken, elements, elements⟩) (clean : r.history.filterMap Event.recorded? = [])
    (blameless : ∀ e ∈ r.history, e.isBlameless = true)
    (sum : Demand.total taken = 2) (two : elements.length = 2)
    (requests : r.publisher.requests.elements = [])
    (reports : r.probe.blackbox.elements.elements = [])
    (isOpen : r.probe.blackbox.elements.isCompleted = false) : DemandRegistered r.history where
  positive _ hn := Event.ne_zero_of_demand? blameless hn
  requested := by rw [h.requests clean, requests, List.append_nil, sum]
  pulled := by rw [h.pulled, two]
  accepted := by rw [h.elements, reports, List.append_nil, h.pulled]
  uncompleted := h.completed.symm.trans isOpen

variable [Element α] {v : Verification α σ η} {marks : Marks} {r : Run α σ η}

/-- Where the scenario ends well, there is a run before the last request in which all requests and
all reports are accounted for. -/
theorem registersDemand_accounts (hon : (registersDemand v).on (.start v marks) = (.ok (), r)) :
    ∃ (r₁ r₂ : Run α σ η) (puppet : Nat) (taken : List UInt64) (first second : α),
      r₁.Balanced ⟨taken, [first, second], [first, second]⟩ ∧
      Demand.total taken = 2 ∧
      r₁.publisher.requests.elements = [] ∧ r₁.probe.blackbox.elements.elements = [] ∧
      r₁.probe.blackbox.elements.isCompleted = false ∧
      r₁.deliver v (.triggerRequest puppet 3) = (.ok (), r₂) ∧
      r = r₂.cancelTees (helper v) := by
  obtain ⟨-, r₁, r₂, r₃, htees, hsubject, hbody, rfl⟩ := on_set_eq_ok_iff.mp hon
  have h₁ := subscribeTees_balanced (.start v marks) htees
  have h₂ := setSubject_balanced h₁ hsubject
  simp only [on_bind_eq_ok_iff] at hbody
  obtain ⟨puppet, _, hpuppet, ⟨⟩, r₄, hrequest, total, r₅, hdemand, first, r₆, hfirst, ⟨⟩, r₇,
    hfirst', second, r₈, hsecond, ⟨⟩, r₉, hsecond', ⟨⟩, r₁₀, hnone, ⟨⟩, r₁₁, hnoRequest, ⟨⟩, r₁₂,
    hlast, hclean⟩ := hbody
  obtain ⟨-, rfl⟩ := on_ask_eq_ok_iff.mp hpuppet
  have h₄ := triggerRequest_balanced h₂ hrequest
  obtain ⟨taken, hsum, h₅⟩ := expectDemand_balanced h₄ (by decide) hdemand
  have h₆ := signalNext_balanced h₅ hfirst
  have h₇ := expectElement_balanced h₆ hfirst'
  have h₈ := signalNext_balanced h₇ hsecond
  have h₉ := expectElement_balanced h₈ hsecond'
  obtain ⟨h₁₀, hreports, hopen⟩ := expectNone_balanced h₉ hnone
  obtain ⟨h₁₁, hrequests, hprobe⟩ := expectNoRequest_balanced h₁₀ hnoRequest
  obtain ⟨-, rfl⟩ := on_requireCleanLog_eq_ok_iff.mp hclean
  refine ⟨r₁₁, _, puppet, taken, first, second, h₁₁, hsum, hrequests, ?_, ?_,
    on_orPanic_eq_ok_iff.mp hlast, rfl⟩
  · rw [hprobe, hreports]
  · rw [hprobe, hopen]

/-- Where the scenario ends well and nothing is in the log, the demand has been registered before
the last stimulus, which is the last request. -/
theorem registersDemand_of_ok (hon : (registersDemand v).on (.start v marks) = (.ok (), r))
    (hlog : r.log.entries = []) : ∃ before puppet after,
      r.history = before ++ .stimulated (.triggerRequest puppet 3) :: after ∧
      (∀ e ∈ after, e.isStimulus = false) ∧ DemandRegistered before := by
  obtain ⟨r₁, r₂, puppet, taken, first, second, hbalanced, hsum, hrequests, hreports, hopen,
    hdeliver, hend⟩ := registersDemand_accounts hon
  -- What happens from the last request on.
  obtain ⟨calls, hcalls, hsubject⟩ := r₁.deliver_extends v (.triggerRequest puppet 3)
  obtain ⟨last, hquiet, hhelper⟩ := r₂.cancelTees_extends (helper v)
  rw [hdeliver] at hsubject
  simp only [Run.panicEvents, List.append_nil] at hsubject
  have hhistory : r.history =
      r₁.history ++ .stimulated (.triggerRequest puppet 3) :: (calls ++ last) := by
    rw [hend, hhelper.history, hsubject.history]
    simp
  -- Nothing has been recorded in the whole run, so there is nothing to be blamed.
  obtain ⟨es, hes⟩ := registersDemand_extends v (.start v marks)
  rw [hon] at hes
  obtain rfl : r.history = es := hes.history
  have hclean : r.history.filterMap Event.recorded? = [] := hes.log.symm.trans hlog
  have hblameless := hes.blameless hclean
  rw [hhistory] at hblameless hclean
  rw [List.filterMap_append, List.append_eq_nil_iff] at hclean
  refine ⟨r₁.history, puppet, calls ++ last, hhistory, fun e he => ?_, ?_⟩
  · rcases List.mem_append.mp he with he | he
    · exact Event.isStimulus_of_isCall (hcalls e he)
    · exact (hquiet e he).1
  · exact .of_balanced hbalanced hclean.1
      (fun e he => hblameless e (List.mem_append_left _ he)) hsum rfl hrequests hreports hopen

variable (v marks)

/-- Soundness of the entry of rule 3.8: unless it fails, it has passed, and up to the last request
that the puppet is told to make the requests on the subscription make up exactly two elements and
the reports are exactly the two elements pulled from the helper. -/
theorem registersDemand_sound {rule : Rule α σ η}
    (hfind : Catalog.find?
      "required_spec308_request_must_register_given_number_elements_to_be_produced" = some rule)
    (hfailure : (rule.execute v marks).1.isFailure = false) :
    (rule.execute v marks).1 = .passed ∧ ∃ before puppet after,
      (rule.execute v marks).2.history =
        before ++ .stimulated (.triggerRequest puppet 3) :: after ∧
      (∀ e ∈ after, e.isStimulus = false) ∧ DemandRegistered before := by
  have hs : rule.scenario = some registersDemand := by
    have hscenario : ((Catalog.find?
        "required_spec308_request_must_register_given_number_elements_to_be_produced").bind
          Rule.scenario : Option (Scenario α σ η)) = some registersDemand := rfl
    rwa [hfind] at hscenario
  have hpassed : (rule.execute v marks).1 = .passed := by
    rw [Rule.execute_of_scenario hs] at hfailure ⊢
    exact Rule.judge_of_isFailure hfailure
  obtain ⟨hend, hlog⟩ := (Rule.execute_passed_iff hs v marks).mp hpassed
  refine ⟨hpassed, ?_⟩
  rw [Rule.execute_of_scenario hs] at hlog ⊢
  exact registersDemand_of_ok (Prod.ext hend rfl) hlog

/-- The reference subject passes the entry, with queues for eight signals. -/
theorem registersDemand_sound_reference :
    let v := Specimen.reference.verification ⟨.ofMillis 100, 8⟩
    ∃ rule, Catalog.find?
        "required_spec308_request_must_register_given_number_elements_to_be_produced" = some rule ∧
      (rule.execute v []).1.isFailure = false ∧ ∃ before puppet after,
        (rule.execute v []).2.history =
          before ++ .stimulated (.triggerRequest puppet 3) :: after ∧ DemandRegistered before := by
  intro v
  refine ⟨_, rfl, by decide +kernel, ?_⟩
  obtain ⟨-, before, puppet, after, hhistory, -, hregistered⟩ :=
    registersDemand_sound v [] rfl (by decide +kernel)
  exact ⟨before, puppet, after, hhistory, hregistered⟩

end StreamConformance.Scenario
