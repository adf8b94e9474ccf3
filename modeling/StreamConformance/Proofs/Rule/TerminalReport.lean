import StreamConformance.Proofs.Rule.Verdict
import StreamConformance.Proofs.Stage.Prompting
import StreamConformance.Rule.Catalog

/-!
# Reporting a terminal signal

The entries of rules 2.9 and 2.10 send the subject a completion or an error, with or without
requests before it, and expect that the subject reports it. They pass if and only if the stage has
been wired, no callback has panicked, nothing has been recorded, and what the probe has accepted in
the whole run is as it should be: for a completion exactly that and no element, for an error that
very instance as the terminal signal.

## Main definitions

* `Scenario.TerminalSignal.Reported` — what the probe must have accepted.
* `Scenario.reporting` — a stage on which the subject is prompted and a report is expected.

## Main results

* `Scenario.reporting_eq_ok_iff` — when such a scenario ends well.
* `Scenario.reportsTerminal_verdict` — when the entries pass.
-/

namespace StreamConformance.Scenario

open Stage Play

variable {α σ η : Type}

/-- The probe has accepted the terminal signal: a completion and no element, or as its terminal
signal the error that has been sent and not one that only looks like it. -/
def TerminalSignal.Reported : TerminalSignal → (elements : List α) → (terminals : List (Call α)) →
    Prop
  | .complete, elements, terminals => elements = [] ∧ terminals = [.registerComplete]
  | .error, _, terminals => ∃ e, terminals = [.registerError e] ∧ e.same testError = true

/-- The name of the entry for a terminal signal, sent after a request or without one. -/
def TerminalSignal.reportEntry : TerminalSignal → (afterRequest : Bool) → String
  | .complete, true =>
    "required_spec209_must_be_prepared_to_receive_an_on_complete_signal_with_preceding_request_call"
  | .complete, false => "required_spec209_must_be_prepared_to_receive_an_on_complete_signal_" ++
      "without_preceding_request_call"
  | .error, true =>
    "required_spec210_must_be_prepared_to_receive_an_on_error_signal_with_preceding_request_call"
  | .error, false => "required_spec210_must_be_prepared_to_receive_an_on_error_signal_" ++
      "without_preceding_request_call"

variable [Element α] (v : Verification α σ η)

/-- The scenario for a terminal signal, sent after a request or without one. -/
def TerminalSignal.reportScenario : TerminalSignal → (afterRequest : Bool) → Scenario α σ η
  | .complete, true => completionAfterRequest
  | .complete, false => completionWithoutRequest
  | .error, true => errorAfterRequest
  | .error, false => errorWithoutRequest

/-- The expectation that the subject, known by a name, reports the terminal signal. -/
def TerminalSignal.expected (timeout : Duration) (name : String) :
    TerminalSignal → Expectation (BlackboxProbe α) Unit
  | .complete => BlackboxProbe.expectCompletion name timeout
  | .error => BlackboxProbe.expectError name testError timeout

/-- The subject is prompted, and then a report is expected of it. -/
def reporting (prompt : Play α σ η Unit) (expected : String → Expectation (BlackboxProbe α) Unit) :
    Play α σ η Unit := do
  prompt
  let name ← Stage.subjectName v
  Play.await (Stage.onProbe (WhiteboxProbe.onBlackbox (expected name)))
  Stage.requireCleanLog

variable {v} {marks : Marks} {r r' : Run α σ η} {prompt : Play α σ η Unit}
  {expected : String → Expectation (BlackboxProbe α) Unit}
  {Reported : List α → List (Call α) → Prop}

omit [Element α] in
/-- Awaiting a report is decided by the record of the probe, and adds nothing but the wait. -/
theorem on_await_report (e : Expectation (BlackboxProbe α) Unit) (r : Run α σ η) :
    ∃ r' : Run α σ η, r'.history = r.history ++ [.awaited] ∧
      (Play.await (onProbe (WhiteboxProbe.onBlackbox e))).on r =
        ((e.now r.probe.blackbox).1.mapError .violation, r') := by
  let awaited := onProbe (α := α) (σ := σ) (η := η) (WhiteboxProbe.onBlackbox e)
  exact ⟨(awaited.now r).2.pass (awaited.cost r), (Run.Extends.pass _ _).history,
    on_await awaited r⟩

omit [Element α] in
/-- When nothing is in the log, the report is expected with success if and only if the prompting has
not made a callback panic and the probe has accepted what it must have. Nothing has been taken from
the probe before, so that is seen from the whole history. -/
theorem reporting_eq_ok_iff (hprompt : Prompts prompt)
    (hexpected : ∀ (p : BlackboxProbe α) name, p.Consistent →
      (((expected name).now p).1 = .ok () ↔ Reported p.elements.elements p.terminals))
    (h : Untapped r) (hcalm : .panicked ∉ r.history) {ending : Except Halt Unit}
    (hon : (reporting v prompt expected).on r = (ending, r')) (hlog : r'.log.entries = []) :
    ending = .ok () ↔ .panicked ∉ r'.history ∧
      Reported (r'.history.filterMap Event.accepted?) (r'.history.filterMap Event.terminal?) := by
  have hpanicked := hprompt.panicked h
  have h₁ := hprompt.untapped h
  rw [reporting, on_bind] at hon
  rcases hd : prompt.on r with ⟨x | ⟨⟩, r₁⟩ <;> rw [hd] at hon hpanicked h₁
  · obtain ⟨rfl, rfl⟩ := Prod.mk.inj hon
    simp only [hcalm, false_or, Except.error.injEq, exists_eq', iff_true] at hpanicked
    simp [hpanicked]
  · simp only [hcalm, false_or, reduceCtorEq, exists_false, iff_false] at hpanicked
    have hmet := hexpected r₁.probe.blackbox (r₁.subjectName v) h₁.attested.consistent
    rw [← List.nil_append r₁.probe.blackbox.elements.elements, ← h₁.balanced.elements,
      ← h₁.attested.terminals] at hmet
    obtain ⟨r₂, hhistory, hawait⟩ := on_await_report (expected (r₁.subjectName v)) r₁
    simp only [on_bind, on_subjectName, hawait] at hon
    have hr₂ : (.panicked ∉ r₂.history ∧ Reported (r₂.history.filterMap Event.accepted?)
        (r₂.history.filterMap Event.terminal?)) ↔
          ((expected (r₁.subjectName v)).now r₁.probe.blackbox).1 = .ok () := by
      rw [hhistory]
      simpa [hpanicked, Event.filterMap_cons_eq, Event.accepted?, Event.terminal?] using hmet.symm
    rcases hnow : ((expected (r₁.subjectName v)).now r₁.probe.blackbox).1 with y | ⟨⟩ <;>
      rw [hnow] at hon hr₂
    · obtain ⟨rfl, rfl⟩ := Prod.mk.inj hon
      simpa using hr₂
    · simp only [mapError_ok] at hon
      rcases ending with x | ⟨⟩
      · obtain ⟨y, -, hy, rfl⟩ := on_ask_eq_error_iff.mp hon
        rw [(Log.assertEmpty_eq_ok_iff _).mpr hlog] at hy
        simp at hy
      · obtain ⟨-, rfl⟩ := on_requireCleanLog_eq_ok_iff.mp hon
        simpa using hr₂

/-- When nothing is in the log, such a scenario on a stage ends well if and only if the stage has
been wired, no callback has panicked, and the probe has accepted what it must have. -/
theorem set_reporting_eq_ok_iff (hprompt : Prompts prompt)
    (hexpected : ∀ (p : BlackboxProbe α) name, p.Consistent →
      (((expected name).now p).1 = .ok () ↔ Reported p.elements.elements p.terminals))
    {ending : Except Halt Unit}
    (hon : (Stage.set v (reporting v prompt expected)).on (.start v marks) = (ending, r))
    (hlog : r.log.entries = []) :
    ending = .ok () ↔ Wired r.history ∧ .panicked ∉ r.history ∧
      Reported (r.history.filterMap Event.accepted?) (r.history.filterMap Event.terminal?) := by
  have hextends : (reporting v prompt expected).Extends :=
    .bind hprompt.extends_run fun _ => .bind (subjectName_extends v) fun _ =>
      .bind (.await (onProbe_onBlackbox_extends _)) fun _ => requireCleanLog_extends
  obtain ⟨es, hes⟩ := set_extends v hextends (.start v marks)
  rw [hon] at hes
  have hpuppets : r.probe.puppet.value.toList = r.history.filterMap Event.puppet? := by
    rw [hes.history]
    exact hes.puppet
  -- What is played on the stage once it has been set.
  have hplayed {r₁ r₂ r₃ : Run α σ η}
      (htees : (subscribeTees v (helper v)).on (.start v marks) = (.ok (), r₁))
      (hsubject : (setSubject v).on r₁ = (.ok (), r₂))
      (hbody : (reporting v prompt expected).on r₂ = (ending, r₃))
      (hr : r = r₃.cancelTees (helper v)) :
      Wired r.history ∧ (ending = .ok () ↔ .panicked ∉ r.history ∧
        Reported (r.history.filterMap Event.accepted?) (r.history.filterMap Event.terminal?)) := by
    obtain ⟨hwired, hcalm, -, -⟩ := wired_of_ok htees hsubject
    obtain ⟨es, hes⟩ := hextends r₂
    obtain ⟨last, hlast, hcancelled⟩ := r₃.cancelTees_extends (helper v)
    rw [hbody] at hes
    have hpanicked : .panicked ∉ last := fun hmem => by
      simpa [Event.isPanic] using (hlast _ hmem).2
    have haccepted : r.history.filterMap Event.accepted? = r₃.history.filterMap Event.accepted? :=
      hr ▸ Run.filterMap_cancelTees (fun e he =>
        Event.accepted?_of_isNeutral (Event.isNeutral_of_isSupply he)) (fun _ => rfl) _ r₃
    have hterminal : r.history.filterMap Event.terminal? = r₃.history.filterMap Event.terminal? :=
      hr ▸ Run.filterMap_cancelTees (fun e he =>
        Event.terminal?_of_attests (Event.attests_of_isSupply he)) (fun _ => rfl) _ r₃
    have hlog₃ : r₃.log.entries = [] := by
      rw [hr, hcancelled.log, List.append_eq_nil_iff] at hlog
      exact hlog.1
    have hcalm₂ : .panicked ∉ r₂.history := fun h => by simpa [Event.isPanic] using hcalm _ h
    have hiff := reporting_eq_ok_iff hprompt hexpected (untapped_of_ok htees hsubject) hcalm₂ hbody
      hlog₃
    rw [haccepted, hterminal, hr, hcancelled.history]
    refine ⟨?_, ?_⟩
    · rw [hes.history, List.append_assoc]
      exact hwired _
    · simpa [hpanicked] using hiff
  constructor
  · rintro rfl
    obtain ⟨-, r₁, r₂, r₃, htees, hsubject, hbody, hr⟩ := on_set_eq_ok_iff.mp hon
    obtain ⟨hwired, hiff⟩ := hplayed htees hsubject hbody hr
    exact ⟨hwired, hiff.mp rfl⟩
  · rintro ⟨hwired, hcalm, hreported⟩
    rcases ending with x | ⟨⟩
    · obtain ⟨r₁, r₂, r₃, htees, hsubject, hbody, hr⟩ := set_of_error hon hwired hcalm hpuppets
      exact (hplayed htees hsubject hbody hr).2.mpr ⟨hcalm, hreported⟩
    · rfl

/-! ### The four scenarios -/

/-- What the probe must have accepted of a terminal signal that the harness has sent decides whether
its report is expected with success. -/
theorem TerminalSignal.expected_eq_ok_iff (t : TerminalSignal) (timeout : Duration)
    (p : BlackboxProbe α) (name : String) (hp : p.Consistent) :
    ((t.expected timeout name).now p).1 = .ok () ↔
      t.Reported p.elements.elements p.terminals := by
  cases t
  · exact hp.expectCompletion_eq_ok_iff
  · exact hp.expectError_eq_ok_iff

/-- The scenarios of rules 2.9 and 2.10 prompt the subject and expect the report of the terminal
signal that they have sent. -/
theorem reportScenario_eq (t : TerminalSignal) (afterRequest : Bool) (v : Verification α σ η) :
    ∃ prompt, Prompts prompt ∧ t.reportScenario afterRequest v =
      Stage.set v (reporting v prompt (t.expected v.timeout)) := by
  cases t <;> cases afterRequest
  · exact ⟨_, .sendCompletion v, rfl⟩
  · refine ⟨do
      let puppet ← Stage.puppet v
      Stage.triggerRequest v puppet 1
      Stage.sendCompletion v, ?_, ?_⟩
    · exact (Prompts.puppet v).bind fun p => (Prompts.triggerRequest v p 1).bind fun _ =>
        Prompts.sendCompletion v
    · simp only [TerminalSignal.reportScenario, completionAfterRequest, reporting, bind_assoc]
      rfl
  · exact ⟨_, .sendError v testError, rfl⟩
  · refine ⟨do
      let puppet ← Stage.puppet v
      Stage.triggerRequest v puppet 1
      Stage.triggerRequest v puppet 1
      Stage.sendError v testError, ?_, ?_⟩
    · exact (Prompts.puppet v).bind fun p => (Prompts.triggerRequest v p 1).bind fun _ =>
        (Prompts.triggerRequest v p 1).bind fun _ => Prompts.sendError v testError
    · simp only [TerminalSignal.reportScenario, errorAfterRequest, reporting, bind_assoc]
      rfl

variable (v marks)

/-- The verdict on rules 2.9 and 2.10, for both terminal signals, sent after a request or without
one. The entry has passed if and only if the stage has been wired, no callback has panicked, nothing
has been recorded in the whole run, and the probe has accepted of the subject in the whole run, for
a completion, that completion and no element, and for an error the same instance as its terminal
signal. -/
theorem reportsTerminal_verdict (t : TerminalSignal) (afterRequest : Bool) :
    ∃ rule, Catalog.find? (t.reportEntry afterRequest) = some rule ∧
      let run := (rule.execute v marks).2
      ((rule.execute v marks).1 = .passed ↔ Wired run.history ∧ .panicked ∉ run.history ∧
        run.history.filterMap Event.recorded? = [] ∧
        t.Reported (run.history.filterMap Event.accepted?)
          (run.history.filterMap Event.terminal?)) := by
  obtain ⟨rule, hfind, hs⟩ : ∃ rule : Rule α σ η,
      Catalog.find? (t.reportEntry afterRequest) = some rule ∧
        rule.scenario = some (t.reportScenario afterRequest) := by
    cases t <;> cases afterRequest <;> exact ⟨_, rfl, rfl⟩
  refine ⟨rule, hfind, ?_⟩
  obtain ⟨prompt, hprompt, hscenario⟩ := reportScenario_eq t afterRequest v
  have hpassed := Rule.execute_passed_iff hs v marks
  have hlog := (Catalog.extends_of_mem (List.mem_of_find?_eq_some hfind) hs v).appends.log_start
    v marks
  simp only [Rule.execute_of_scenario hs v marks] at hpassed ⊢
  rw [hscenario] at hpassed hlog ⊢
  generalize hd : (Stage.set v (reporting v prompt (t.expected v.timeout))).on (.start v marks) = d
    at hpassed hlog ⊢
  rw [hpassed, ← hlog]
  constructor
  · rintro ⟨hok, hclean⟩
    obtain ⟨hwired, hpanicked, hreported⟩ := (set_reporting_eq_ok_iff hprompt
      (t.expected_eq_ok_iff v.timeout) hd hclean).mp hok
    exact ⟨hwired, hpanicked, hclean, hreported⟩
  · rintro ⟨hwired, hpanicked, hclean, hreported⟩
    exact ⟨(set_reporting_eq_ok_iff hprompt (t.expected_eq_ok_iff v.timeout) hd hclean).mpr
      ⟨hwired, hpanicked, hreported⟩, hclean⟩

end StreamConformance.Scenario
