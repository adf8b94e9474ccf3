import StreamConformance.Proofs.Stage.Extension
import StreamConformance.Run.Specimen

/-!
# Verdicts

The outcome of an entry is decided by how its scenario ends and by what has been recorded up to the
end of the run, the end of the stage included. A scenario that does nothing to the log but record
cannot hide a violation, and no scenario of the catalog does anything else to it.

## Main definitions

* `Play.Appends` — a program that does nothing to the log but record.

## Main results

* `Rule.execute_outcome` — the outcome of an entry.
-/

namespace StreamConformance

variable {α σ η ρ : Type}

/-- The program does nothing to the log but record: the log grows by the violations that the history
grows by. -/
def Play.Appends (p : Play α σ η ρ) : Prop :=
  ∀ r : Run α σ η, ∃ es, (p.on r).2.history = r.history ++ es ∧
    (p.on r).2.log.entries = r.log.entries ++ es.filterMap Event.recorded?

/-- A program that only extends its run does nothing to the log but record. -/
theorem Play.Extends.appends {p : Play α σ η ρ} (hp : p.Extends) : p.Appends := by
  intro r
  obtain ⟨es, h⟩ := hp r
  exact ⟨es, h.history, h.log⟩

/-- After a program that does nothing to the log but record, the log of a fresh run holds what has
been recorded in its whole history. -/
theorem Play.Appends.log_start {p : Play α σ η Unit} (hp : p.Appends) (v : Verification α σ η)
    (marks : Marks) :
    (p.on (.start v marks)).2.log.entries =
      (p.on (.start v marks)).2.history.filterMap Event.recorded? := by
  obtain ⟨es, hhistory, hlog⟩ := hp (.start v marks)
  rw [hhistory, hlog]
  rfl

namespace Rule

/-- The violation of a log with entries gives them all, in the order of their recording. -/
theorem judge_ok_of_ne_nil (e : Entry) {log : Log} (h : log.entries ≠ []) :
    judge e (.ok ()) log = .failed (e.label ++ " " ++ (toString log.entries.length ++
      " asynchronous violation(s): " ++ "; ".intercalate (log.entries.map Violation.message))) := by
  have hl : log.assertEmpty = .error (.async log.entries) := by
    rw [Log.assertEmpty, if_neg]
    rwa [Chronicle.isEmpty_iff]
  simp only [judge, hl, Violation.message, Violation.messages_eq_map]

/-- A scenario that ends well passes if and only if nothing is in the log. -/
theorem judge_eq_passed_iff (e : Entry) (ending : Except Halt Unit) (log : Log) :
    judge e ending log = .passed ↔ ending = .ok () ∧ log.entries = [] := by
  rcases ending with (x | p) | ⟨⟩
  · simp [judge]
  · simp [judge]
  · by_cases h : log.entries = []
    · simp [judge, (Log.assertEmpty_eq_ok_iff log).mpr h, h]
    · simp [judge_ok_of_ne_nil e h, h]

theorem judge_of_isFailure {e : Entry} {ending : Except Halt Unit} {log : Log}
    (h : (judge e ending log).isFailure = false) : judge e ending log = .passed := by
  rcases ending with (x | p) | ⟨⟩
  · simp [judge, Outcome.isFailure] at h
  · simp [judge, Outcome.isFailure] at h
  · rcases hlog : log.assertEmpty with x | ⟨⟩
    · simp [judge, hlog, Outcome.isFailure] at h
    · simp [judge, hlog]

/-- An entry with a scenario is judged by what comes of the scenario on a fresh run. -/
theorem execute_of_scenario {rule : Rule α σ η} {scenario : Scenario α σ η}
    (hs : rule.scenario = some scenario) (v : Verification α σ η) (marks : Marks) :
    let d := (scenario v).on (.start v marks)
    rule.execute v marks = (judge rule.toEntry d.1 d.2.log, d.2) := by
  simp only [execute, hs]
  rfl

/-- An entry with a scenario passes if and only if the scenario ends well and the log is empty. -/
theorem execute_passed_iff {rule : Rule α σ η} {scenario : Scenario α σ η}
    (hs : rule.scenario = some scenario) (v : Verification α σ η) (marks : Marks) :
    (rule.execute v marks).1 = .passed ↔ ((scenario v).on (.start v marks)).1 = .ok () ∧
      (rule.execute v marks).2.log.entries = [] := by
  rw [execute_of_scenario hs]
  exact judge_eq_passed_iff ..

/-- Where an entry has passed whose scenario only extends its run, the scenario has ended well,
nothing has been recorded in the whole history, and so there is nothing to be blamed. -/
theorem of_passed {rule : Rule α σ η} {scenario : Scenario α σ η}
    (hs : rule.scenario = some scenario) {v : Verification α σ η} (hextends : (scenario v).Extends)
    {marks : Marks} (hpassed : (rule.execute v marks).1 = .passed) :
    ∃ r, rule.execute v marks = (.passed, r) ∧
      (scenario v).on (.start v marks) = (.ok (), r) ∧ r.log.entries = [] ∧
      r.history.filterMap Event.recorded? = [] ∧ ∀ e ∈ r.history, e.isBlameless = true := by
  obtain ⟨hend, hlog⟩ := (execute_passed_iff hs v marks).mp hpassed
  have hexecute := execute_of_scenario hs v marks
  rw [hexecute] at hpassed hlog
  obtain ⟨es, hes⟩ := hextends (.start v marks)
  have hhistory : ((scenario v).on (.start v marks)).2.history = es := hes.history
  have hclean : es.filterMap Event.recorded? = [] := hes.log.symm.trans hlog
  refine ⟨_, hexecute.trans (Prod.ext hpassed rfl), Prod.ext hend rfl, hlog, ?_, ?_⟩
  · rw [hhistory, hclean]
  · rw [hhistory]
    exact hes.blameless hclean

variable [Element α]

/-- The outcome of an entry of the catalog, or of any entry whose scenario does nothing to the log
but record. It has passed if and only if it has a scenario, which has ended well, and nothing has
been recorded in the whole history of the run, to which the end of the stage belongs. -/
theorem execute_outcome (v : Verification α σ η) (marks : Marks) (rule : Rule α σ η)
    (h : rule ∈ (Catalog.rules : List (Rule α σ η)) ∨
      ∀ scenario, rule.scenario = some scenario → (scenario v).Appends) :
    let run := (rule.execute v marks).2
    let outcome := (rule.execute v marks).1
    let recorded := run.history.filterMap Event.recorded?
    (outcome = .passed ↔ ∃ scenario, rule.scenario = some scenario ∧
      ((scenario v).on (.start v marks)).1 = .ok () ∧ recorded = []) ∧
    (∀ scenario, rule.scenario = some scenario →
      (((scenario v).on (.start v marks)).1 = .ok () → recorded ≠ [] →
        outcome = .failed (rule.label ++ " " ++ (toString recorded.length ++
          " asynchronous violation(s): " ++
            "; ".intercalate (recorded.map Violation.message)))) ∧
      (∀ x, ((scenario v).on (.start v marks)).1 = .error (.violation x) →
        outcome = .failed (rule.label ++ " " ++ x.message)) ∧
      (∀ p, ((scenario v).on (.start v marks)).1 = .error (.panic p) →
        outcome = .failed (rule.label ++ " " ++ p.messageOr "scenario panicked"))) ∧
    (rule.scenario = none → outcome = .skipped notVerifiedReason) := by
  intro run outcome recorded
  cases hs : rule.scenario with
  | none =>
    have houtcome : outcome = .skipped notVerifiedReason := by
      simp only [outcome, execute, hs]
    simp [houtcome]
  | some scenario =>
    let d := (scenario v).on (.start v marks)
    have hexecute : rule.execute v marks = (judge rule.toEntry d.1 d.2.log, d.2) :=
      execute_of_scenario hs v marks
    have happends : (scenario v).Appends := by
      rcases h with h | h
      · exact (Catalog.extends_of_mem h hs v).appends
      · exact h scenario hs
    have hlog : d.2.log.entries = recorded := by
      have hrun : run = d.2 := congrArg Prod.snd hexecute
      simp only [recorded, hrun]
      exact happends.log_start v marks
    have houtcome : outcome = judge rule.toEntry d.1 d.2.log := congrArg Prod.fst hexecute
    refine ⟨?_, ?_, nofun⟩
    · rw [houtcome, judge_eq_passed_iff, hlog]
      constructor
      · exact fun ⟨hd, hr⟩ => ⟨scenario, rfl, hd, hr⟩
      · rintro ⟨_, ⟨⟩, hd, hr⟩
        exact ⟨hd, hr⟩
    · rintro _ ⟨⟩
      refine ⟨fun hd hr => ?_, fun x hd => ?_, fun p hd => ?_⟩
      · rw [houtcome, show d.1 = .ok () from hd, judge_ok_of_ne_nil _ (hlog ▸ hr), hlog]
      · rw [houtcome, show d.1 = .error (.violation x) from hd]
        rfl
      · rw [houtcome, show d.1 = .error (.panic p) from hd]
        rfl

/-- A scenario that ends well and has recorded two violations fails with both, in order. -/
theorem execute_outcome_recording :
    let rule : Rule UInt64 (Option Nat) Range.HelperState :=
      ⟨⟨"probe", ["2.3"], "", .required⟩,
        some (Scenario.recording [.protocol "early", .illegalReentrancy "late"] (.ok ()))⟩
    (∀ v scenario, rule.scenario = some scenario → (scenario v).Appends) ∧
      (rule.execute (Specimen.reference.verification .standard) []).1 =
        .failed "[rule 2.3] 2 asynchronous violation(s): early; late" := by
  intro rule
  have happends : ∀ v scenario, rule.scenario = some scenario → (scenario v).Appends := by
    rintro v _ ⟨⟩
    exact (Scenario.recording_extends v _ _).appends
  refine ⟨happends, ?_⟩
  have h := execute_outcome (Specimen.reference.verification .standard) [] rule
    (.inr (happends _))
  refine ((h.2.1 _ rfl).1 rfl (by decide)).trans ?_
  decide

end Rule

end StreamConformance
