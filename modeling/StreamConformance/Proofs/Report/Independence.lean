import StreamConformance.Proofs.Play.Scopes
import StreamConformance.Proofs.Rule.Verdict
import StreamConformance.Report.Basic

/-!
# Entries are independent

The entries of a run share the thread on which they are run, and with it the marks. Since every
entry leaves the marks as they are, and everything else is made anew for each entry, a report says
of each entry what running it alone would say.

## Main results

* `Rule.marks_execute` — running an entry leaves the marks as they are.
* `Report.linesOf_eq_map` — the lines of a report, one by one.
* `Report.ofRules_independent` — the entries of a run are independent.
-/

namespace StreamConformance

variable {α σ η : Type} {v : Verification α σ η}

/-- Running an entry leaves the marks of the thread as they are if its scenario does. -/
theorem Rule.marks_execute {rule : Rule α σ η}
    (h : ∀ scenario, rule.scenario = some scenario → (scenario v).KeepsMarks) (marks : Marks) :
    (rule.execute v marks).2.marks = marks := by
  cases hs : rule.scenario with
  | none =>
    simp only [execute, hs]
    rfl
  | some scenario =>
    rw [execute_of_scenario hs]
    exact h scenario hs (.start v marks)

/-- If no entry changes the marks, each is run on a thread with the same marks. -/
theorem Report.linesOf_eq_map {rules : List (Rule α σ η)}
    (h : ∀ rule ∈ rules, ∀ scenario, rule.scenario = some scenario → (scenario v).KeepsMarks)
    (marks : Marks) : Report.linesOf v marks rules = rules.map fun rule =>
      .ofRun rule.toEntry (rule.execute v marks).1 (rule.execute v marks).2 := by
  induction rules with
  | nil => rfl
  | cons rule rules ih =>
    have hmarks := Rule.marks_execute (h rule List.mem_cons_self) marks
    rw [Report.linesOf, hmarks, ih fun rule' h' => h rule' (List.mem_cons_of_mem _ h')]
    rfl

theorem Catalog.keepsMarks_of_mem [Element α] {rule : Rule α σ η}
    (hr : rule ∈ (Catalog.rules : List (Rule α σ η))) :
    ∀ scenario, rule.scenario = some scenario → (scenario v).KeepsMarks :=
  fun _ hs => (extends_of_mem hr hs v).keepsMarks

variable (v) [Element α]

/-- The entries of a run are independent, in whatever order and however often they are run, for
entries of the catalog as for entries whose scenarios hold scopes and may end badly in any of them.
Of each entry the report says, in the given order, what running it alone on the same thread says,
and each entry leaves the marks of the thread as they are. -/
theorem Report.ofRules_independent (subject : String) {rules : List (Rule α σ η)}
    (h : ∀ rule ∈ rules, rule ∈ (Catalog.rules : List (Rule α σ η)) ∨
      ∀ scenario, rule.scenario = some scenario → (scenario v).Scoped) :
    (Report.ofRules v subject rules).lines = rules.map (fun rule =>
        .ofRun rule.toEntry (rule.execute v []).1 (rule.execute v []).2) ∧
      ∀ marks, Report.linesOf v marks rules = rules.map (fun rule =>
          .ofRun rule.toEntry (rule.execute v marks).1 (rule.execute v marks).2) ∧
        ∀ rule ∈ rules, (rule.execute v marks).2.marks = marks := by
  have hkeeps : ∀ rule ∈ rules, ∀ scenario, rule.scenario = some scenario →
      (scenario v).KeepsMarks := by
    intro rule hr scenario hs
    rcases h rule hr with hcatalog | hscoped
    · exact Catalog.keepsMarks_of_mem hcatalog scenario hs
    · exact (hscoped scenario hs).keepsMarks
  exact ⟨linesOf_eq_map hkeeps [], fun marks =>
    ⟨linesOf_eq_map hkeeps marks, fun rule hr => Rule.marks_execute (hkeeps rule hr) marks⟩⟩

/-- A scenario that enters scopes, one inside the other, and panics in the innermost. -/
def Scenario.panickingWithin (signals : List Signal) (p : Panic) : Scenario α σ η := fun _ =>
  (do
    for s in signals do
      ScopedPlay.enter s
    throw (.panic p) : ScopedPlay α σ η Unit).close

omit [Element α] in
theorem Scenario.panickingWithin_scoped (signals : List Signal) (p : Panic) :
    (panickingWithin signals p v).Scoped := by
  have hpure {ρ : Type} (a : ρ) : (pure a : ScopedPlay α σ η ρ).Composed :=
    .step fun r _ => (.ok a, r)
  refine ⟨_, .bind ?_ fun _ => .step fun r _ => (.error (.panic p), r), rfl⟩
  induction signals with
  | nil => exact hpure _
  | cons s signals ih =>
    rw [List.forIn_cons]
    refine .bind (.bind (.enter s) fun _ => hpure _) fun d => ?_
    cases d with
    | done => exact hpure _
    | yield => exact ih

/-- A subject that requests while it is offered a subscription passes the entry on completions, also
after an entry that has panicked in the middle of a completion. -/
theorem Report.ofRules_independent_unbounded :
    let v := Specimen.unbounded.verification ⟨.ofMillis 100, 8⟩
    let panicking : Rule UInt64 (Option Nat) Range.HelperState :=
      ⟨⟨"panicking", [], "", .required⟩,
        some (Scenario.panickingWithin [.onComplete, .onNext, .onComplete] (.text "inside"))⟩
    ∃ rule ∈ Catalog.rules, rule.rules = ["2.3"] ∧
      (Report.ofRules v "unbounded" [panicking, rule, panicking, rule]).lines.map (·.outcome) =
        [.failed "[setup] inside", .passed, .failed "[setup] inside", .passed] := by
  intro v panicking
  have hr : Catalog.required
      "required_spec203_must_not_call_methods_on_subscription_or_publisher_in_on_complete" ["2.3"]
      "onComplete must not call Subscription or Publisher methods"
      (fun v => Scenario.terminalReentrancy v .complete) ∈ (Catalog.rules :
        List (Rule UInt64 (Option Nat) Range.HelperState)) := by
    simp [Catalog.rules]
  have hpanicking : ∀ scenario, panicking.scenario = some scenario → (scenario v).Scoped := by
    rintro _ ⟨⟩
    exact Scenario.panickingWithin_scoped v _ _
  refine ⟨_, hr, rfl, ?_⟩
  rw [(ofRules_independent v "unbounded" ?_).1]
  · decide
  · intro rule hrule
    simp only [List.mem_cons, List.not_mem_nil, or_false] at hrule
    rcases hrule with rfl | rfl | rfl | rfl
    · exact .inr hpanicking
    · exact .inl hr
    · exact .inr hpanicking
    · exact .inl hr

end StreamConformance
