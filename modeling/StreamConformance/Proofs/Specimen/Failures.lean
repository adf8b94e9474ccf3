import StreamConformance.Proofs.Range.Supplier
import StreamConformance.Proofs.Report.Independence
import StreamConformance.Proofs.Specimen.Verdicts
import StreamConformance.Run.Specimen

/-!
# What specimens fail

Each specimen fails exactly the entries of the rule that it breaks, if the helper supplies at least
two values and keeps rule 2.12, and if queues have room for four requests and can be reserved.

## Main definitions

* `Report.failures` — the entries that must be kept and have failed.
* `Entry.backlog` — the requests of the puppet that wait at the same time.

## Main results

* `Report.failures_eq_filter` — the failures of a report on the catalog, entry by entry.
* `Specimen.failures_ofCatalog` — the failures of a specimen.
-/

namespace StreamConformance

open Stream' (Seq)
open Play (endsAs_false)

/-- The names of the entries that must be kept and have failed, in the order of the report. -/
def Report.failures (r : Report) : List String :=
  (r.lines.filter fun l => l.disposition == .required && l.outcome.isFailure).map (·.name)

variable {α σ η : Type}

/-! ### Reports on the catalog -/

/-- An entry of the catalog must be kept if and only if it has a scenario. -/
theorem Catalog.isRequired_of_mem [Element α] {rule : Rule α σ η}
    (hr : rule ∈ (Catalog.rules : List (Rule α σ η))) :
    rule.isRequired = rule.scenario.isSome := by
  have hall : ∀ rule ∈ (Catalog.rules : List (Rule α σ η)),
      rule.isRequired = rule.scenario.isSome := by
    simp [Catalog.rules, Catalog.required, Catalog.notVerified, Entry.isRequired]
  exact hall rule hr

/-- An entry fails if and only if its scenario ends badly, provided that nothing has been recorded
where it ends well. -/
theorem Rule.isFailure_of_endsAs {rule : Rule α σ η} {scenario : Scenario α σ η}
    (hs : rule.scenario = some scenario) {v : Verification α σ η} {marks : Marks} {isBroken : Bool}
    (h : (scenario v).EndsAs isBroken (.start v marks) fun _ r => r.log.entries = []) :
    (rule.execute v marks).1.isFailure = isBroken := by
  rw [execute_of_scenario hs]
  cases isBroken with
  | true =>
    obtain ⟨x, r, hon⟩ := h
    rw [hon]
    cases x <;> rfl
  | false =>
    obtain ⟨⟨⟩, r, hon, hlog⟩ := h
    have hpassed := (judge_eq_passed_iff rule.toEntry (.ok ()) r.log).mpr ⟨rfl, hlog⟩
    rw [hon]
    exact congrArg Outcome.isFailure hpassed

/-- An entry fails if something has been recorded where its scenario ends. -/
theorem Rule.isFailure_of_records {rule : Rule α σ η} {scenario : Scenario α σ η}
    (hs : rule.scenario = some scenario) {v : Verification α σ η} {marks : Marks}
    (h : (scenario v).Records (.start v marks)) : (rule.execute v marks).1.isFailure = true := by
  rw [execute_of_scenario hs]
  by_contra hfailed
  have hpassed := judge_of_isFailure (Bool.eq_false_of_not_eq_true hfailed)
  exact h ((judge_eq_passed_iff ..).mp hpassed).2

/-- The failures of a report on the catalog are the entries whose scenarios come to a failure. -/
theorem Report.failures_eq_filter [Element α] {v : Verification α σ η} {isBroken : Entry → Bool}
    (h : ∀ rule ∈ (Catalog.rules : List (Rule α σ η)), ∀ scenario,
      rule.scenario = some scenario → (rule.execute v []).1.isFailure = isBroken rule.toEntry)
    (name : String) : (Report.ofCatalog v name).failures =
      (Catalog.entries.filter fun e => e.isRequired && isBroken e).map (·.name) := by
  have hentries : Catalog.entries = (Catalog.rules : List (Rule α σ η)).map Rule.toEntry := rfl
  have hlines : (Report.ofCatalog v name).lines =
      (Catalog.rules : List (Rule α σ η)).map fun rule =>
        .ofRun rule.toEntry (rule.execute v []).1 (rule.execute v []).2 :=
    Report.linesOf_eq_map (fun _ hr => Catalog.keepsMarks_of_mem hr) []
  have hfailed : ∀ rule ∈ (Catalog.rules : List (Rule α σ η)),
      (rule.isRequired && (rule.execute v []).1.isFailure) =
        (rule.isRequired && isBroken rule.toEntry) := by
    intro rule hr
    cases hs : rule.scenario with
    | none => simp [Catalog.isRequired_of_mem hr, hs]
    | some scenario => rw [h rule hr scenario hs]
  rw [Report.failures, hlines, hentries, List.filter_map, List.filter_map, List.map_map,
    List.map_map]
  exact congrArg _ (List.filter_congr hfailed)

/-! ### The requests that an entry lets wait -/

namespace Entry

/-- Whether the puppet requests before the terminal signal of an entry. -/
def followsRequest (e : Entry) : Bool := Text.occursIn "with_preceding_request_call" e.name

/-- The most requests of the puppet that wait at the same time in the scenario of an entry. -/
def backlog (e : Entry) : Nat :=
  match e.rules with
  | [] => 2
  | ["2.1"] | ["3.8"] => 1
  | ["2.8"] => 3
  | ["2.9"] => if e.followsRequest then 1 else 0
  | ["2.10"] => if e.followsRequest then 2 else 0
  | _ => 0

theorem backlog_le (e : Entry) : e.backlog ≤ 3 := by
  unfold backlog
  split <;> try split
  all_goals decide

end Entry

/-! ### Specimens -/

namespace Specimen

variable [Element α] {v : Verification α (Option Nat) η} {k : Specimen} {a b : α} {values : Seq α}

/-- The scenario of an entry ends badly if and only if the specimen breaks the entry, provided that
there is room for the requests of the puppet and those of the specimen's own accord. -/
theorem endsAs_of_mem (hv : v.subject = k.subject) (hfits : Stage.fits α v.config.capacity = true)
    (hcapacity : 1 ≤ v.config.capacity) (hlimit : 1 ≤ v.maxSignals)
    (hsupplies : (v.helper Demand.unbounded).Supplies (.cons a (.cons b values)))
    (hrejects : (v.helper 1).RejectsDuplicate) {rule : Rule α (Option Nat) η}
    (hr : rule ∈ (Catalog.rules : List (Rule α (Option Nat) η)))
    (hroom : k.greeting.length + k.echo.length + k.farewell.length + rule.backlog ≤
      v.config.capacity)
    {scenario : Scenario α (Option Nat) η} (hs : rule.scenario = some scenario) :
    (scenario v).EndsAs (k.breaks rule.toEntry) (.start v []) fun _ r => r.log.entries = [] := by
  -- the twelve entries that are left have a scenario, and come in the order of the catalog
  simp only [Catalog.rules, List.mem_cons, List.not_mem_nil, or_false] at hr
  rcases hr with rfl | rfl | rfl | rfl | rfl | rfl | rfl | rfl | rfl | rfl | rfl | rfl | rfl |
    rfl | rfl | rfl | rfl | rfl | rfl | rfl | rfl | rfl | rfl | rfl <;> cases hs <;>
    dsimp only [Catalog.required] at hroom
  · rw [show Entry.backlog _ = 2 by decide] at hroom
    exact (happyPath_endsAs hv hfits (by omega) hsupplies).congr (by cases k <;> rfl)
  · rw [show Entry.backlog _ = 1 by decide] at hroom
    exact (signalsDemand_endsAs hv hfits (by omega) hsupplies).congr (by cases k <;> rfl)
  · exact (terminalReentrancy_endsAs hv hfits .complete).congr (by cases k <;> rfl)
  · exact (terminalReentrancy_endsAs hv hfits .error).congr (by cases k <;> rfl)
  · exact (cancelsSecondSubscription_endsAs hv hfits hcapacity hsupplies).congr
      (by cases k <;> rfl)
  · rw [show Entry.backlog _ = 3 by decide] at hroom
    exact (toleratesNextAfterCancel_endsAs hv hfits (by omega) hlimit hsupplies).congr
      (by cases k <;> rfl)
  · rw [show Entry.backlog _ = 1 by decide] at hroom
    exact (completionAfterRequest_endsAs hv hfits (by omega) hsupplies).congr (by cases k <;> rfl)
  · exact (completionWithoutRequest_endsAs hv hfits hcapacity (by omega) hsupplies).congr
      (by cases k <;> rfl)
  · rw [show Entry.backlog _ = 2 by decide] at hroom
    exact (errorAfterRequest_endsAs hv hfits (by omega) hsupplies).congr (by cases k <;> rfl)
  · exact (errorWithoutRequest_endsAs hv hfits hcapacity (by omega) hsupplies).congr
      (by cases k <;> rfl)
  · exact (endsAs_false.mpr (rejectsSecondSubscribe_reaches hrejects hfits)).congr
      (by cases k <;> rfl)
  · rw [show Entry.backlog _ = 1 by decide] at hroom
    exact (registersDemand_endsAs hv hfits (by omega) hsupplies).congr (by cases k <;> rfl)

/-- Each specimen fails exactly the entries that it breaks, for every helper that supplies at least
two values and rejects a second subscription, every capacity from four on for which storage can be
reserved, every positive limit of elements, and every bound of waits. -/
theorem failures_ofCatalog (hv : v.subject = k.subject) (hcapacity : 4 ≤ v.config.capacity)
    (hfits : Stage.fits α v.config.capacity = true) (hlimit : 1 ≤ v.maxSignals)
    (hsupplies : (v.helper Demand.unbounded).Supplies (.cons a (.cons b values)))
    (hrejects : (v.helper 1).RejectsSecond) (name : String) :
    (Report.ofCatalog v name).failures =
      (Catalog.entries.filter fun e => e.isRequired && k.breaks e).map (·.name) := by
  refine Report.failures_eq_filter (fun rule hr scenario hs => ?_) name
  have hown := k.length_greeting_add_le
  have hbacklog := rule.backlog_le
  exact Rule.isFailure_of_endsAs hs (endsAs_of_mem hv hfits (by omega) hlimit hsupplies
    hrejects.rejectsDuplicate hr (by omega) hs)

/-- With a range publisher, an echoing specimen fails the entry on the demand that is registered. -/
theorem failures_ofCatalog_echoing :
    let v := echoing.verification ⟨.ofMillis 100, 4⟩
    v.subject = echoing.subject ∧ 4 ≤ v.config.capacity ∧
      Stage.fits UInt64 v.config.capacity = true ∧ 1 ≤ v.maxSignals ∧
      (v.helper Demand.unbounded).Supplies (Range.numbersFrom id 0) ∧
      (v.helper 1).RejectsSecond ∧
      (Report.ofCatalog v "echoing").failures =
        ["required_spec308_request_must_register_given_number_elements_to_be_produced"] := by
  intro v
  have hsupplies : (v.helper Demand.unbounded).Supplies (Range.numbersFrom id 0) :=
    Range.helper_supplies id
  have hrejects : (v.helper 1).RejectsSecond := Range.helper_rejectsSecond id (by decide)
  refine ⟨rfl, by decide, by decide, by decide, hsupplies, hrejects, ?_⟩
  rw [Range.numbersFrom_eq_cons, Range.numbersFrom_eq_cons] at hsupplies
  exact (failures_ofCatalog (k := echoing) rfl (by decide) (by decide) (by decide) hsupplies
    hrejects "echoing").trans (by decide)

/-- Even the reference fails an entry if storage for its queues cannot be reserved. -/
theorem failures_ofCatalog_unreserved :
    let v := reference.verification ⟨.ofMillis 100, 18446744073709551615⟩
    v.subject = reference.subject ∧ 4 ≤ v.config.capacity ∧ 1 ≤ v.maxSignals ∧
      (v.helper Demand.unbounded).Supplies (Range.numbersFrom id 0) ∧
      (v.helper 1).RejectsSecond ∧ (Report.ofCatalog v "reference").failures ≠ [] := by
  intro v
  exact ⟨rfl, by decide, by decide, Range.helper_supplies id,
    Range.helper_rejectsSecond id (by decide), by decide⟩

end Specimen

end StreamConformance
