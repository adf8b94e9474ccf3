import StreamConformance.Proofs.Specimen.Failures

/-!
# What the reference fails for want of room

The requests of the puppet wait until a scenario looks at them, and a scenario need not look at them
at all. A queue with less room than that overflows, and the overflow is held against the subject. So
the reference passes an entry if and only if the requests that wait in it have room, and it passes
all of them from three requests on; settings may ask for less.

## Main results

* `Specimen.reference_failures` — the entries that the reference fails, for every capacity.
-/

namespace StreamConformance

open Stream' (Seq)

/-- There is an entry with three requests that wait, there are two with as many as two, and all
others get on with one. -/
theorem Catalog.backlog_of_mem {α σ η : Type} [Element α] {rule : Rule α σ η}
    (hr : rule ∈ (Catalog.rules : List (Rule α σ η))) {scenario : Scenario α σ η}
    (hs : rule.scenario = some scenario) :
    rule.backlog ≤ 1 ∨ (rule.backlog = 2 ∧ ∀ v, Stage.RequestsTwice v (scenario v)) ∨
      (rule.backlog = 3 ∧ scenario = Scenario.toleratesNextAfterCancel) := by
  simp only [Catalog.rules, List.mem_cons, List.not_mem_nil, or_false] at hr
  rcases hr with rfl | rfl | rfl | rfl | rfl | rfl | rfl | rfl | rfl | rfl | rfl | rfl | rfl |
    rfl | rfl | rfl | rfl | rfl | rfl | rfl | rfl | rfl | rfl | rfl <;> cases hs <;>
    dsimp only [required]
  · exact .inr (.inl ⟨by decide, Scenario.happyPath_requestsTwice⟩)
  · exact .inl (by decide)
  · exact .inl (by decide)
  · exact .inl (by decide)
  · exact .inl (by decide)
  · exact .inr (.inr ⟨by decide, rfl⟩)
  · exact .inl (by decide)
  · exact .inl (by decide)
  · exact .inr (.inl ⟨by decide, Scenario.errorAfterRequest_requestsTwice⟩)
  · exact .inl (by decide)
  · exact .inl (by decide)
  · exact .inl (by decide)

namespace Specimen

variable {α η : Type} [Element α] {v : Verification α (Option Nat) η} {a b : α} {values : Seq α}
  {marks : Marks}

/-! ### Entries without room -/

section Records

variable (hv : v.subject = reference.subject) (hfits : Stage.fits α v.config.capacity = true)

include hv hfits

/-- Where there is room for one request only, the second one of the puppet is recorded. -/
theorem requestsTwice_records {p : Play α (Option Nat) η Unit} (hp : Stage.RequestsTwice v p)
    (hcapacity : v.config.capacity = 1) (hsupplies : (Stage.helper v).Supplies values) :
    p.Records (.start v marks) := by
  obtain ⟨rest, rfl, hrest⟩ := hp
  refine set_records hv (by decide) hfits (by omega) hsupplies fun number Left r hserves h => ?_
  refine (h.puppet_reaches rfl).bind_records ?_
  rintro _ r ⟨rfl, h⟩
  refine (h.triggerRequest hv (by decide) hcapacity.ge).bind_records fun _ r h => ?_
  refine (h.triggerRequest_full hv (by decide) hcapacity.le).bind_records fun _ r hlog => ?_
  exact (hrest 0).records (by simp [hlog])

/-- Where there is room for two requests at most, the third one of the puppet is recorded at the
latest, since none is looked at. -/
theorem toleratesNextAfterCancel_records (hcapacity : 1 ≤ v.config.capacity)
    (hless : v.config.capacity < 3) (hsupplies : (Stage.helper v).Supplies (.cons a values)) :
    (Scenario.toleratesNextAfterCancel v).Records (.start v marks) := by
  refine set_records hv (by decide) hfits hcapacity hsupplies fun number Left r hserves h => ?_
  refine (h.puppet_reaches rfl).bind_records ?_
  rintro _ r ⟨rfl, h⟩
  refine (h.triggerRequest hv (by decide) hcapacity).bind_records fun _ r h => ?_
  refine (h.signalCancel hv).bind_records fun _ r h => ?_
  refine (h.signalNext hv hserves rfl rfl hcapacity hcapacity).bind_records ?_
  rintro a r ⟨rfl, h⟩
  have last : (Stage.awaitQuiet v >>= fun _ => Stage.requireCleanLog).Extends :=
    .bind (Stage.awaitQuiet_extends v) fun _ => Stage.requireCleanLog_extends
  by_cases hone : v.config.capacity = 1
  · refine (h.triggerRequest_full hv (by decide) hone.le).bind_records fun _ r hlog => ?_
    exact Play.Extends.records (.bind (Stage.triggerRequest_extends v 0 1) fun _ => last)
      (by simp [hlog])
  · have htwo : v.config.capacity = 2 := by omega
    refine (h.triggerRequest hv (by decide) htwo.ge).bind_records fun _ r h => ?_
    refine (h.triggerRequest_full hv (by decide) htwo.le).bind_records fun _ r hlog => ?_
    exact last.records (by simp [hlog])

theorem isFailure_of_lt_backlog (hcapacity : 1 ≤ v.config.capacity)
    (hsupplies : (Stage.helper v).Supplies (.cons a values)) {rule : Rule α (Option Nat) η}
    (hr : rule ∈ (Catalog.rules : List (Rule α (Option Nat) η)))
    (hbacklog : v.config.capacity < rule.backlog) {scenario : Scenario α (Option Nat) η}
    (hs : rule.scenario = some scenario) : (rule.execute v marks).1.isFailure = true := by
  refine Rule.isFailure_of_records hs ?_
  rcases Catalog.backlog_of_mem hr hs with hone | ⟨htwo, hscenario⟩ | ⟨hthree, rfl⟩
  · omega
  · exact requestsTwice_records hv hfits (hscenario v) (by omega) hsupplies
  · exact toleratesNextAfterCancel_records hv hfits hcapacity (by omega) hsupplies

end Records

/-! ### The report -/

/-- For every capacity for which storage can be reserved, every positive limit of elements, every
bound of waits, and every helper that supplies at least two values and rejects duplicates, the
reference fails exactly the entries whose requests have no room. It fails none if and only if there
is room for three. -/
theorem reference_failures (hv : v.subject = reference.subject)
    (hcapacity : 1 ≤ v.config.capacity) (hfits : Stage.fits α v.config.capacity = true)
    (hlimit : 1 ≤ v.maxSignals)
    (hsupplies : (v.helper Demand.unbounded).Supplies (.cons a (.cons b values)))
    (hrejects : (v.helper 1).RejectsDuplicate) (name : String) :
    (Report.ofCatalog v name).failures =
      (Catalog.entries.filter fun e => e.isRequired && v.config.capacity < e.backlog).map (·.name) ∧
    ((Report.ofCatalog v name).failures = [] ↔ 3 ≤ v.config.capacity) := by
  have hfailures : (Report.ofCatalog v name).failures = (Catalog.entries.filter fun e =>
      e.isRequired && v.config.capacity < e.backlog).map (·.name) := by
    refine Report.failures_eq_filter (fun rule hr scenario hs => ?_) name
    by_cases hbacklog : v.config.capacity < rule.backlog
    · rw [isFailure_of_lt_backlog hv hfits hcapacity hsupplies hr hbacklog hs]
      exact (decide_eq_true hbacklog).symm
    · have hpassed := Rule.isFailure_of_endsAs hs (endsAs_of_mem hv hfits hcapacity hlimit
        hsupplies hrejects hr (by simpa [greeting, echo, farewell] using hbacklog) hs)
      exact hpassed.trans (decide_eq_false hbacklog).symm
  refine ⟨hfailures, ?_⟩
  obtain ⟨e, he, hrequired, hthree⟩ :
      ∃ e ∈ Catalog.entries, e.isRequired = true ∧ e.backlog = 3 := by decide
  rw [hfailures, List.map_eq_nil_iff, List.filter_eq_nil_iff]
  constructor
  · intro hnone
    simpa [hrequired, hthree] using hnone e he
  · intro hroom e _
    have := e.backlog_le
    simp only [Bool.and_eq_true, decide_eq_true_eq, not_and]
    omega

/-- With room for one request the reference fails the three entries in which more of them wait. -/
theorem reference_failures_one :
    let v := reference.verification ⟨.ofMillis 100, 1⟩
    v.subject = reference.subject ∧ 1 ≤ v.config.capacity ∧
      Stage.fits UInt64 v.config.capacity = true ∧ 1 ≤ v.maxSignals ∧
      (v.helper Demand.unbounded).Supplies (Range.numbersFrom id 0) ∧
      (v.helper 1).RejectsDuplicate ∧ (Report.ofCatalog v "reference").failures = [
        "required_exercise_whitebox_happy_path",
        "required_spec208_must_be_prepared_to_receive_on_next_signals_after_having_called_" ++
          "subscription_cancel",
        "required_spec210_must_be_prepared_to_receive_an_on_error_signal_with_preceding_request_" ++
          "call"] := by
  intro v
  have hsupplies : (v.helper Demand.unbounded).Supplies (Range.numbersFrom id 0) :=
    Range.helper_supplies id
  have hrejects : (v.helper 1).RejectsDuplicate :=
    (Range.helper_rejectsSecond id (by decide)).rejectsDuplicate
  refine ⟨rfl, by decide, by decide, by decide, hsupplies, hrejects, ?_⟩
  rw [Range.numbersFrom_eq_cons, Range.numbersFrom_eq_cons] at hsupplies
  exact (reference_failures rfl (by decide) (by decide) (by decide) hsupplies hrejects
    "reference").1.trans (by decide)

/-- Settings that ask for room for two requests make the reference fail an entry. -/
theorem reference_failures_of_settings :
    let settings : Settings := fun name => if name = Config.capacitySetting then some [50] else none
    let v := reference.verification (.ofSettings settings)
    v.config.capacity = 2 ∧ v.subject = reference.subject ∧
      Stage.fits UInt64 v.config.capacity = true ∧ 1 ≤ v.maxSignals ∧
      (v.helper Demand.unbounded).Supplies (Range.numbersFrom id 0) ∧
      (v.helper 1).RejectsDuplicate ∧ (Report.ofCatalog v "reference").failures =
        ["required_spec208_must_be_prepared_to_receive_on_next_signals_after_having_called_" ++
          "subscription_cancel"] := by
  intro settings v
  exact ⟨by decide +kernel, rfl, by decide +kernel, by decide, Range.helper_supplies id,
    (Range.helper_rejectsSecond id (by decide)).rejectsDuplicate, by decide +kernel⟩

end Specimen

end StreamConformance
