import StreamConformance.Proofs.Rule.Verdict
import StreamConformance.Proofs.Run.Account
import StreamConformance.Proofs.Stage.Steps
import StreamConformance.Run.Specimen

/-!
# Calls from within a terminal signal

The entries of rule 2.3 offer the subject a sentinel and send it a terminal signal. The sentinel
objects to exactly the calls that the subject makes on it from within the terminal signal, on the
thread on which the signal is delivered. An entry passes if and only if there is no such call,
nothing else has been recorded, no callback has panicked, and the queues could be reserved.

## Main definitions

* `CallRecord.isReentrant` — a call that the sentinel objects to during the terminal signal.
* `Scenario.openingAccount`, `Scenario.closingAccount` — the accounts of the two callbacks.

## Main results

* `Scenario.terminalReentrancy_verdict` — when the entries pass, and what is recorded.
-/

namespace StreamConformance

variable {α σ η : Type}

/-- Whether the call is one on the subscription offered first, on the delivering thread. -/
def CallRecord.isReentrant (c : CallRecord α) : Bool := c.call.isOn 0 && c.lane == .delivering

namespace Scenario

/-- The name of the entry for a terminal signal. -/
def TerminalSignal.entryName : TerminalSignal → String
  | complete =>
    "required_spec203_must_not_call_methods_on_subscription_or_publisher_in_on_complete"
  | error => "required_spec203_must_not_call_methods_on_subscription_or_publisher_in_on_error"

variable [Element α] (v : Verification α σ η) (marks : Marks) (t : TerminalSignal)

/-- The run in which the subject is offered the sentinel. -/
def sentinelOffered : Run α σ η :=
  { (Run.start v marks).note .subjectCreated with offers := [.sentinel t.sentinel] }

/-- The account of the callback in which the subject is offered the sentinel. It is not called if
the queues cannot be reserved. -/
def openingAccount : List (CallRecord α) :=
  if Stage.fits α v.config.capacity then (sentinelOffered v marks t).accountOf v (.onSubscribe 0)
  else []

/-- The account of the callback in which the subject receives the terminal signal. It is not called
if the one before it has panicked. -/
def closingAccount : List (CallRecord α) :=
  if Stage.fits α v.config.capacity then
    match (sentinelOffered v marks t).deliver v (.onSubscribe 0) with
    | (.ok (), r) => r.accountOf v t.stimulus
    | (.error _, _) => []
  else []

theorem terminalReentrancy_on :
    (terminalReentrancy v t).on (.start v marks) =
      if Stage.fits α v.config.capacity then
        match (sentinelOffered v marks t).deliver v (.onSubscribe 0) with
        | (.error p, r) => (.error (.panic p), r)
        | (.ok (), r) =>
          match r.deliver v t.stimulus with
          | (.error p, r) => (.error (.panic p), r)
          | (.ok (), r) => (r.log.assertEmpty.mapError .violation, r)
      else (.error (.panic .capacityOverflow), .start v marks) := by
  have hoffer : ((Run.start v marks).note .subjectCreated).offer v (.sentinel t.sentinel) =
      (sentinelOffered v marks t).deliver v (.onSubscribe 0) := rfl
  rw [terminalReentrancy, Play.on_bind, Stage.on_reserve]
  by_cases hfits : Stage.fits α v.config.capacity = true
  · simp only [hfits, ↓reduceIte, Play.on_bind, Stage.on_createSubject, Play.on_orPanic, hoffer]
    rcases (sentinelOffered v marks t).deliver v (.onSubscribe 0) with ⟨p | ⟨⟩, r⟩
    · rfl
    · simp only [Play.mapError_ok]
      rcases r.deliver v t.stimulus with ⟨p | ⟨⟩, r'⟩
      · rfl
      · exact Play.on_ask _ r'
  · simp only [hfits]
    rfl

variable {v marks t}

omit [Element α] in
/-- A terminal signal is delivered with the mark that its sentinel forbids. -/
theorem TerminalSignal.signalOf_stimulus (t : TerminalSignal) :
    Run.signalOf (t.stimulus : Stimulus α) = some t.sentinel.forbidden := by
  cases t <;> rfl

/-- While the sentinel is offered, a call on it is objected to only if the whole entry is run from
within a signal that the sentinel forbids. -/
theorem objection_of_mem_opening {c : CallRecord α} (hc : c ∈ openingAccount v marks t)
    (h0 : c.call.isOn 0 = true) :
    c.objection = if c.isReentrant ∧ t.sentinel.forbidden ∈ marks then
      some (t.sentinel.complaint c.call) else none := by
  unfold openingAccount at hc
  split at hc
  next =>
    have hoffers : ((sentinelOffered v marks t).answering v (.onSubscribe 0)).offers =
        [.sentinel t.sentinel] := rfl
    have hmarks : ((sentinelOffered v marks t).answering v (.onSubscribe 0)).marks.isActive
        t.sentinel.forbidden = true ↔ t.sentinel.forbidden ∈ marks := by
      have hne : t.sentinel.forbidden ≠ .onSubscribe := by cases t <;> decide
      simp [Run.answering, Run.signalOf, sentinelOffered, Run.start, Marks.enter,
        Marks.isActive, hne]
    rw [Run.objection_of_mem_account hoffers hc h0]
    simp [hmarks, CallRecord.isReentrant, h0]
  next => simp at hc

/-- A call on the sentinel is objected to during the terminal signal if and only if it is made on
the delivering thread. -/
theorem objection_of_mem_closing {c : CallRecord α} (hc : c ∈ closingAccount v marks t)
    (h0 : c.call.isOn 0 = true) :
    c.objection = if c.isReentrant then some (t.sentinel.complaint c.call) else none := by
  unfold closingAccount at hc
  split at hc
  next =>
    split at hc
    next r hr =>
      obtain ⟨es, -, h⟩ := Run.deliver_extends v (.onSubscribe 0) (sentinelOffered v marks t)
      rw [hr] at h
      have hoffers : (r.answering v t.stimulus).offers = [.sentinel t.sentinel] := by
        simp only [Run.answering, TerminalSignal.signalOf_stimulus, Run.offers_note]
        exact h.sameOffers
      have hmarks : (r.answering v t.stimulus).marks.isActive t.sentinel.forbidden = true := by
        simp [Run.answering, TerminalSignal.signalOf_stimulus, Marks.enter, Marks.isActive]
      rw [Run.objection_of_mem_account hoffers hc h0, hmarks]
      simp [CallRecord.isReentrant, h0]
    next => simp at hc
  next => simp at hc

/-- The sentinel objects to exactly the calls on it from within the terminal signal, in their
order. -/
theorem closing_objections :
    ((closingAccount v marks t).filter (·.call.isOn 0)).filterMap CallRecord.objection =
      ((closingAccount v marks t).filter CallRecord.isReentrant).map
        fun c => t.sentinel.complaint c.call := by
  have h (cs : List (CallRecord α)) (hcs : ∀ c ∈ cs, c ∈ closingAccount v marks t) :
      (cs.filter (·.call.isOn 0)).filterMap CallRecord.objection =
        (cs.filter CallRecord.isReentrant).map fun c => t.sentinel.complaint c.call := by
    induction cs with
    | nil => rfl
    | cons c cs ih =>
      have ih := ih fun c' hc' => hcs c' (List.mem_cons_of_mem c hc')
      by_cases h0 : c.call.isOn 0 = true
      · have hc := objection_of_mem_closing (hcs c List.mem_cons_self) h0
        by_cases hr : c.isReentrant = true
        · simp [h0, hr, hc, ih]
        · simp [h0, hr, hc, ih]
      · have hr : c.isReentrant = false := by simp [CallRecord.isReentrant, h0]
        simp [h0, hr, ih]
  exact h _ fun c hc => hc

/-- No account has an objection if and only if no call on the sentinel is forbidden and no other
call is objected to. -/
theorem objections_eq_nil_iff :
    (openingAccount v marks t ++ closingAccount v marks t).filterMap CallRecord.objection = [] ↔
      (t.sentinel.forbidden ∈ marks → ∀ c ∈ openingAccount v marks t, c.isReentrant = false) ∧
      (∀ c ∈ closingAccount v marks t, c.isReentrant = false) ∧
      ∀ c ∈ openingAccount v marks t ++ closingAccount v marks t, c.call.isOn 0 = false →
        c.objection = none := by
  have hon {c : CallRecord α} (hr : c.isReentrant = true) : c.call.isOn 0 = true := by
    simp only [CallRecord.isReentrant, Bool.and_eq_true] at hr
    exact hr.1
  rw [List.filterMap_eq_nil_iff]
  constructor
  · intro h
    refine ⟨fun hm c hc => ?_, fun c hc => ?_, fun c hc _ => h c hc⟩
    · refine Bool.eq_false_iff.mpr fun hr => ?_
      have := h c (List.mem_append_left _ hc)
      simp [objection_of_mem_opening hc (hon hr), hr, hm] at this
    · refine Bool.eq_false_iff.mpr fun hr => ?_
      have := h c (List.mem_append_right _ hc)
      simp [objection_of_mem_closing hc (hon hr), hr] at this
  · rintro ⟨hopening, hclosing, hother⟩ c hc
    by_cases h0 : c.call.isOn 0 = true
    · rcases List.mem_append.mp hc with hc | hc
      · rw [objection_of_mem_opening hc h0, if_neg]
        rintro ⟨hr, hm⟩
        simp [hopening hm c hc] at hr
      · simp [objection_of_mem_closing hc h0, hclosing c hc]
    · exact hother c hc (by simpa using h0)

/-- The log at the end of the scenario holds the objections of the two accounts. -/
theorem log_terminalReentrancy :
    ((terminalReentrancy v t).on (.start v marks)).2.log.entries =
      (openingAccount v marks t ++ closingAccount v marks t).filterMap CallRecord.objection := by
  rw [terminalReentrancy_on]
  by_cases hfits : Stage.fits α v.config.capacity = true
  · have hopening := Run.log_deliver v (sentinelOffered v marks t) (.onSubscribe 0)
    have hstart : (sentinelOffered v marks t).log.entries = [] := rfl
    simp only [openingAccount, closingAccount, hfits, ↓reduceIte, List.filterMap_append]
    rw [hstart, List.nil_append] at hopening
    rcases hd : (sentinelOffered v marks t).deliver v (.onSubscribe 0) with ⟨p | ⟨⟩, r⟩ <;>
      rw [hd] at hopening
    · simpa using hopening
    · have hclosing := Run.log_deliver v r t.stimulus
      rw [← hopening, ← hclosing]
      simp only
      rcases r.deliver v t.stimulus with ⟨p | ⟨⟩, r'⟩ <;> rfl
  · simp only [openingAccount, closingAccount, hfits]
    rfl

/-- The scenario ends well if and only if the queues can be reserved, no callback panics and nothing
is recorded. -/
theorem terminalReentrancy_eq_ok_iff :
    let d := (terminalReentrancy v t).on (.start v marks)
    d.1 = .ok () ↔ Stage.fits α v.config.capacity = true ∧ .panicked ∉ d.2.history ∧
      d.2.log.entries = [] := by
  intro d
  simp only [d, terminalReentrancy_on]
  by_cases hfits : Stage.fits α v.config.capacity = true
  · have hopening := Run.panicked_mem_deliver v (.onSubscribe 0) (sentinelOffered v marks t)
    have hstart : .panicked ∉ (sentinelOffered v marks t).history := by
      simp [Run.history, sentinelOffered, Run.note, Run.start]
    simp only [hfits, ↓reduceIte]
    rcases hd : (sentinelOffered v marks t).deliver v (.onSubscribe 0) with ⟨p | ⟨⟩, r⟩ <;>
      rw [hd] at hopening
    · simp [hopening]
    · have hclosing := Run.panicked_mem_deliver v t.stimulus r
      simp only [hstart, false_or, reduceCtorEq, exists_false, iff_false] at hopening ⊢
      rcases hd' : r.deliver v t.stimulus with ⟨p | ⟨⟩, r'⟩ <;> rw [hd'] at hclosing
      · simp [hclosing]
      · have hpanicked : .panicked ∉ r'.history := by simpa [hopening] using hclosing
        have hcheck : r'.log.assertEmpty.mapError Halt.violation = .ok () ↔
            r'.log.entries = [] := by
          rw [← Log.assertEmpty_eq_ok_iff]
          rcases r'.log.assertEmpty with x | ⟨⟩ <;> simp
        simp [hpanicked, hcheck]
  · simp [hfits]

variable (v marks t)

/-- The verdict on rule 2.3, for both terminal signals. If the entry is not itself run from within
a signal of the same kind, it has passed if and only if the queues could be reserved, no callback
has panicked, the subject has not called the sentinel from within the terminal signal on its thread,
and no other call has been objected to. In any case the sentinel has objected to exactly the calls
made while the forbidden signal was being delivered on the thread of the call. -/
theorem terminalReentrancy_verdict :
    ∃ rule, Catalog.find? t.entryName = some rule ∧
      let run := (rule.execute v marks).2
      let outcome := (rule.execute v marks).1
      let opening := openingAccount v marks t
      let closing := closingAccount v marks t
      (outcome = .passed ↔
        Stage.fits α v.config.capacity = true ∧ .panicked ∉ run.history ∧
        (t.sentinel.forbidden ∈ marks → ∀ c ∈ opening, c.isReentrant = false) ∧
        (∀ c ∈ closing, c.isReentrant = false) ∧
        ∀ c ∈ opening ++ closing, c.call.isOn 0 = false → c.objection = none) ∧
      run.log.entries = (opening ++ closing).filterMap CallRecord.objection ∧
      (∀ c ∈ opening, c.call.isOn 0 = true → c.objection =
        if c.isReentrant ∧ t.sentinel.forbidden ∈ marks then some (t.sentinel.complaint c.call)
        else none) ∧
      (∀ c ∈ closing, c.call.isOn 0 = true → c.isReentrant = false → c.objection = none) ∧
      (closing.filter (·.call.isOn 0)).filterMap CallRecord.objection =
        (closing.filter CallRecord.isReentrant).map fun c => t.sentinel.complaint c.call := by
  obtain ⟨rule, hfind, hs⟩ : ∃ rule : Rule α σ η, Catalog.find? t.entryName = some rule ∧
      rule.scenario = some fun v => terminalReentrancy v t := by
    cases t <;> exact ⟨_, rfl, rfl⟩
  refine ⟨rule, hfind, ?_⟩
  have hexecute := Rule.execute_of_scenario hs v marks
  have hpassed := Rule.execute_passed_iff hs v marks
  simp only [hexecute] at hpassed
  simp only [hexecute, hpassed, terminalReentrancy_eq_ok_iff]
  refine ⟨?_, log_terminalReentrancy, fun c hc => objection_of_mem_opening hc,
    fun c hc h0 hr => ?_, closing_objections⟩
  · rw [log_terminalReentrancy, ← objections_eq_nil_iff]
    exact ⟨fun h => h.1, fun h => ⟨h, h.2.2⟩⟩
  · simp [objection_of_mem_closing hc h0, hr]

/-- If the queues cannot be reserved, the entry fails although no callback has panicked and nothing
has been called or recorded. -/
theorem terminalReentrancy_unreserved :
    let v := Specimen.reference.verification ⟨.ofMillis 100, 18446744073709551615⟩
    let t := TerminalSignal.complete
    ∃ rule, Catalog.find? t.entryName = some rule ∧
      let run := (rule.execute v []).2
      let outcome := (rule.execute v []).1
      let opening := openingAccount v [] t
      let closing := closingAccount v [] t
      ¬ (outcome = .passed ↔
        .panicked ∉ run.history ∧ (∀ c ∈ closing, c.isReentrant = false) ∧
        ∀ c ∈ opening ++ closing, c.call.isOn 0 = false → c.objection = none) := by
  intro v t
  have hfits : Stage.fits UInt64 v.config.capacity = false := by decide
  have hopening : openingAccount v [] t = [] := by simp [openingAccount, hfits]
  have hclosing : closingAccount v [] t = [] := by simp [closingAccount, hfits]
  refine ⟨_, rfl, ?_⟩
  simp only [hopening, hclosing]
  intro h
  have hpassed := h.mpr ⟨by decide, by simp, by simp⟩
  exact absurd hpassed (by decide)

end Scenario

end StreamConformance
