import StreamConformance.Subject.Basic
import StreamConformance.Proofs.Cell.Promise
import StreamConformance.Proofs.Probe.Reports

/-!
# The terminal signal of a probe

A probe accepts one terminal signal at most, and it keeps it in three places: the mark of the first
terminal signal, the end of the queue of elements, and the cell of the error. The three agree
whatever is reported, so the assertions on the terminal signal tell exactly what has been accepted.

## Main definitions

* `BlackboxProbe.terminals` — the terminal signal that has been accepted, if any.
* `BlackboxProbe.Consistent` — the three places agree.
* `BlackboxProbe.Shows` — the elements that wait in a consistent record, and its terminal signal.

## Main results

* `BlackboxProbe.expectCompletion_eq_ok_iff`, `BlackboxProbe.expectError_eq_ok_iff` — when a
  terminal signal is expected with success.
-/

namespace StreamConformance.BlackboxProbe

variable {α : Type} {p p' : BlackboxProbe α}

/-- The terminal signal that has been accepted, as the call that has reported it. -/
def terminals (p : BlackboxProbe α) : List (Call α) :=
  match p.terminal with
  | none => []
  | some .complete => [.registerComplete]
  | some .error => p.error.value.toList.map .registerError

/-- The queue of elements has ended if and only if the terminal signal is a completion, there is an
error if and only if it is one, and no element stands behind the end. -/
structure Consistent (p : BlackboxProbe α) : Prop where
  ordered : p.elements.Ordered
  completed : p.elements.isCompleted = true ↔ p.terminal = some .complete
  failed : p.error.isCompleted = true ↔ p.terminal = some .error

theorem consistent_empty (capacity : Nat) : (empty capacity : BlackboxProbe α).Consistent where
  ordered := Queue.ordered_empty capacity
  completed := by simp [empty, Queue.empty]
  failed := by simp [empty, Promise.empty, Promise.isCompleted]

/-! ### Reports -/

section Elements

variable [Element α] (subject : String) (a : α)

@[simp] theorem terminal_registerNext (p : BlackboxProbe α) :
    (p.registerNext subject a).2.terminal = p.terminal := by
  unfold registerNext queueElement
  split
  · rfl
  · split <;> rfl

@[simp] theorem error_registerNext (p : BlackboxProbe α) :
    (p.registerNext subject a).2.error = p.error := by
  unfold registerNext queueElement
  split
  · rfl
  · split <;> rfl

theorem terminals_registerNext (p : BlackboxProbe α) :
    (p.registerNext subject a).2.terminals = p.terminals := by
  simp [terminals]

theorem Consistent.registerNext (hp : p.Consistent) : (p.registerNext subject a).2.Consistent where
  ordered := by
    unfold BlackboxProbe.registerNext queueElement
    split
    · exact hp.ordered
    · split
      next h => simpa [h] using hp.ordered.add a
      next => exact hp.ordered
  completed := by simpa [isCompleted_registerNext] using hp.completed
  failed := by simpa using hp.failed

end Elements

theorem terminals_registerComplete (p : BlackboxProbe α) :
    p.registerComplete.2.terminals =
      p.terminals ++ if p.registerComplete.1.isNone then [.registerComplete] else [] := by
  unfold registerComplete
  split
  · simp
  next h => simp [terminals, h]

theorem Consistent.registerComplete (hp : p.Consistent) : p.registerComplete.2.Consistent := by
  unfold BlackboxProbe.registerComplete
  split
  · exact hp
  next h =>
    exact {
      ordered := hp.ordered.complete
      completed := by simp
      failed := by
        have hfailed := hp.failed
        simpa [h] using hfailed }

theorem Consistent.complete_error (hp : p.Consistent) (h : p.terminal = none) (e : StreamError) :
    (p.error.complete e).2 = .completed e := by
  have hfailed := hp.failed
  rw [h] at hfailed
  simp [Promise.complete, Bool.eq_false_iff.mpr fun h => by simpa using hfailed.mp h]

theorem Consistent.terminals_registerError (hp : p.Consistent) (e : StreamError) :
    (p.registerError e).2.terminals =
      p.terminals ++ if (p.registerError e).1.isNone then [.registerError e] else [] := by
  unfold BlackboxProbe.registerError
  split
  · simp
  next h => simp [terminals, h, hp.complete_error h, Promise.completed]

theorem Consistent.registerError (hp : p.Consistent) (e : StreamError) :
    (p.registerError e).2.Consistent := by
  unfold BlackboxProbe.registerError
  split
  · exact hp
  next h =>
    exact {
      ordered := hp.ordered
      completed := by
        have hcompleted := hp.completed
        simpa [h] using hcompleted
      failed := by simp [hp.complete_error h, Promise.completed, Promise.isCompleted] }

/-! ### Assertions -/

/-- A record whose queue of elements has ended has accepted a completion. -/
theorem Consistent.completed_iff (hp : p.Consistent) :
    p.elements.isCompleted = true ↔ p.terminals = [.registerComplete] := by
  rw [hp.completed]
  rcases h : p.terminal with _ | _ | _ <;> simp [terminals, h]

theorem Consistent.failed_iff (hp : p.Consistent) (e : StreamError) :
    p.error.value = some e ↔ p.terminals = [.registerError e] := by
  have hfailed := hp.failed
  rcases h : p.terminal with _ | _ | _ <;> rw [h] at hfailed <;>
    cases hvalue : p.error.value <;> simp_all [terminals, Promise.isCompleted]

/-- Taking an element keeps the record consistent and leaves the terminal signal alone. -/
theorem Consistent.expectElement [Element α] (hp : p.Consistent) {subject : String} {a : α}
    {timeout : Duration}
    (h : (BlackboxProbe.expectElement subject a timeout).now p = (.ok (), p')) :
    p'.Consistent ∧ p'.terminals = p.terminals := by
  obtain ⟨message, q, hnow, rfl⟩ := next_of_expectElement h
  exact ⟨{
    ordered := hp.ordered.next hnow
    completed := by
      rw [Queue.isCompleted_of_next hnow]
      exact hp.completed
    failed := hp.failed }, rfl⟩

/-- The completion is expected with success if and only if it has been accepted and no element is
left. -/
theorem Consistent.expectCompletion_eq_ok_iff [Element α] (hp : p.Consistent) {subject : String}
    {timeout : Duration} : ((expectCompletion subject timeout).now p).1 = .ok () ↔
      p.elements.elements = [] ∧ p.terminals = [.registerComplete] := by
  rw [← hp.completed_iff]
  simp only [expectCompletion, expectCompletionWithin, onElements, Expectation.now_judge,
    Expectation.now_onPart]
  generalize hnow : (Queue.completion timeout _).now p.elements = d
  obtain ⟨x | ⟨⟩, q⟩ := d
  · have hnot : ¬ (p.elements.elements = [] ∧ p.elements.isCompleted = true) := fun h => by
      rw [(hp.ordered.completion_eq_ok_iff (u := ())).mpr ⟨h.1, h.2, rfl⟩] at hnow
      simp at hnow
    simp only [hnot, iff_false]
    split <;> simp_all
  · have hempty := hp.ordered.completion_eq_ok_iff.mp hnow
    simp [hempty.1, hempty.2.1]

/-- An error is expected with success if and only if the same instance has been accepted. -/
theorem Consistent.expectError_eq_ok_iff (hp : p.Consistent) {subject : String}
    {timeout : Duration} {expected : StreamError} :
    ((expectError subject expected timeout).now p).1 = .ok () ↔
      ∃ e, p.terminals = [.registerError e] ∧ e.same expected = true := by
  simp only [← hp.failed_iff]
  simp only [expectError, awaitError, onErrorCell, Expectation.now_judge, Expectation.now_onPart,
    Promise.completion_now_snd]
  generalize hnow : (Promise.completion timeout _).now p.error = d
  obtain ⟨x | received, c⟩ := d
  · have hnone : p.error.value = none := by
      have hc : c = p.error := (congrArg Prod.snd hnow).symm.trans (Promise.completion_now_snd ..)
      rw [← hc]
      exact Promise.value_of_completion_error hnow
    simp only [hnone, reduceCtorEq, false_and, exists_false, iff_false]
    rcases x with _ | _ | _
    · cases p.elements.isCompleted <;> simp
    · simp
    · simp
  · have hvalue := (Promise.completion_eq_ok_iff.mp hnow).1
    simp only [hvalue, Option.some.injEq, exists_eq_left']
    split <;> simp_all

/-! ### What a record shows -/

/-- The record is consistent, the elements `as` wait in a queue with room for `capacity` of them,
and `terminals` is the terminal signal that has been accepted, if any. -/
structure Shows (p : BlackboxProbe α) (capacity : Nat) (as : List α) (terminals : List (Call α)) :
    Prop where
  consistent : p.Consistent
  capacity_eq : p.elements.capacity = capacity
  elements_eq : p.elements.elements = as
  terminals_eq : p.terminals = terminals

theorem Consistent.terminal_eq_none (hp : p.Consistent) (h : p.terminals = []) :
    p.terminal = none := by
  have hfailed := hp.failed
  rcases hterminal : p.terminal with _ | _ | _
  · rfl
  · simp [terminals, hterminal] at h
  · rw [hterminal, Promise.isCompleted] at hfailed
    simp only [iff_true] at hfailed
    obtain ⟨e, he⟩ := Option.isSome_iff_exists.mp hfailed
    simp [terminals, hterminal, he] at h

namespace Shows

variable {capacity : Nat} {a : α} {as : List α} {calls : List (Call α)}

protected theorem empty (capacity : Nat) :
    (empty capacity : BlackboxProbe α).Shows capacity [] [] :=
  ⟨consistent_empty capacity, rfl, rfl, rfl⟩

theorem terminal_eq_none (h : p.Shows capacity as []) : p.terminal = none :=
  h.consistent.terminal_eq_none h.terminals_eq

/-- Before the terminal signal the queue of elements has not ended. -/
theorem holds (h : p.Shows capacity as []) : p.elements.Holds capacity as := by
  have hopen : p.elements.isCompleted = false := by
    rw [Bool.eq_false_iff, ne_eq, h.consistent.completed, h.terminal_eq_none]
    simp
  have hholds := Queue.Holds.of_ordered h.consistent.ordered hopen
  rwa [h.capacity_eq, h.elements_eq] at hholds

theorem set_elements (h : p.Shows capacity as []) {bs : List α} {q : Queue α}
    (hq : q.Holds capacity bs) :
    ({ p with elements := q } : BlackboxProbe α).Shows capacity bs [] where
  consistent := {
    ordered := hq.ordered
    completed := by simp [hq.isOpen, h.terminal_eq_none]
    failed := h.consistent.failed }
  capacity_eq := hq.capacity_eq
  elements_eq := hq.elements_eq
  terminals_eq := h.terminals_eq

/-- Before the terminal signal an element for which there is room is accepted. -/
theorem registerNext [Element α] (h : p.Shows capacity as []) (hroom : as.length < capacity)
    (subject : String) (a : α) : ∃ p', p.registerNext subject a = (none, p') ∧
      p'.Shows capacity (as ++ [a]) [] := by
  have hfailed : p.error.isCompleted = false := by
    rw [Bool.eq_false_iff, ne_eq, h.consistent.failed, h.terminal_eq_none]
    simp
  obtain ⟨q, hadd, hq⟩ := h.holds.add hroom a
  refine ⟨_, ?_, h.set_elements hq⟩
  rw [BlackboxProbe.registerNext, hfailed, if_neg Bool.false_ne_true, queueElement, hadd]

theorem registerComplete (h : p.Shows capacity as []) :
    ∃ p', p.registerComplete = (none, p') ∧ p'.Shows capacity as [.registerComplete] := by
  have hregister : p.registerComplete.1 = none := by
    rw [BlackboxProbe.registerComplete, h.terminal_eq_none]
  have hcapacity : p.registerComplete.2.elements.capacity = p.elements.capacity := by
    rw [BlackboxProbe.registerComplete, h.terminal_eq_none]
    exact Queue.capacity_complete p.elements
  refine ⟨_, Prod.ext hregister rfl, h.consistent.registerComplete, ?_, ?_, ?_⟩
  · exact hcapacity.trans h.capacity_eq
  · exact (elements_registerComplete p).trans h.elements_eq
  · rw [terminals_registerComplete, hregister, h.terminals_eq]
    rfl

theorem registerError (h : p.Shows capacity as []) (e : StreamError) :
    ∃ p', p.registerError e = (none, p') ∧ p'.Shows capacity as [.registerError e] := by
  have hregister : (p.registerError e).1 = none := by
    rw [BlackboxProbe.registerError, h.terminal_eq_none]
  have helements := elements_registerError e p
  refine ⟨_, Prod.ext hregister rfl, h.consistent.registerError e, ?_, ?_, ?_⟩
  · rw [helements, h.capacity_eq]
  · rw [helements, h.elements_eq]
  · rw [h.consistent.terminals_registerError, hregister, h.terminals_eq]
    rfl

theorem expectElement [Element α] (h : p.Shows capacity (a :: as) []) (subject : String)
    (timeout : Duration) : ∃ p', (expectElement subject a timeout).now p = (.ok (), p') ∧
      p'.Shows capacity as [] := by
  obtain ⟨q, hnext, hq⟩ := h.holds.next timeout ("Subscriber " ++ subject ++
    " did not call `registerOnNext(" ++ Element.debugText a ++ ")`")
  refine ⟨_, ?_, h.set_elements hq⟩
  rw [BlackboxProbe.expectElement, Expectation.now_judge, onElements, Expectation.now_onPart, hnext]
  simp [Element.same_iff]

/-- Where there is no element and no terminal signal nothing is expected with success. -/
theorem expectNone [Element α] (h : p.Shows capacity [] []) (timeout : Duration) :
    (expectNone timeout).now p = (.ok (), p) := by
  rw [BlackboxProbe.expectNone, onElements, Expectation.now_onPart, h.holds.silence]

/-- An element comes in the way where nothing is expected, and is taken. -/
theorem expectNone_broken [Element α] (h : p.Shows capacity (a :: as) []) (timeout : Duration) :
    ∃ text p', (BlackboxProbe.expectNone timeout).now p = (.error (.oversupply text), p') ∧
      p'.Shows capacity as [] := by
  obtain ⟨text, q, hnow, hq⟩ := h.holds.silence_broken timeout "Expected nothing"
  refine ⟨text, _, ?_, h.set_elements hq⟩
  rw [BlackboxProbe.expectNone, onElements, Expectation.now_onPart, hnow]

end Shows

end StreamConformance.BlackboxProbe
