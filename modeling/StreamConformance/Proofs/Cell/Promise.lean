import StreamConformance.Cell.Promise

/-!
# Reading a promise

A promise that is read stays as it is, and it is read with success if and only if it has its value.
-/

namespace StreamConformance.Promise

variable {α : Type} {timeout : Duration} {message : String} {p p' : Promise α} {a : α}

@[simp] theorem completion_now_snd (timeout : Duration) (message : String) (p : Promise α) :
    ((completion timeout message).now p).2 = p := by
  simp only [Expectation.now, completion]
  split <;> rfl

/-- A promise is read with success if and only if it has its value. -/
theorem completion_eq_ok_iff :
    (completion timeout message).now p = (.ok a, p') ↔ p.value = some a ∧ p' = p := by
  rcases p with ⟨_ | b⟩ <;>
    simp [Expectation.now, completion, isCompleted, eq_comm (a := p')]

theorem value_of_completion_error {x : Violation}
    (h : (completion timeout message).now p = (.error x, p')) : p'.value = none := by
  obtain rfl : p = p' := by rw [← completion_now_snd timeout message p, h]
  rcases p with ⟨_ | b⟩
  · rfl
  · simp [Expectation.now, completion, isCompleted] at h

theorem completion_of_none (timeout : Duration) (message : String) (h : p.value = none) :
    (completion timeout message).now p = (.error (.timeout message timeout), p) := by
  simp [Expectation.now, completion, isCompleted, h]

theorem cost_completion (timeout : Duration) (message : String) (h : p.value = some a) :
    (completion timeout message).cost p = .zero := by
  simp [Expectation.cost, completion, isCompleted, h]

end StreamConformance.Promise
