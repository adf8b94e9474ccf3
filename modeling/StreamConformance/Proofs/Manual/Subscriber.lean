import StreamConformance.Manual.Subscriber
import StreamConformance.Proofs.Cell.Promise
import StreamConformance.Proofs.Cell.Queue

/-!
# Signals to the manual subscriber

What a signal does to the elements, the end and the error of a manual subscriber, depending on
whether anything is objected to, and what the outcome of an expectation says of them.
-/

namespace StreamConformance.ManualSubscriber

variable {α ι : Type} {m m' : ManualSubscriber α ι}

/-! ### Signals -/

/-- An element that is not objected to comes behind all others, and any other one is not queued. -/
theorem elements_onNext (a : α) (m : ManualSubscriber α ι) :
    (m.onNext a).2.received.elements =
      m.received.elements ++ if (m.onNext a).1.isNone then [a] else [] := by
  unfold onNext
  split
  next h => simp [Queue.elements_add h]
  next => simp

/-- An element is queued, or it comes after the completion, or the queue has no room for it. -/
theorem onNext_cases (a : α) (m : ManualSubscriber α ι) :
    ((m.onNext a).1 = none ∧ m.received.isCompleted = false) ∨
      (m.onNext a = (some (elementRefused .alreadyCompleted), m) ∧
        m.received.isCompleted = true) ∨
      m.onNext a = (some (elementRefused (.overflow m.received.capacity)), m) := by
  by_cases hended : m.received.isCompleted
  · exact .inr (.inl ⟨by simp [onNext, Queue.add, hended], hended⟩)
  · by_cases hfull : m.received.line.size ≥ m.received.capacity
    · exact .inr (.inr (by simp [onNext, Queue.add, hended, hfull]))
    · exact .inl ⟨by simp [onNext, Queue.add, hended, hfull], Bool.eq_false_iff.mpr hended⟩

@[simp] theorem capacity_onNext (a : α) (m : ManualSubscriber α ι) :
    (m.onNext a).2.received.capacity = m.received.capacity := by
  unfold onNext Queue.add
  grind

@[simp] theorem isCompleted_onNext (a : α) (m : ManualSubscriber α ι) :
    (m.onNext a).2.received.isCompleted = m.received.isCompleted := by
  unfold onNext
  split
  next h => simpa [h] using Queue.isCompleted_add a m.received
  next => rfl

@[simp] theorem error_onNext (a : α) (m : ManualSubscriber α ι) :
    (m.onNext a).2.error = m.error := by
  unfold onNext
  split <;> rfl

@[simp] theorem received_onError (e : StreamError) (m : ManualSubscriber α ι) :
    (m.onError e).2.received = m.received := by
  unfold onError
  split <;> rfl

theorem error_onError (e : StreamError) (m : ManualSubscriber α ι) :
    (m.onError e).2.error.value.toList =
      m.error.value.toList ++ if (m.onError e).1.isNone then [e] else [] := by
  rcases m with ⟨s, q, ⟨_ | e'⟩⟩ <;>
    simp [onError, Promise.complete, Promise.isCompleted, Promise.completed]

@[simp] theorem elements_onComplete (m : ManualSubscriber α ι) :
    m.onComplete.2.received.elements = m.received.elements := by
  unfold onComplete
  split
  next h => simpa [h] using Queue.elements_complete m.received
  next => rfl

@[simp] theorem capacity_onComplete (m : ManualSubscriber α ι) :
    m.onComplete.2.received.capacity = m.received.capacity := by
  unfold onComplete Queue.complete
  grind

@[simp] theorem isCompleted_onComplete (m : ManualSubscriber α ι) :
    m.onComplete.2.received.isCompleted = true := by
  unfold onComplete
  split
  next h => simpa [h] using Queue.isCompleted_complete m.received
  next h =>
    unfold Queue.complete at h
    grind

@[simp] theorem error_onComplete (m : ManualSubscriber α ι) : m.onComplete.2.error = m.error := by
  unfold onComplete
  split <;> rfl

@[simp] theorem received_onSubscribe (k : ι) (m : ManualSubscriber α ι) :
    (m.onSubscribe k).2.received = m.received := by
  unfold onSubscribe
  split <;> rfl

@[simp] theorem error_onSubscribe (k : ι) (m : ManualSubscriber α ι) :
    (m.onSubscribe k).2.error = m.error := by
  unfold onSubscribe
  split <;> rfl

/-! ### Assertions -/

variable {timeout : Duration}

/-- If nothing is expected with success, then there is nothing in the queue. -/
theorem of_expectNone [Element α] (h : (expectNone timeout).now m = (.ok (), m')) :
    m.received.elements = [] ∧ m.received.isCompleted = false ∧ m' = m := by
  rw [expectNone, onReceived, Expectation.now_onPart, Prod.mk.injEq] at h
  obtain ⟨hok, rfl⟩ := h
  obtain ⟨hempty, hopen, hsame⟩ := Queue.of_silence (Prod.ext hok rfl)
  exact ⟨hempty, hopen, congrArg (fun q => { m with received := q }) hsame⟩

/-- An element that is expected with success is the first one, and it is taken. -/
theorem of_expectElement {a : α} (h : (expectElement timeout).now m = (.ok a, m')) :
    m.received.elements = a :: m'.received.elements ∧
      m'.received.isCompleted = m.received.isCompleted ∧ m'.error = m.error ∧
      m'.subscription = m.subscription := by
  rw [expectElement, onReceived, Expectation.now_onPart, Prod.mk.injEq] at h
  obtain ⟨hok, rfl⟩ := h
  have hnow : (Queue.next timeout "Did not receive expected element").now m.received =
      (.ok a, ((Queue.next timeout "Did not receive expected element").now m.received).2) :=
    Prod.ext hok rfl
  exact ⟨Queue.elements_of_next hnow, Queue.isCompleted_of_next hnow, rfl, rfl⟩

@[simp] theorem capacity_expectElement (timeout : Duration) (m : ManualSubscriber α ι) :
    ((expectElement timeout).now m).2.received.capacity = m.received.capacity :=
  Queue.capacity_next _ _ _

theorem of_expectElement_error {x : Violation}
    (h : (expectElement timeout).now m = (.error x, m')) : m' = m := by
  rw [expectElement, onReceived, Expectation.now_onPart, Prod.mk.injEq] at h
  obtain ⟨herror, rfl⟩ := h
  exact congrArg (fun q => { m with received := q }) (Queue.of_next_error (Prod.ext herror rfl))

/-- An error that is expected with success is there, and it is as expected. -/
theorem of_expectError {kind : Cause.Kind} {part : String} {e : StreamError}
    (h : (expectError kind part timeout).now m = (.ok e, m')) :
    m.error.value = some e ∧ e.isOf kind = true ∧ Text.occursIn part e.message = true ∧
      m' = m := by
  rw [expectError, Expectation.now_judge, Expectation.now_onPart, Prod.mk.injEq] at h
  obtain ⟨hok, rfl⟩ := h
  simp only [Promise.completion_now_snd, and_true]
  split at hok
  · simp at hok
  next received hreceived =>
    have hvalue : m.error.value = some received :=
      (Promise.completion_eq_ok_iff.mp (Prod.ext hreceived rfl)).1
    split at hok
    · simp at hok
    next hkind =>
      split at hok
      next hpart =>
        obtain rfl := Except.ok.inj hok
        exact ⟨hvalue, by simpa using hkind, hpart⟩
      next => simp at hok

theorem expectError_of_value {kind : Cause.Kind} {part : String} {e : StreamError}
    (h : m.error.value = some e) (hkind : e.isOf kind = true)
    (hpart : Text.occursIn part e.message = true) (timeout : Duration) :
    (expectError kind part timeout).now m = (.ok e, m) := by
  rw [expectError, Expectation.now_judge, Expectation.now_onPart,
    Promise.completion_eq_ok_iff.mpr ⟨h, rfl⟩]
  simp [hkind, hpart]

end StreamConformance.ManualSubscriber
