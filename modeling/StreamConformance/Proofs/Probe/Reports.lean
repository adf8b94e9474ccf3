import StreamConformance.Probe.Whitebox
import StreamConformance.Proofs.Cell.Queue

/-!
# Reports to a probe

What a report does to the elements, the end and the puppet of a probe, depending on whether it is
accepted.
-/

namespace StreamConformance

namespace BlackboxProbe

variable {α : Type} [Element α]

/-- An accepted element comes behind all others, and a refused one is not queued. -/
theorem elements_registerNext (subject : String) (a : α) (p : BlackboxProbe α) :
    (p.registerNext subject a).2.elements.elements =
      p.elements.elements ++ if (p.registerNext subject a).1.isNone then [a] else [] := by
  unfold registerNext queueElement
  split
  · simp
  · split
    next h => simp [Queue.elements_add h]
    next => simp

theorem isCompleted_registerNext (subject : String) (a : α) (p : BlackboxProbe α) :
    (p.registerNext subject a).2.elements.isCompleted = p.elements.isCompleted := by
  unfold registerNext queueElement
  split
  · rfl
  · split
    next h => simpa [h] using Queue.isCompleted_add a p.elements
    next => rfl

omit [Element α] in
theorem elements_registerComplete (p : BlackboxProbe α) :
    p.registerComplete.2.elements.elements = p.elements.elements := by
  unfold registerComplete
  split <;> simp

omit [Element α] in
theorem isCompleted_registerComplete (p : BlackboxProbe α) :
    p.registerComplete.2.elements.isCompleted =
      (p.elements.isCompleted || p.registerComplete.1.isNone) := by
  unfold registerComplete
  split <;> simp

omit [Element α] in
theorem elements_registerError (e : StreamError) (p : BlackboxProbe α) :
    (p.registerError e).2.elements = p.elements := by
  unfold registerError
  split <;> rfl

/-! ### Assertions -/

/-- Where an element is expected with success, it is taken from the queue, and everything else in
the record stays as it is. -/
theorem next_of_expectElement {subject : String} {a : α} {timeout : Duration}
    {p p' : BlackboxProbe α} (h : (expectElement subject a timeout).now p = (.ok (), p')) :
    ∃ message q, (Queue.next timeout message).now p.elements = (.ok a, q) ∧
      p' = { p with elements := q } := by
  rw [expectElement, onElements, Expectation.now_judge, Expectation.now_onPart,
    Prod.mk.injEq] at h
  obtain ⟨hok, rfl⟩ := h
  split at hok
  · simp at hok
  next received hreceived =>
    split at hok
    next hsame =>
      obtain rfl := (Element.same_iff _ _).mp hsame
      exact ⟨_, _, Prod.ext hreceived rfl, rfl⟩
    next => simp at hok

/-- An element that is expected with success is the first one, and it is taken. -/
theorem of_expectElement {subject : String} {a : α} {timeout : Duration} {p p' : BlackboxProbe α}
    (h : (expectElement subject a timeout).now p = (.ok (), p')) :
    p.elements.elements = a :: p'.elements.elements ∧
      p'.elements.isCompleted = p.elements.isCompleted := by
  obtain ⟨message, q, hnow, rfl⟩ := next_of_expectElement h
  exact ⟨Queue.elements_of_next hnow, Queue.isCompleted_of_next hnow⟩

theorem of_expectNone {within : Duration} {p p' : BlackboxProbe α}
    (h : (expectNone within).now p = (.ok (), p')) :
    p.elements.elements = [] ∧ p.elements.isCompleted = false ∧ p' = p := by
  rw [expectNone, onElements, Expectation.now_onPart, Prod.mk.injEq] at h
  obtain ⟨hok, rfl⟩ := h
  obtain ⟨hempty, hopen, hsame⟩ := Queue.of_silence (Prod.ext hok rfl)
  exact ⟨hempty, hopen, congrArg (fun q => { p with elements := q }) hsame⟩

end BlackboxProbe

theorem WhiteboxProbe.puppet_registerPuppet {α : Type} (subject : String) (k : Nat)
    (p : WhiteboxProbe α Nat) :
    (p.registerPuppet subject k).2.puppet.value.toList =
      p.puppet.value.toList ++ if (p.registerPuppet subject k).1.isNone then [k] else [] := by
  unfold registerPuppet Promise.complete Promise.isCompleted Promise.completed
  rcases p with ⟨b, ⟨_ | k'⟩⟩ <;> simp

theorem WhiteboxProbe.blackbox_registerPuppet {α π : Type} (subject : String) (k : π)
    (p : WhiteboxProbe α π) : (p.registerPuppet subject k).2.blackbox = p.blackbox := by
  unfold registerPuppet
  split <;> rfl

end StreamConformance
