import StreamConformance.Cell.Queue

/-!
# The elements of a queue

What the operations of a queue do to its elements and to its end, and what the outcome of an
expectation says of them.

## Main definitions

* `Queue.Ordered` — the elements of the queue stand in front of its end marker.
* `Queue.Holds` — a queue that has not ended, with its capacity and its elements.
-/

namespace StreamConformance.Queue

variable {α : Type} {q r : Queue α}

theorem elements_add {a : α} (h : q.add a = (.ok (), r)) : r.elements = q.elements ++ [a] := by
  simp [elements, entries_add h, Queued.element?]

@[simp] theorem isCompleted_add (a : α) (q : Queue α) :
    (q.add a).2.isCompleted = q.isCompleted := by
  unfold add
  split
  · rfl
  · split <;> rfl

@[simp] theorem elements_complete (q : Queue α) : q.complete.2.elements = q.elements := by
  unfold complete
  split
  · rfl
  · simp [elements, entries, Queued.element?]

@[simp] theorem capacity_complete (q : Queue α) : q.complete.2.capacity = q.capacity := by
  unfold complete
  split <;> rfl

@[simp] theorem isCompleted_complete (q : Queue α) : q.complete.2.isCompleted = true := by
  unfold complete
  split
  · assumption
  · rfl

/-! ### The place of the end marker -/

/-- The elements stand in front of the end marker, which is there if and only if the queue has
ended. -/
def Ordered (q : Queue α) : Prop :=
  q.entries = q.elements.map .element ++ if q.isCompleted then [.endMarker] else []

theorem ordered_empty (capacity : Nat) : (empty capacity : Queue α).Ordered := rfl

/-- A queue in which `as` stand in front of the end marker has these elements, and it is ordered. -/
theorem ordered_of_entries {as : List α}
    (h : q.entries = as.map .element ++ if q.isCompleted then [.endMarker] else []) :
    q.elements = as ∧ q.Ordered := by
  have helements : q.elements = as := by
    rw [elements, h]
    cases q.isCompleted <;> simp [List.filterMap_map, Function.comp_def, Queued.element?]
  exact ⟨helements, by rw [Ordered, helements, h]⟩

theorem Ordered.add (h : q.Ordered) (a : α) : (q.add a).2.Ordered := by
  rcases hadd : q.add a with ⟨e | ⟨⟩, r⟩
  · obtain rfl : q = r := by
      unfold Queue.add at hadd
      grind
    exact h
  · have hopen : q.isCompleted = false := by
      unfold Queue.add at hadd
      grind
    have hopen' : r.isCompleted = false := by simpa [hadd, hopen] using isCompleted_add a q
    rw [Ordered, hopen] at h
    rw [Ordered, hopen', entries_add hadd, elements_add hadd, h]
    simp

theorem Ordered.complete (h : q.Ordered) : q.complete.2.Ordered := by
  rcases hcomplete : q.complete with ⟨e | ⟨⟩, r⟩
  · obtain rfl : q = r := by
      unfold Queue.complete at hcomplete
      grind
    exact h
  · have hopen : q.isCompleted = false := by
      unfold Queue.complete at hcomplete
      grind
    have hended : r.isCompleted = true := by simpa [hcomplete] using isCompleted_complete q
    have helements : r.elements = q.elements := by simpa [hcomplete] using elements_complete q
    rw [Ordered, hopen] at h
    rw [Ordered, hended, entries_complete hcomplete, helements, h]
    simp

/-! ### Expectations -/

theorem pop_of_entries {x : Queued α} {rest : List (Queued α)} (h : q.entries = x :: rest) :
    q.line.isEmpty = false ∧ ∃ line, q.line.pop? = some (x, line) ∧ line.toList = rest := by
  have hline : q.line.toList = x :: rest := h
  refine ⟨Bool.eq_false_iff.mpr fun hempty => ?_, ?_⟩
  · rw [Fifo.isEmpty_iff.mp hempty] at hline
    simp at hline
  · cases hpop : q.line.pop? with
    | none =>
      rw [Fifo.pop?_eq_none_iff.mp hpop] at hline
      simp at hline
    | some p =>
      obtain ⟨hfirst, hrest⟩ := List.cons.inj ((Fifo.toList_of_pop? hpop).symm.trans hline)
      exact ⟨p.2, by rw [← hfirst], hrest⟩

theorem next_of_entries {a : α} {rest : List (Queued α)} (h : q.entries = .element a :: rest)
    (timeout : Duration) (message : String) :
    ∃ line, (next timeout message).now q = (.ok a, { q with line := line }) ∧
      line.toList = rest := by
  obtain ⟨hready, line, hpop, hline⟩ := pop_of_entries h
  refine ⟨line, ?_, hline⟩
  simp [Expectation.now, next, hready, hpop]

@[simp] theorem capacity_next (timeout : Duration) (message : String) (q : Queue α) :
    ((next timeout message).now q).2.capacity = q.capacity := by
  simp only [Expectation.now, next]
  split
  · rfl
  · split <;> rfl

theorem of_next_error {timeout : Duration} {message : String} {x : Violation}
    (h : (next timeout message).now q = (.error x, r)) : r = q := by
  simp only [Expectation.now, next] at h
  split at h
  · exact (Prod.mk.inj h).2.symm
  · split at h
    · exact (Prod.mk.inj h).2.symm
    · simp at h
    · exact (Prod.mk.inj h).2.symm

/-- An element that is expected with success stands at the front, and it is taken. -/
theorem entries_of_next {timeout : Duration} {message : String} {a : α}
    (h : (next timeout message).now q = (.ok a, r)) : q.entries = .element a :: r.entries := by
  simp only [Expectation.now, next] at h
  split at h
  · simp at h
  · split at h <;> simp only [Prod.mk.injEq, reduceCtorEq, false_and, Except.ok.injEq] at h
    next hp =>
      obtain ⟨rfl, rfl⟩ := h
      exact Fifo.toList_of_pop? hp

theorem elements_of_next {timeout : Duration} {message : String} {a : α}
    (h : (next timeout message).now q = (.ok a, r)) : q.elements = a :: r.elements := by
  simp [elements, entries_of_next h, Queued.element?]

theorem isCompleted_of_next {timeout : Duration} {message : String} {a : α}
    (h : (next timeout message).now q = (.ok a, r)) : r.isCompleted = q.isCompleted := by
  simp only [Expectation.now, next] at h
  split at h
  · simp at h
  · split at h <;> simp only [Prod.mk.injEq, reduceCtorEq, false_and, Except.ok.injEq] at h
    rw [← h.2]

theorem Ordered.next (h : q.Ordered) {timeout : Duration} {message : String} {a : α}
    (hnow : (next timeout message).now q = (.ok a, r)) : r.Ordered := by
  rw [Ordered, elements_of_next hnow, entries_of_next hnow, ← isCompleted_of_next hnow] at h
  exact (List.cons.inj h).2

/-- The end is expected with success if and only if the queue has ended and no element is left in
it, and then the queue stays as it is. -/
theorem Ordered.completion_eq_ok_iff [Element α] (h : q.Ordered) {timeout : Duration}
    {message : String} {u : Unit} : (completion timeout message).now q = (.ok u, r) ↔
      q.elements = [] ∧ q.isCompleted = true ∧ r = q := by
  have hline : q.line.toList =
      q.elements.map .element ++ if q.isCompleted then [.endMarker] else [] := h
  simp only [Expectation.now, completion]
  split
  next hempty =>
    have hnil : q.line.toList = [] := Fifo.isEmpty_iff.mp (by simpa using hempty)
    rw [hnil] at hline
    constructor
    · simp
    · rintro ⟨-, hended, -⟩
      simp [hended] at hline
  next =>
    split
    next rest hp =>
      rw [Fifo.toList_of_pop? hp] at hline
      rcases helements : q.elements with _ | ⟨a, as⟩ <;> rw [helements] at hline
      · cases hended : q.isCompleted <;> simp [hended] at hline
        simp [eq_comm]
      · simp at hline
    next a rest hp =>
      rw [Fifo.toList_of_pop? hp] at hline
      rcases helements : q.elements with _ | ⟨b, as⟩ <;> rw [helements] at hline
      · cases hended : q.isCompleted <;> simp [hended] at hline
      · simp
    next hp =>
      rw [Fifo.pop?_eq_none_iff.mp hp] at hline
      cases hended : q.isCompleted <;> simp [hended] at hline ⊢

/-- Silence is expected with success on a queue that has neither an element nor an end. -/
theorem of_silence [Element α] {within : Duration} {message : String}
    (h : (silence within message).now q = (.ok (), r)) :
    q.elements = [] ∧ q.isCompleted = false ∧ r = q := by
  simp only [Expectation.now, silence] at h
  split at h
  next hq =>
    simp only [Bool.not_eq_true', Bool.or_eq_false_iff] at hq
    have hnone : ∀ x ∈ q.entries, x.element? = none := by simpa using hq.1
    exact ⟨List.filterMap_eq_nil_iff.mpr hnone, hq.2, (Prod.mk.inj h).2.symm⟩
  next => split at h <;> simp at h

/-! ### The content of a queue that has not ended -/

/-- The queue has room for `capacity` elements, it has not ended, and it holds the elements `as`. -/
structure Holds (q : Queue α) (capacity : Nat) (as : List α) : Prop where
  capacity_eq : q.capacity = capacity
  isOpen : q.isCompleted = false
  entries_eq : q.entries = as.map .element

namespace Holds

variable {capacity : Nat} {a : α} {as : List α}

protected theorem empty (capacity : Nat) : (empty capacity : Queue α).Holds capacity [] :=
  ⟨rfl, rfl, rfl⟩

theorem of_ordered (h : q.Ordered) (hopen : q.isCompleted = false) :
    q.Holds q.capacity q.elements := by
  refine ⟨rfl, hopen, ?_⟩
  rw [h, hopen]
  simp

/-- The elements, and that they stand in front of an end marker that is not there. -/
theorem elements_and_ordered (h : q.Holds capacity as) : q.elements = as ∧ q.Ordered :=
  ordered_of_entries (by simp [h.entries_eq, h.isOpen])

theorem elements_eq (h : q.Holds capacity as) : q.elements = as := h.elements_and_ordered.1

theorem ordered (h : q.Holds capacity as) : q.Ordered := h.elements_and_ordered.2

theorem size_eq (h : q.Holds capacity as) : q.line.size = as.length := by
  rw [Fifo.size_eq_length, show q.line.toList = _ from h.entries_eq, List.length_map]

theorem add (h : q.Holds capacity as) (hroom : as.length < capacity) (a : α) :
    ∃ r, q.add a = (.ok (), r) ∧ r.Holds capacity (as ++ [a]) := by
  have hadd : q.add a = (.ok (), { q with line := q.line.push (.element a) }) := by
    rw [Queue.add, h.isOpen, if_neg Bool.false_ne_true, if_neg]
    rw [h.capacity_eq, h.size_eq]
    omega
  refine ⟨_, hadd, h.capacity_eq, h.isOpen, ?_⟩
  rw [entries_add hadd, h.entries_eq]
  simp

theorem add_full (h : q.Holds capacity as) (hfull : capacity ≤ as.length) (a : α) :
    q.add a = (.error (.overflow capacity), q) := by
  rw [Queue.add, h.isOpen, if_neg Bool.false_ne_true, if_pos, h.capacity_eq]
  rw [h.capacity_eq, h.size_eq]
  exact hfull

theorem next (h : q.Holds capacity (a :: as)) (timeout : Duration) (message : String) :
    ∃ r, (next timeout message).now q = (.ok a, r) ∧ r.Holds capacity as := by
  obtain ⟨line, hnow, hline⟩ := next_of_entries h.entries_eq timeout message
  exact ⟨_, hnow, h.capacity_eq, h.isOpen, hline⟩

/-- The time passes where an element is expected of a queue that has none. -/
theorem next_empty (h : q.Holds capacity []) (timeout : Duration) (message : String) :
    (Queue.next timeout message).now q = (.error (.timeout message timeout), q) := by
  have hempty : q.line.isEmpty = true := Fifo.isEmpty_iff.mpr h.entries_eq
  simp [Expectation.now, Queue.next, hempty]

theorem silence [Element α] (h : q.Holds capacity []) (timeout : Duration) (message : String) :
    (silence timeout message).now q = (.ok (), q) := by
  simp [Expectation.now, Queue.silence, h.entries_eq, h.isOpen]

theorem silence_broken [Element α] (h : q.Holds capacity (a :: as)) (timeout : Duration)
    (message : String) : ∃ text r,
      (Queue.silence timeout message).now q = (.error (.oversupply text), r) ∧
        r.Holds capacity as := by
  have hextract : q.line.extract? Queued.element? = some (a, .ofList (as.map .element)) :=
    Fifo.extract?_of_toList_eq_cons h.entries_eq rfl
  have hready : (q.entries.any fun x => x.element?.isSome) = true := by
    simp [h.entries_eq, Queued.element?]
  have hnow : (Queue.silence timeout message).now q =
      (.error (.oversupply (message ++ ": expected no element but got [" ++
        Element.debugText a ++ "]")), { q with line := .ofList (as.map .element) }) := by
    simp [Expectation.now, Queue.silence, hready, hextract]
  exact ⟨_, _, hnow, h.capacity_eq, h.isOpen, Fifo.toList_ofList _⟩

end Holds

end StreamConformance.Queue
