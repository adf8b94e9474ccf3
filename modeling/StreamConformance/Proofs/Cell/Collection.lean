import Mathlib.Data.List.Induction
import StreamConformance.Cell.Schedule
import StreamConformance.Proofs.Cell.BoundedSequence

/-!
# Taking several elements

Several elements are taken from a queue one after the other, and each of them is waited for while
other threads write to the queue. The first one that does not come is a failure, and the failure
says only what has been waited for. It comes when nothing is left in the queue: so everything that
has been in the queue, and everything that has come in time, has been taken by then, and is neither
given back nor named.

## Main definitions

* `QueueWrite`, `Schedule.writing` — what other threads write, and a queue to which they will.
* `Queue.after` — a queue on which some calls have been made.
* `Queue.Collected` — what has become of the elements.

## Main results

* `Wait.run_eq`, `Schedule.await_eq` — a wait sees some of the changes to come, and what it finds is
  so in the state at its end.
* `Queue.collected_after` — what becomes of the elements, after any calls, whatever is written.
* `Queue.unreturned_of_short` — a failure drops an element.
-/

namespace StreamConformance

/-! ### Waits -/

section Wait

variable {σ ρ : Type}

/-- A wait ends after some of the changes, and the predicate is found to hold if and only if it
holds in the state at the end. -/
theorem Wait.run_eq (ready : σ → Bool) (s : σ) (changes : List (σ → σ)) :
    let w := Wait.run ready s changes id
    w.wakeups ≤ changes.length ∧ w.state = (changes.take w.wakeups).foldl (fun t f => f t) s ∧
      w.satisfied = ready w.state := by
  refine and_assoc.mp ⟨?_, Wait.satisfied_run ready s changes id⟩
  induction changes generalizing s with
  | nil =>
    rw [Wait.run]
    split <;> exact ⟨Nat.le_refl _, rfl⟩
  | cons f changes ih =>
    rw [Wait.run]
    split
    next => exact ⟨Nat.zero_le _, rfl⟩
    next =>
      obtain ⟨hle, hstate⟩ := ih (f s)
      exact ⟨Nat.succ_le_succ hle, hstate⟩

/-- An expectation that is awaited is decided on the state after the first of the planned changes;
the others remain. -/
theorem Schedule.await_eq (e : Expectation σ ρ) (s : Schedule σ) : ∃ made now,
    s.await e = (let d := e.now ((s.planned.take made).foldl (fun t c => c.change t) s.state)
      (d.1, ⟨d.2, now, s.planned.drop made⟩)) := by
  let due := s.planned.takeWhile (isDueBy (s.now.add e.timeout))
  let w := Wait.run e.ready s.state (due.map (·.change)) id
  obtain ⟨hle, hstate, hsatisfied⟩ := Wait.run_eq e.ready s.state (due.map (·.change))
  have htake : due = s.planned.take due.length :=
    List.prefix_iff_eq_take.mp (List.takeWhile_prefix _)
  have hdue : due.take w.wakeups = s.planned.take w.wakeups := by
    rw [htake, List.take_take, Nat.min_eq_left (by simpa using hle)]
  have hend : w.state = (s.planned.take w.wakeups).foldl (fun t c => c.change t) s.state := by
    rw [← hdue, hstate, ← List.map_take, List.foldl_map]
  refine ⟨w.wakeups, (s.await e).2.now, ?_⟩
  rw [← hend, Expectation.now, ← show w.satisfied = e.ready w.state from hsatisfied]
  rfl

/-- Where nothing is planned, elements are collected from a schedule as from its state. -/
theorem Schedule.collect_await_of_idle (e : Expectation σ ρ) (n : Nat) (s : Schedule σ)
    (h : s.planned = []) : ∃ now, Expectation.collect (Schedule.await e) n s =
      (let d := Expectation.collect e.now n s.state
      (d.1, ⟨d.2, now, []⟩)) := by
  induction n generalizing s with
  | zero => exact ⟨s.now, by rw [Expectation.collect, Expectation.collect, ← h]⟩
  | succ n ih =>
    obtain ⟨made, now, hawait⟩ := s.await_eq e
    rw [h, List.take_nil, List.drop_nil, List.foldl_nil] at hawait
    rw [Expectation.collect, Expectation.collect, hawait]
    rcases e.now s.state with ⟨x | a, t⟩
    · exact ⟨now, rfl⟩
    · obtain ⟨later, hrest⟩ := ih ⟨t, now, []⟩ rfl
      refine ⟨later, ?_⟩
      dsimp only
      rw [hrest]
      rcases Expectation.collect e.now n t with ⟨x | as, t'⟩ <;> rfl

end Wait

/-! ### Writes -/

variable {α : Type}

/-- What other threads write to a queue. -/
inductive QueueWrite (α : Type) where
  | add (a : α)
  | complete

namespace QueueWrite

/-- The queue afterwards; what it refuses is not written. -/
def apply : QueueWrite α → Queue α → Queue α
  | add a, q => (q.add a).2
  | complete, q => q.complete.2

/-- The element that is written, if any. -/
def element? : QueueWrite α → Option α
  | add a => some a
  | complete => none

theorem elements_apply {q : Queue α} (h : q.Ordered) (w : QueueWrite α) : (w.apply q).Ordered ∧
    ∃ arrived, arrived.Sublist w.element?.toList ∧
      (w.apply q).elements = q.elements ++ arrived := by
  cases w with
  | complete => exact ⟨h.complete, [], List.Sublist.refl _, by simp [apply]⟩
  | add a =>
    refine ⟨h.add a, ?_⟩
    rcases hadd : q.add a with ⟨x | ⟨⟩, r⟩
    · have hsame : r = q := by
        unfold Queue.add at hadd
        grind
      exact ⟨[], List.nil_sublist _, by simp [apply, hadd, hsame]⟩
    · exact ⟨[a], List.Sublist.refl _, by simp [apply, hadd, Queue.elements_add hadd]⟩

/-- Writes add elements at the end, those of them that the queue accepts. -/
theorem elements_foldl_apply {q : Queue α} (h : q.Ordered) (writes : List (QueueWrite α)) :
    (writes.foldl (fun r w => w.apply r) q).Ordered ∧
      ∃ arrived, arrived.Sublist (writes.filterMap element?) ∧
        (writes.foldl (fun r w => w.apply r) q).elements = q.elements ++ arrived := by
  induction writes generalizing q with
  | nil => exact ⟨h, [], List.Sublist.refl _, (List.append_nil _).symm⟩
  | cons w writes ih =>
    obtain ⟨hordered, first, hfirst, helements⟩ := w.elements_apply h
    obtain ⟨hlast, rest, hrest, hall⟩ := ih hordered
    refine ⟨hlast, first ++ rest, ?_, by rw [List.foldl_cons, hall, helements, List.append_assoc]⟩
    rw [← List.singleton_append, List.filterMap_append]
    exact (hfirst.trans (by cases w <;> simp [element?])).append hrest

end QueueWrite

namespace Schedule

/-- A queue to which other threads will write, each write at its time. -/
def writing (q : Queue α) (now : Duration) (writes : List (Duration × QueueWrite α)) :
    Schedule (Queue α) :=
  ⟨q, now, writes.map fun w => ⟨w.1, w.2.apply⟩⟩

/-- An expectation on a queue is decided after the first writes, when the queue has some more
elements; the other writes are made later. -/
theorem await_writing {ρ : Type} (e : Expectation (Queue α) ρ) {q : Queue α} (h : q.Ordered)
    (now : Duration) (writes : List (Duration × QueueWrite α)) :
    ∃ made left arrived r later, writes = made ++ left ∧
      arrived.Sublist (made.filterMap fun w => w.2.element?) ∧
      r.Ordered ∧ r.elements = q.elements ++ arrived ∧
      (writing q now writes).await e = ((e.now r).1, writing (e.now r).2 later left) := by
  obtain ⟨made, later, hawait⟩ := (writing q now writes).await_eq e
  obtain ⟨hordered, arrived, hsublist, helements⟩ :=
    QueueWrite.elements_foldl_apply h ((writes.take made).map Prod.snd)
  refine ⟨writes.take made, writes.drop made, arrived, _, later,
    (List.take_append_drop made writes).symm, ?_, hordered, helements, ?_⟩
  · rwa [List.filterMap_map] at hsublist
  · rw [hawait, List.foldl_map]
    simp only [writing, ← List.map_take, ← List.map_drop, List.foldl_map]

end Schedule

namespace Queue

/-! ### Elements -/

/-- What is wrong where an element is expected of a queue without elements. -/
def vacancy (timeout : Duration) (message : String) (q : Queue α) : Violation :=
  if q.isCompleted then BoundedSequence.endForElement message else .timeout message timeout

/-- How taking `n` elements from the queue `q` ends, and in which queue, if the elements `arrived`
come meanwhile. -/
inductive Collected (timeout : Duration) (message : String) (n : Nat) (q : Queue α)
    (arrived : List α) : Except Violation (List α) → Queue α → Prop where
  /-- The first elements are given back, and the others are left. -/
  | returned {as : List α} {r : Queue α} (hlength : as.length = n)
    (helements : q.elements ++ arrived = as ++ r.elements) :
    Collected timeout message n q arrived (.ok as) r
  /-- There are too few elements. None of them is given back, none is left, and what is wrong is
  said without them. -/
  | dropped {r : Queue α} (hlength : (q.elements ++ arrived).length < n) (hnone : r.elements = []) :
    Collected timeout message n q arrived (.error (r.vacancy timeout message)) r

theorem Ordered.next_cases {q : Queue α} (h : q.Ordered) (timeout : Duration) (message : String) :
    (∃ a r, (Queue.next timeout message).now q = (.ok a, r) ∧ r.Ordered ∧
      q.elements = a :: r.elements) ∨
    q.elements = [] ∧
      (Queue.next timeout message).now q = (.error (q.vacancy timeout message), q) := by
  obtain ⟨hview, -⟩ := h.next_view timeout message
  rcases hnow : (Queue.next timeout message).now q with ⟨x | a, r⟩
  · obtain rfl := of_next_error hnow
    rw [hnow, BoundedSequence.next] at hview
    cases helements : r.elements with
    | nil =>
      refine .inr ⟨rfl, ?_⟩
      simpa [view, helements, vacancy] using hview
    | cons a rest => simp [view, helements] at hview
  · exact .inl ⟨a, r, rfl, h.next hnow, elements_of_next hnow⟩

/-- What becomes of the elements of an ordered queue. For each of them some of the writes are
awaited. -/
theorem Ordered.collected {q : Queue α} (h : q.Ordered) (timeout : Duration) (message : String)
    (n : Nat) (now : Duration) (writes : List (Duration × QueueWrite α)) :
    ∃ made left arrived result r later, writes = made ++ left ∧
      arrived.Sublist (made.filterMap fun w => w.2.element?) ∧
      Expectation.collect (Schedule.await (Queue.next timeout message)) n (.writing q now writes) =
        (result, .writing r later left) ∧
      Collected timeout message n q arrived result r := by
  induction n generalizing q now writes with
  | zero =>
    exact ⟨[], writes, [], .ok [], q, now, rfl, List.Sublist.refl _, rfl,
      .returned rfl (List.append_nil _)⟩
  | succ n ih =>
    obtain ⟨made, left, arrived, q₁, time, rfl, hsublist, hordered, helements, hawait⟩ :=
      Schedule.await_writing (Queue.next timeout message) h now writes
    rw [Expectation.collect, hawait]
    obtain ⟨a, r, hnow, hr, hfirst⟩ | ⟨hnone, hnow⟩ := hordered.next_cases timeout message
    · obtain ⟨made', left', arrived', result, r', later, rfl, hsublist', hcollect, hrest⟩ :=
        ih hr time left
      have hall : q.elements ++ (arrived ++ arrived') = a :: (r.elements ++ arrived') := by
        rw [← List.append_assoc, ← helements, hfirst, List.cons_append]
      have hboth : (arrived ++ arrived').Sublist
          ((made ++ made').filterMap fun w => w.2.element?) := by
        rw [List.filterMap_append]
        exact hsublist.append hsublist'
      rw [hnow]
      dsimp only
      rw [hcollect]
      cases hrest with
      | @returned as _ hlength hsplit =>
        refine ⟨made ++ made', left', _, .ok (a :: as), r', later, by rw [List.append_assoc],
          hboth, rfl, .returned (congrArg Nat.succ hlength) ?_⟩
        rw [hall, hsplit, List.cons_append]
      | dropped hlength hnone =>
        refine ⟨made ++ made', left', _, _, r', later, by rw [List.append_assoc], hboth, rfl,
          .dropped ?_ hnone⟩
        rw [hall]
        exact Nat.succ_lt_succ hlength
    · rw [hnow]
      refine ⟨made, left, arrived, _, q₁, time, rfl, hsublist, rfl, .dropped ?_ hnone⟩
      rw [← helements, hnone]
      exact Nat.succ_pos n

section Calls

variable [Element α]

/-- A queue that has been made empty, and on which calls have been made since. -/
def after (capacity : Nat) (calls : List (QueueCall α)) : Queue α :=
  calls.foldl (fun q c => (c.answer q).2) (empty capacity)

/-- Whatever is called on a queue, its elements stand in front of its end marker. -/
theorem ordered_after (capacity : Nat) (calls : List (QueueCall α)) :
    (after capacity calls).Ordered := by
  unfold after
  induction calls using List.reverseRecOn with
  | nil => exact ordered_empty capacity
  | append_singleton calls c ih =>
    rw [List.foldl_append]
    exact (c.answer_view ih).2

/-- Taking several elements, after any calls on the queue: either they are given back and the others
are left, or there are too few, and those that there have been are neither given back nor named nor
left. It is the same while other threads write, with the elements that come in time. -/
theorem collected_after (capacity : Nat) (calls : List (QueueCall α)) (timeout : Duration)
    (message : String) (n : Nat) (now : Duration) (writes : List (Duration × QueueWrite α)) :
    let q := after capacity calls
    (let d := nextN timeout message n q
    Collected timeout message n q [] d.1 d.2) ∧
      ∃ made left arrived, writes = made ++ left ∧
        arrived.Sublist (made.filterMap fun w => w.2.element?) ∧
        let d := Expectation.collect (Schedule.await (next timeout message)) n
          (.writing q now writes)
        Collected timeout message n q arrived d.1 d.2.state := by
  intro q
  have hordered : q.Ordered := ordered_after capacity calls
  constructor
  · obtain ⟨made, left, arrived, result, r, later, hwrites, hsublist, hcollect, hcollected⟩ :=
      hordered.collected timeout message n now []
    obtain ⟨rfl, rfl⟩ := List.append_eq_nil_iff.mp hwrites.symm
    obtain rfl : arrived = [] := List.sublist_nil.mp hsublist
    obtain ⟨time, hidle⟩ :=
      Schedule.collect_await_of_idle (next timeout message) n (.writing q now []) rfl
    have hnextN : nextN timeout message n q = (result, r) := by
      rw [hcollect] at hidle
      exact Prod.ext (congrArg Prod.fst hidle).symm (congrArg (·.2.state) hidle).symm
    rw [hnextN]
    exact hcollected
  · obtain ⟨made, left, arrived, result, r, later, hwrites, hsublist, hcollect, hcollected⟩ :=
      hordered.collected timeout message n now writes
    refine ⟨made, left, arrived, hwrites, hsublist, ?_⟩
    rw [hcollect]
    exact hcollected

end Calls

/-- Not every element that is taken is given back, named or left: where two are to be taken, the
only one that there is is not. -/
theorem unreturned_of_short : ¬∀ (capacity : Nat) (calls : List (QueueCall UInt64))
    (timeout : Duration) (message : String) (n : Nat),
      let q := after capacity calls
      let d := nextN timeout message n q
      (∀ as, d.1 = .ok as → q.elements = as ++ d.2.elements) ∧
        ∀ x, d.1 = .error x → ∀ a ∈ q.elements,
          a ∈ d.2.elements ∨ Text.occursIn (Element.debugText a) x.message = true := by
  intro h
  obtain ⟨-, herror⟩ := h 4 [.add 7] (.ofMicros 500) "msg" 2
  rcases herror (.timeout "msg" (.ofMicros 500)) rfl 7 List.mem_cons_self with hleft | hnamed
  · exact List.not_mem_nil hleft
  · revert hnamed
    decide +kernel

end Queue

end StreamConformance
