import StreamConformance.Cell.Queue

/-!
# Wider queues

A queue that is widened has room for more elements and is otherwise the same. What is expected of it
has the same outcome, and what it accepts is also accepted by the wider queue.

## Main definitions

* `Queue.widen` — the queue with room for more elements.
* `Expectation.Commutes` — an expectation that a change of its state does not disturb.

## Main results

* `Queue.add_widen` — a queue and the wider one go the same way, unless the queue overflows.
-/

namespace StreamConformance

namespace Expectation

variable {σ τ ρ ρ' : Type} {e : Expectation σ ρ} {f : σ → σ}

/-- Changing the state by `f` before the expectation or after it makes no difference: the same is
found, and the same state is left. -/
structure Commutes (e : Expectation σ ρ) (f : σ → σ) : Prop where
  ready : ∀ s, e.ready (f s) = e.ready s
  finish : ∀ found s, e.finish found (f s) = (e.finish found s).map id f

namespace Commutes

protected theorem id (e : Expectation σ ρ) : e.Commutes id := ⟨fun _ => rfl, fun _ _ => rfl⟩

theorem now (h : e.Commutes f) (s : σ) : e.now (f s) = (e.now s).map id f := by
  rw [Expectation.now, h.ready, h.finish]
  rfl

theorem cost (h : e.Commutes f) (s : σ) : e.cost (f s) = e.cost s := by
  rw [Expectation.cost, h.ready]
  rfl

/-- An expectation on a part commutes with what changes that part by `f`. -/
theorem onPart (h : e.Commutes f) {get : τ → σ} {set : τ → σ → τ} {g : τ → τ}
    (hget : ∀ t, get (g t) = f (get t)) (hset : ∀ t s, set (g t) (f s) = g (set t s)) :
    (e.onPart get set).Commutes g where
  ready t := by simp only [Expectation.onPart, hget, h.ready]
  finish found t := by simp only [Expectation.onPart, hget, h.finish, Prod.map, hset, id]

/-- Another verdict commutes with the same changes if it does not depend on them. -/
theorem judge (h : e.Commutes f) {verdict : σ → Except Violation ρ → Except Violation ρ'}
    (hverdict : ∀ s x, verdict (f s) x = verdict s x) : (e.judge verdict).Commutes f where
  ready := h.ready
  finish found s := by simp only [Expectation.judge, h.finish, Prod.map, hverdict, id]

end Commutes

end Expectation

namespace Queue

variable {α : Type} {q : Queue α}

/-- The queue with room for `d` more elements. -/
def widen (d : Nat) (q : Queue α) : Queue α := { q with capacity := q.capacity + d }

@[simp] theorem line_widen (d : Nat) (q : Queue α) : (q.widen d).line = q.line := rfl
@[simp] theorem isCompleted_widen (d : Nat) (q : Queue α) :
    (q.widen d).isCompleted = q.isCompleted := rfl
@[simp] theorem capacity_widen (d : Nat) (q : Queue α) :
    (q.widen d).capacity = q.capacity + d := rfl

/-- What does not overflow a queue is answered in the same way by the wider queue. -/
theorem add_widen (d : Nat) (a : α) (h : ∀ c, (q.add a).1 ≠ .error (.overflow c)) :
    (q.widen d).add a = (q.add a).map id (widen d) := by
  by_cases hended : q.isCompleted = true
  · simp [add, hended]
  · by_cases hfull : q.line.size ≥ q.capacity
    · simp [add, hended, hfull] at h
    · have hroom : ¬ q.line.size ≥ q.capacity + d := by omega
      simp only [add, isCompleted_widen, line_widen, capacity_widen, hended, hfull, hroom,
        Bool.false_eq_true, ↓reduceIte, Prod.map, id]
      rfl

theorem complete_widen (d : Nat) (q : Queue α) :
    (q.widen d).complete = q.complete.map id (widen d) := by
  unfold complete
  rw [isCompleted_widen]
  split <;> rfl

/-! ### Expectations -/

theorem next_commutes (timeout : Duration) (message : String) (d : Nat) :
    (next timeout message : Expectation (Queue α) α).Commutes (widen d) where
  ready _ := rfl
  finish found q := by
    simp only [next, line_widen]
    split
    · rfl
    · split <;> rfl

theorem completion_commutes [Element α] (timeout : Duration) (message : String) (d : Nat) :
    (completion timeout message : Expectation (Queue α) Unit).Commutes (widen d) where
  ready _ := rfl
  finish found q := by
    simp only [completion, line_widen]
    split
    · rfl
    · split <;> rfl

theorem silence_commutes [Element α] (within : Duration) (message : String) (d : Nat) :
    (silence within message : Expectation (Queue α) Unit).Commutes (widen d) where
  ready _ := rfl
  finish found q := by
    simp only [silence, line_widen]
    split
    · rfl
    · split <;> rfl

end Queue

end StreamConformance
