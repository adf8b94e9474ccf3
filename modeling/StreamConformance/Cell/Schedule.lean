import StreamConformance.Expectation

/-!
# Schedules

A schedule is a cell with changes that other threads will make to it at known times. Time passes
only while somebody waits: a wait ends when its predicate holds, which may be as soon as a change
has been made, or else at its deadline.

## Main definitions

* `Schedule` — a state, the present time and the changes to come.
* `Schedule.later` — plan a change.
* `Schedule.await` — await an expectation while the planned changes are made.
-/

namespace StreamConformance

/-- A change that is made at some time. -/
structure PlannedChange (σ : Type) where
  due : Duration
  change : σ → σ

/-- A state with the changes that are to come, in the order in which they are due. -/
structure Schedule (σ : Type) where
  state : σ
  now : Duration
  planned : List (PlannedChange σ)

namespace Schedule

variable {σ ρ : Type}

/-- A state without any change to come. -/
def ofState (s : σ) : Schedule σ := ⟨s, .zero, []⟩

/-- A change of the state at once. -/
def update (f : σ → ρ × σ) (s : Schedule σ) : ρ × Schedule σ :=
  let r := f s.state
  (r.1, { s with state := r.2 })

/-- Whether a change is due at a time or before. -/
def isDueBy (time : Duration) (c : PlannedChange σ) : Bool := c.due.nanos ≤ time.nanos

/-- Enters a change behind all that are due by its time. -/
def enter (c : PlannedChange σ) (planned : List (PlannedChange σ)) : List (PlannedChange σ) :=
  planned.takeWhile (isDueBy c.due) ++ c :: planned.dropWhile (isDueBy c.due)

/-- Plans a change after some time. -/
def later (after : Duration) (change : σ → σ) (s : Schedule σ) : Schedule σ :=
  { s with planned := enter ⟨s.now.add after, change⟩ s.planned }

/-- Awaits an expectation: each planned change that is due before the deadline wakes the waiter. -/
def await (e : Expectation σ ρ) (s : Schedule σ) : Except Violation ρ × Schedule σ :=
  let deadline := s.now.add e.timeout
  let due := s.planned.takeWhile (isDueBy deadline)
  let w := Wait.run e.ready s.state (due.map (·.change)) id
  let r := e.finish w.satisfied w.state
  let now :=
    if w.satisfied then
      match due[w.wakeups - 1]? with
      | some c => if w.wakeups = 0 then s.now else c.due
      | none => s.now
    else deadline
  (r.1, ⟨r.2, now, s.planned.drop w.wakeups⟩)

end Schedule

end StreamConformance
