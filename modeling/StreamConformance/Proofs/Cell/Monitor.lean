import StreamConformance.Expectation

/-!
# Threads that wait on a shared cell

Threads share a cell behind a lock. A thread that expects something of the cell tests its predicate
while it has the lock. If the predicate does not hold, the thread gives up the lock and blocks until
it is woken, by a notification or for no reason, or until its deadline has passed; when it has the
lock again it tests the predicate once more, after the deadline for the last time. Between two tests
the cell may change in any way: other threads write to it, or take from it what they expect. Neither
a notification nor the deadline says anything of the cell, which may have changed again before the
thread that they wake has the lock.

All the same a wait is satisfied if and only if its predicate holds at the last test, and it is
given up only after the deadline. What follows the last test is done before the lock is given up, so
an expectation is decided as if it had been made at that moment and nothing else had happened.

## Main definitions

* `CellCalls` — what can be called on a cell.
* `Waiter`, `WaitReturn` — a call that waits, and a call that has returned.
* `Monitor`, `MonitorEvent` — a cell with the threads that wait on it, and what may happen.
* `Monitor.step`, `Monitor.run` — what comes of an event, and of one event after the other.
* `WaitReturn.Decided` — how a call that has returned has been decided.

## Main results

* `Wait.state_run_through` — where a wait ends that sees some states one after the other.
* `Waiter.Sound.decided`, `Monitor.Sound.step` — a call that returns is decided, and every event
  keeps the calls sound.
* `Monitor.sound_run` — every run is sound, and what every call keeps holds whenever a call returns.
-/

namespace StreamConformance

/-! ### Waits that see some states -/

/-- Interference that shows a wait the states `seen` at its wake-ups and then the state `last`: at
the deadline if the time has run out, and otherwise at one more wake-up. -/
def Interference.through {σ : Type} (seen : List σ) (last : σ) (timedOut : Bool) :
    Interference σ :=
  if timedOut then ⟨seen.map fun s _ => s, fun _ => last⟩
  else ⟨(seen ++ [last]).map fun s _ => s, id⟩

namespace Wait

variable {σ : Type} {ready : σ → Bool}

/-- A wait that sees some states in vain, and then a last one, ends there. -/
theorem state_run_through {tested : List σ} (hvain : ∀ s ∈ tested, ready s = false) (last : σ)
    (timedOut : Bool) :
    let i := Interference.through tested.tail last timedOut
    (run ready (tested.headD last) i.wakeups i.deadline).state = last := by
  induction tested with
  | nil =>
    cases hready : ready last <;> cases timedOut <;> simp [Interference.through, run, hready]
  | cons first seen ih =>
    have hfirst : ready first = false := hvain first List.mem_cons_self
    have hrest := ih fun s hs => hvain s (List.mem_cons_of_mem _ hs)
    cases seen with
    | nil =>
      cases hready : ready last <;> cases timedOut <;>
        simp [Interference.through, run, hfirst, hready]
    | cons s seen => cases timedOut <;> simpa [Interference.through, run, hfirst] using hrest

end Wait

/-! ### Calls -/

/-- What can be called on a shared cell: calls that are over at once, and calls that wait, each of
which has an answer of its own kind. -/
structure CellCalls (σ ω κ : Type) (ρ : κ → Type) where
  /-- What a call that is over at once makes of the cell. -/
  write : ω → σ → σ
  /-- What a call that waits expects of the cell. -/
  expect : (c : κ) → Expectation σ (ρ c)

/-- Where a thread stands that waits. -/
inductive WaitPhase where
  /-- The thread has begun or has been woken, and tests the predicate when it has the lock. -/
  | awake
  /-- The thread has given up the lock. -/
  | blocked
  /-- The deadline has passed while the thread was blocked; it tests the predicate for the last time
  when it has the lock. -/
  | expired
  deriving DecidableEq

/-- A call that waits. -/
structure Waiter (σ κ : Type) where
  call : κ
  /-- The time at which the call was made. -/
  began : Duration
  /-- The states in which the predicate has been tested in vain, in order. -/
  tested : List σ
  phase : WaitPhase

/-- A call that waited and has returned. -/
structure WaitReturn (σ κ : Type) (ρ : κ → Type) where
  /-- The call as it was before the last test of the predicate. -/
  waiter : Waiter σ κ
  /-- The time at which the call returned. -/
  clock : Duration
  /-- Whether the wait was satisfied. -/
  found : Bool
  /-- The state in which the predicate was tested for the last time. -/
  before : σ
  answer : Except Violation (ρ waiter.call)
  /-- The state in which the call returned. -/
  after : σ

variable {σ ω κ : Type} {ρ : κ → Type} (u : CellCalls σ ω κ ρ)

namespace Waiter

/-- The time at which the call gives up. -/
def deadline (w : Waiter σ κ) : Duration := w.began.add (u.expect w.call).timeout

/-- Wakes the thread, if it is blocked. -/
def wake (w : Waiter σ κ) : Waiter σ κ :=
  if w.phase = .blocked then { w with phase := .awake } else w

/-- Ends the blocking of the thread, if its deadline has passed by `clock`. -/
def expire (clock : Duration) (w : Waiter σ κ) : Waiter σ κ :=
  if w.phase = .blocked ∧ (w.deadline u).nanos ≤ clock.nanos then { w with phase := .expired }
  else w

/-- Blocks the thread after a test of the predicate in the state `s`. -/
def block (s : σ) (w : Waiter σ κ) : Waiter σ κ :=
  { w with tested := w.tested ++ [s], phase := .blocked }

end Waiter

/-! ### Cells with waiting threads -/

/-- What may happen to a shared cell; threads are known by numbers. A write and its notification are
two events, so a notification may come late, or to threads that it does not concern, or never. -/
inductive MonitorEvent (ω κ : Type) where
  /-- A call that is over at once is made. -/
  | write (w : ω)
  /-- All threads that are blocked are woken. -/
  | notify
  /-- A thread that is blocked is woken for no reason. -/
  | spurious (thread : Nat)
  /-- Time passes. -/
  | elapse (d : Duration)
  /-- A thread that is blocked notices that its deadline has passed. -/
  | expire (thread : Nat)
  /-- A thread that does not wait makes a call that waits. -/
  | call (thread : Nat) (c : κ)
  /-- A thread that waits and is not blocked has the lock again. -/
  | resume (thread : Nat)

/-- A shared cell, the time, the calls that wait, by their threads, and the calls that have waited
and returned. -/
structure Monitor (σ κ : Type) (ρ : κ → Type) where
  state : σ
  clock : Duration
  waiters : Nat → Option (Waiter σ κ)
  returns : List (WaitReturn σ κ ρ)

namespace Monitor

/-- A cell on which nobody waits. -/
def start (s : σ) : Monitor σ κ ρ := ⟨s, .zero, fun _ => none, []⟩

/-- Changes what a thread waits for. -/
def update (m : Monitor σ κ ρ) (thread : Nat)
    (f : Option (Waiter σ κ) → Option (Waiter σ κ)) : Monitor σ κ ρ :=
  { m with waiters := fun k => if k = thread then f (m.waiters k) else m.waiters k }

/-- The wait of a thread that has the lock returns `found`; what follows is done, and the call
returns. -/
def leave (m : Monitor σ κ ρ) (thread : Nat) (w : Waiter σ κ) (found : Bool) : Monitor σ κ ρ :=
  let d := (u.expect w.call).finish found m.state
  { m.update thread fun _ => none with
    state := d.2
    returns := m.returns ++ [⟨w, m.clock, found, m.state, d.1, d.2⟩] }

/-- A thread that has the lock tests its predicate. After its deadline the wait returns what is
found; before, it returns if the predicate holds, and otherwise the thread blocks. -/
def test (m : Monitor σ κ ρ) (thread : Nat) (w : Waiter σ κ) : Monitor σ κ ρ :=
  match w.phase with
  | .expired => m.leave u thread w ((u.expect w.call).ready m.state)
  | .awake | .blocked =>
    if (u.expect w.call).ready m.state then m.leave u thread w true
    else m.update thread fun _ => some (w.block m.state)

/-- What comes of an event; an event that cannot happen does nothing. -/
def step (m : Monitor σ κ ρ) : MonitorEvent ω κ → Monitor σ κ ρ
  | .write w => { m with state := u.write w m.state }
  | .notify => { m with waiters := fun k => (m.waiters k).map Waiter.wake }
  | .spurious thread => m.update thread (·.map Waiter.wake)
  | .elapse d => { m with clock := m.clock.add d }
  | .expire thread => m.update thread (·.map (Waiter.expire u m.clock))
  | .call thread c =>
    match m.waiters thread with
    | some _ => m
    | none => m.test u thread ⟨c, m.clock, [], .awake⟩
  | .resume thread =>
    match m.waiters thread with
    | some w => if w.phase = .blocked then m else m.test u thread w
    | none => m

/-- What comes of events, one after the other, on a cell in the state `s`. -/
def run (s : σ) (events : List (MonitorEvent ω κ)) : Monitor σ κ ρ :=
  events.foldl (step u) (start s)

end Monitor

/-! ### Decisions -/

namespace WaitReturn

/-- The state in which the predicate was tested for the first time. -/
def first (r : WaitReturn σ κ ρ) : σ := r.waiter.tested.headD r.before

/-- What the call saw of other threads. -/
def interference (r : WaitReturn σ κ ρ) : Interference σ :=
  .through r.waiter.tested.tail r.before (r.waiter.phase = .expired)

/-- The wait that sees the same states as the call. -/
def wait (r : WaitReturn σ κ ρ) : Wait σ :=
  .run (u.expect r.waiter.call).ready r.first r.interference.wakeups r.interference.deadline

/-- How a call that has returned has been decided. -/
structure Decided (r : WaitReturn σ κ ρ) : Prop where
  /-- No earlier test has found that the predicate holds. -/
  vain : ∀ s ∈ r.waiter.tested, (u.expect r.waiter.call).ready s = false
  /-- If the wait was satisfied, its predicate held at the last test. -/
  satisfied : r.found = true → (u.expect r.waiter.call).ready r.before = true
  /-- If the wait was given up, its predicate did not hold there, and the deadline had passed. -/
  expired : r.found = false → (u.expect r.waiter.call).ready r.before = false ∧
    (r.waiter.deadline u).nanos ≤ r.clock.nanos
  /-- The wait that sees the same states finds the same and ends in the same state. -/
  wait : (r.wait u).satisfied = r.found ∧ (r.wait u).state = r.before
  /-- The expectation is decided as it is under what the call saw of other threads. -/
  during : (u.expect r.waiter.call).during r.interference r.first = (r.answer, r.after)
  /-- The expectation is decided as if it had been made at the last test. -/
  now : (u.expect r.waiter.call).now r.before = (r.answer, r.after)

end WaitReturn

variable {u}

/-- The predicate has been tested in vain so far, and the time has run out only after the
deadline. -/
structure Waiter.Sound (u : CellCalls σ ω κ ρ) (clock : Duration) (w : Waiter σ κ) : Prop where
  vain : ∀ s ∈ w.tested, (u.expect w.call).ready s = false
  expired : w.phase = .expired → (w.deadline u).nanos ≤ clock.nanos

namespace Waiter.Sound

variable {clock : Duration} {w : Waiter σ κ}

theorem wake (h : w.Sound u clock) : w.wake.Sound u clock := by
  unfold Waiter.wake
  split
  · exact ⟨h.vain, nofun⟩
  · exact h

theorem expire (h : w.Sound u clock) : (w.expire u clock).Sound u clock := by
  unfold Waiter.expire
  split
  next hpassed => exact ⟨h.vain, fun _ => hpassed.2⟩
  next => exact h

theorem elapse (h : w.Sound u clock) (d : Duration) : w.Sound u (clock.add d) :=
  ⟨h.vain, fun hphase => Nat.le_trans (h.expired hphase) (Nat.le_add_right _ _)⟩

theorem block (h : w.Sound u clock) {s : σ} (hs : (u.expect w.call).ready s = false) :
    (w.block s).Sound u clock := by
  refine ⟨fun t ht => ?_, nofun⟩
  rcases List.mem_append.mp ht with ht | ht
  · exact h.vain t ht
  · rw [List.mem_singleton.mp ht]
    exact hs

theorem begun (c : κ) (clock : Duration) :
    (⟨c, clock, [], .awake⟩ : Waiter σ κ).Sound u clock :=
  ⟨nofun, nofun⟩

/-- A sound call that is over at its test is decided. -/
theorem decided (h : w.Sound u clock) {s : σ}
    (hover : (u.expect w.call).ready s = true ∨ w.phase = .expired)
    {answer : Except Violation (ρ w.call)} {after : σ}
    (hnow : (u.expect w.call).now s = (answer, after)) :
    (⟨w, clock, (u.expect w.call).ready s, s, answer, after⟩ : WaitReturn σ κ ρ).Decided u := by
  let r : WaitReturn σ κ ρ := ⟨w, clock, (u.expect w.call).ready s, s, answer, after⟩
  have hstate : (r.wait u).state = s := Wait.state_run_through h.vain s _
  have hsatisfied : (r.wait u).satisfied = (u.expect w.call).ready s := by
    rw [WaitReturn.wait, Wait.satisfied_run]
    exact congrArg _ hstate
  refine ⟨h.vain, id, fun hfound => ⟨hfound, h.expired (hover.resolve_left ?_)⟩,
    ⟨hsatisfied, hstate⟩, ?_, hnow⟩
  · rw [show (u.expect w.call).ready s = false from hfound]
    exact Bool.false_ne_true
  · change (u.expect w.call).finish (r.wait u).satisfied (r.wait u).state = _
    rw [hsatisfied, hstate]
    exact hnow

end Waiter.Sound

/-! ### Runs -/

/-- What no call on a cell breaks, whether it is over at once or waits. -/
structure CellCalls.Keeps (u : CellCalls σ ω κ ρ) (P : σ → Prop) : Prop where
  write : ∀ w s, P s → P (u.write w s)
  expect : ∀ c s, P s → P ((u.expect c).now s).2

namespace Monitor

variable {P : σ → Prop} {m : Monitor σ κ ρ}

/-- The calls that wait are sound, those that have returned are decided, and `P` holds of the cell
now and held at every last test. -/
structure Sound (u : CellCalls σ ω κ ρ) (P : σ → Prop) (m : Monitor σ κ ρ) : Prop where
  state : P m.state
  waiting : ∀ k w, m.waiters k = some w → w.Sound u m.clock
  returned : ∀ r ∈ m.returns, r.Decided u ∧ P r.before

namespace Sound

theorem start {s : σ} (hs : P s) : (start s : Monitor σ κ ρ).Sound u P := ⟨hs, nofun, nofun⟩

/-- A cell stays sound while what one thread waits for changes soundly. -/
theorem update (h : m.Sound u P) (thread : Nat) {f : Option (Waiter σ κ) → Option (Waiter σ κ)}
    (hf : ∀ w, f (m.waiters thread) = some w → w.Sound u m.clock) :
    (m.update thread f).Sound u P := by
  refine ⟨h.state, fun k w hw => ?_, h.returned⟩
  simp only [Monitor.update] at hw
  split at hw
  next hk => exact hf w (hk ▸ hw)
  next => exact h.waiting k w hw

/-- A cell stays sound while the blocking of one thread ends soundly. -/
theorem update_map (h : m.Sound u P) (thread : Nat) {f : Waiter σ κ → Waiter σ κ}
    (hf : ∀ w, w.Sound u m.clock → (f w).Sound u m.clock) :
    (m.update thread (·.map f)).Sound u P := by
  refine h.update thread fun w hw => ?_
  obtain ⟨w', hw', rfl⟩ := Option.map_eq_some_iff.mp hw
  exact hf w' (h.waiting thread w' hw')

/-- A cell stays sound when a wait returns what its predicate says, which it does at once only if
the predicate holds. -/
theorem leave (hu : u.Keeps P) (h : m.Sound u P) (thread : Nat) {w : Waiter σ κ}
    (hw : w.Sound u m.clock) {found : Bool} (hfound : found = (u.expect w.call).ready m.state)
    (hover : found = true ∨ w.phase = .expired) : (m.leave u thread w found).Sound u P := by
  subst hfound
  have hfree := h.update thread (f := fun _ => none) nofun
  refine ⟨hu.expect w.call m.state h.state, hfree.waiting, fun r hr => ?_⟩
  rcases List.mem_append.mp hr with hr | hr
  · exact h.returned r hr
  · rw [List.mem_singleton.mp hr]
    exact ⟨hw.decided hover rfl, h.state⟩

/-- A cell stays sound when a thread tests its predicate: its wait returns, or the predicate has
been tested in vain once more. -/
theorem test (hu : u.Keeps P) (h : m.Sound u P) (thread : Nat) {w : Waiter σ κ}
    (hw : w.Sound u m.clock) : (m.test u thread w).Sound u P := by
  unfold Monitor.test
  split
  next hphase => exact h.leave hu thread hw rfl (.inr hphase)
  all_goals
    split
    next hready => exact h.leave hu thread hw hready.symm (.inl rfl)
    next hready =>
      refine h.update thread fun w' hw' => ?_
      rw [← Option.some.inj hw']
      exact hw.block (Bool.eq_false_iff.mpr hready)

/-- Every event keeps a cell sound. -/
theorem step (hu : u.Keeps P) (h : m.Sound u P) (e : MonitorEvent ω κ) :
    (m.step u e).Sound u P := by
  cases e with
  | write w => exact ⟨hu.write w m.state h.state, h.waiting, h.returned⟩
  | notify =>
    refine ⟨h.state, fun k w hw => ?_, h.returned⟩
    obtain ⟨w', hw', rfl⟩ := Option.map_eq_some_iff.mp hw
    exact (h.waiting k w' hw').wake
  | spurious thread => exact h.update_map thread fun _ => Waiter.Sound.wake
  | elapse d => exact ⟨h.state, fun k w hw => (h.waiting k w hw).elapse d, h.returned⟩
  | expire thread => exact h.update_map thread fun _ => Waiter.Sound.expire
  | call thread c =>
    simp only [Monitor.step]
    split
    · exact h
    · exact h.test hu thread (.begun c m.clock)
  | resume thread =>
    simp only [Monitor.step]
    split
    next w hw =>
      split
      · exact h
      · exact h.test hu thread (h.waiting thread w hw)
    next => exact h

theorem foldl_step (hu : u.Keeps P) (h : m.Sound u P) (events : List (MonitorEvent ω κ)) :
    (events.foldl (Monitor.step u) m).Sound u P := by
  induction events generalizing m with
  | nil => exact h
  | cons e events ih => exact ih (h.step hu e)

end Sound

/-- A run on a cell of which `P` holds is sound. -/
theorem sound_run (hu : u.Keeps P) {s : σ} (hs : P s) (events : List (MonitorEvent ω κ)) :
    (run u s events).Sound u P :=
  (Sound.start hs).foldl_step hu events

/-- Every call that returns is decided, whatever the calls do and whatever happens meanwhile. -/
theorem decided_of_mem_returns {s : σ} {events : List (MonitorEvent ω κ)} {r : WaitReturn σ κ ρ}
    (hr : r ∈ (run u s events).returns) : r.Decided u :=
  have hu : u.Keeps fun _ => True := ⟨fun _ _ => id, fun _ _ => id⟩
  ((sound_run hu trivial events).returned r hr).1

end Monitor

end StreamConformance
