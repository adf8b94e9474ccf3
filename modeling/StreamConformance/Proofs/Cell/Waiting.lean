import StreamConformance.Proofs.Cell.Branches
import StreamConformance.Proofs.Cell.Collection
import StreamConformance.Proofs.Cell.Monitor

/-!
# Waiting for promises and queues

Promises and queues are shared cells: values and elements are written to them while others wait for
what will be there. A wait is given up only where its predicate does not hold at the last test, when
the deadline has passed. So only a promise without a value and an empty queue are answered with a
timeout, and only an empty queue with silence: what comes after the deadline, but before the thread
has the lock again, is found all the same. And behind a satisfied wait there is what it was
satisfied by.

## Main definitions

* `Promise.calls`, `Queue.calls` — what is called on promises and queues that are shared.
* `WaitReturn.branch` — the branch by which a call that has returned ended.
* `Promise.Answered`, `Queue.Answered` — how an expectation has been answered.

## Main results

* `Promise.answered_of_decided`, `Queue.answered_of_decided` — a call that is decided is answered.
* `Monitor.returns_run` — waits, and what is expected of promises and queues, in every run.
-/

namespace StreamConformance

/-! ### Branches of calls -/

section Branch

variable {σ ω κ : Type} {ρ : κ → Type} {u : CellCalls σ ω κ ρ} {r : WaitReturn σ κ ρ}

/-- The branch by which a call that has returned ended. -/
def WaitReturn.branch (b : (c : κ) → (u.expect c).Branching) (r : WaitReturn σ κ ρ) : Branch :=
  ((b r.waiter.call).take r.found r.before).1

/-- A wait is satisfied if and only if its predicate holds at the last test. -/
theorem WaitReturn.Decided.found_eq (h : r.Decided u) :
    r.found = (u.expect r.waiter.call).ready r.before := by
  cases hfound : r.found with
  | true => exact (h.satisfied hfound).symm
  | false => exact (h.expired hfound).1.symm

theorem WaitReturn.Decided.take_eq (h : r.Decided u) (b : (c : κ) → (u.expect c).Branching) :
    (b r.waiter.call).take r.found r.before = (r.branch b, r.answer, r.after) := by
  refine Prod.ext rfl ?_
  rw [(b r.waiter.call).take_snd, h.found_eq]
  exact h.now

end Branch

/-! ### Promises -/

namespace Promise

variable {α : Type}

/-- What is called on a shared promise: it is offered values, and its value is expected, with a
timeout and a message. -/
def calls (α : Type) : CellCalls (Promise α) α (Duration × String) fun _ => α where
  write a p := (p.complete a).2
  expect c := completion c.1 c.2

/-- How the value of a shared promise is expected, branch by branch. -/
def branching (c : Duration × String) : ((calls α).expect c).Branching :=
  completionBranching c.1 c.2

/-- How the expectation of a value has been answered. -/
structure Answered (r : WaitReturn (Promise α) (Duration × String) fun _ => α) : Prop where
  /-- With a timeout only if the wait was given up and the promise has no value. -/
  timeout : ∀ text waited, r.answer = .error (.timeout text waited) →
    r.found = false ∧ r.after.value = none
  /-- Never by falling back. -/
  branch : r.branch branching ≠ .fallback

/-- The expectation of a value that is decided is answered. -/
theorem answered_of_decided {r : WaitReturn (Promise α) (Duration × String) fun _ => α}
    (h : r.Decided (calls α)) : Answered r := by
  have hfound : r.found = r.before.isCompleted := h.found_eq
  have hcases := take_completion r.waiter.call.1 r.waiter.call.2 hfound
  rw [show (completionBranching _ _).take _ _ = _ from h.take_eq branching] at hcases
  obtain ⟨hnone, hcase⟩ | ⟨a, -, hcase⟩ := hcases
  · obtain ⟨hbranch, -, hafter⟩ : r.branch branching = .givenUp ∧ _ ∧ r.after = r.before := by
      simpa using hcase
    refine ⟨fun _ _ _ => ⟨?_, hafter ▸ hnone⟩, ?_⟩
    · rw [hfound, isCompleted, hnone]
      rfl
    · rw [hbranch]
      decide
  · obtain ⟨hbranch, hanswer, -⟩ : r.branch branching = .regular ∧ r.answer = .ok a ∧ _ := by
      simpa using hcase
    refine ⟨fun text waited htimeout => ?_, ?_⟩
    · rw [hanswer] at htimeout
      cases htimeout
    · rw [hbranch]
      decide

end Promise

/-! ### Queues -/

/-- What a thread expects of a shared queue. Several elements are expected one at a time. -/
inductive QueueWait where
  | next (timeout : Duration) (message : String)
  | completion (timeout : Duration) (message : String)
  | silence (within : Duration) (message : String)

/-- What a call that waits on a queue is answered with. -/
def QueueWait.Answer (α : Type) : QueueWait → Type
  | next .. => α
  | completion .. => Unit
  | silence .. => Unit

namespace Queue

variable {α : Type} [Element α]

/-- What is called on a shared queue: elements and the end marker are written, and elements, the end
marker and silence are expected. -/
def calls (α : Type) [Element α] :
    CellCalls (Queue α) (QueueWrite α) QueueWait (QueueWait.Answer α) where
  write := QueueWrite.apply
  expect
    | .next timeout message => next timeout message
    | .completion timeout message => completion timeout message
    | .silence within message => silence within message

/-- How something is expected of a shared queue, branch by branch. -/
def branching : (c : QueueWait) → ((calls α).expect c).Branching
  | .next timeout message => nextBranching timeout message
  | .completion timeout message => completionBranching timeout message
  | .silence within message => silenceBranching within message

theorem calls_keeps_ordered : (calls α).Keeps Ordered where
  write w _ h := (QueueWrite.elements_apply h w).1
  expect c _ h := by
    cases c with
    | next timeout message => exact (h.next_view timeout message).2
    | completion timeout message => exact (h.completion_view timeout message).2
    | silence within message => exact (h.silence_view within message).2

/-- How something that is expected of a shared queue has been answered. -/
structure Answered (r : WaitReturn (Queue α) QueueWait (QueueWait.Answer α)) : Prop where
  /-- With a timeout only if the wait was given up and the queue is empty. -/
  timeout : ∀ text waited, r.answer = .error (.timeout text waited) →
    r.found = false ∧ r.after.entries = [] ∧ r.after.isCompleted = false
  /-- With silence only if the wait was given up and the queue is empty. -/
  silence : ∀ within message a, r.waiter.call = .silence within message → r.answer = .ok a →
    r.found = false ∧ r.after.entries = [] ∧ r.after.isCompleted = false
  /-- With the end in place of silence only if the queue has ended and has no elements. -/
  ended : ∀ within message, r.waiter.call = .silence within message →
    r.answer = .error (BoundedSequence.endForNothing message) →
    r.found = true ∧ r.before.isCompleted = true ∧ r.before.elements = []
  /-- Never by falling back. -/
  branch : r.branch branching ≠ .fallback

/-- Of a call that does not expect silence only a timeout has to be justified. -/
theorem Answered.of_ne_silence {r : WaitReturn (Queue α) QueueWait (QueueWait.Answer α)}
    (hcall : ∀ within message, r.waiter.call ≠ .silence within message)
    (htimeout : ∀ text waited, r.answer = .error (.timeout text waited) →
      r.found = false ∧ r.after.entries = [] ∧ r.after.isCompleted = false)
    (hbranch : r.branch branching ≠ .fallback) : Answered r where
  timeout := htimeout
  silence within message _ h := absurd h (hcall within message)
  ended within message h := absurd h (hcall within message)
  branch := hbranch

omit [Element α] in
/-- Nothing stands in an ordered queue if and only if it has no elements and has not ended. -/
theorem Ordered.entries_eq_nil_iff {q : Queue α} (h : q.Ordered) :
    q.entries = [] ↔ q.elements = [] ∧ q.isCompleted = false := by
  rw [h]
  cases q.isCompleted <;> simp

omit [Element α] in
/-- What is read at the front of an ordered queue after a wait that has found what there is: there
is a timeout only if the queue is empty, unless one is made of the end marker or of an element. -/
theorem Ordered.readFront_answered {ρ : Type} {q after : Queue α} (h : q.Ordered)
    {timeout : Duration} {message : String} {atEnd answer : Except Violation ρ}
    {atElement : α → Except Violation ρ} {branch : Branch} {found : Bool}
    (hfound : found = !q.line.isEmpty)
    (hend : ∀ text waited, atEnd ≠ .error (.timeout text waited))
    (helement : ∀ a text waited, atElement a ≠ .error (.timeout text waited))
    (htake : readFront timeout message atEnd atElement found q = (branch, answer, after)) :
    (∀ text waited, answer = .error (.timeout text waited) →
      found = false ∧ after.entries = [] ∧ after.isCompleted = false) ∧
    branch ≠ .fallback := by
  have hcases := readFront_cases timeout message atEnd atElement q hfound
  rw [htake] at hcases
  obtain ⟨hnil, hcase⟩ | hcase | ⟨a, rest, hcase⟩ := hcases
  · obtain ⟨rfl, rfl, rfl⟩ : branch = .givenUp ∧ answer = _ ∧ after = q := by
      simpa using hcase
    refine ⟨fun _ _ _ => ⟨?_, hnil, (h.entries_eq_nil_iff.mp hnil).2⟩, by decide⟩
    rw [hfound, Fifo.isEmpty_iff.mpr hnil, Bool.not_true]
  · obtain ⟨rfl, rfl, -⟩ : branch = .regular ∧ answer = atEnd ∧ _ := by
      simpa using hcase
    exact ⟨fun text waited htimeout => absurd htimeout (hend text waited), by decide⟩
  · obtain ⟨rfl, rfl, -⟩ : branch = .regular ∧ answer = atElement a ∧ _ := by
      simpa using hcase
    exact ⟨fun text waited htimeout => absurd htimeout (helement a text waited), by decide⟩

/-- What is found in the line of an ordered queue after a wait that has found what there is: silence
only if the queue is empty, and the end only if the queue has ended and has no elements. -/
theorem Ordered.searchLine_answered {q after : Queue α} (h : q.Ordered) {message : String}
    {answer : Except Violation Unit} {branch : Branch} {found : Bool}
    (hfound : found = ((q.entries.any (·.element?.isSome)) || q.isCompleted))
    (htake : searchLine message found q = (branch, answer, after)) :
    (∀ text waited, answer ≠ .error (.timeout text waited)) ∧
    (∀ a, answer = .ok a → found = false ∧ after.entries = [] ∧ after.isCompleted = false) ∧
    (answer = .error (BoundedSequence.endForNothing message) →
      found = true ∧ q.isCompleted = true ∧ q.elements = []) ∧
    branch ≠ .fallback := by
  have hcases := searchLine_cases message hfound
  rw [htake] at hcases
  obtain ⟨hnone, hopen, hcase⟩ | ⟨a, rest, hcase⟩ | ⟨hnone, hended, hcase⟩ := hcases
  · obtain ⟨rfl, rfl, rfl⟩ : branch = .givenUp ∧ answer = .ok () ∧ after = q := by
      simpa using hcase
    have hnil := h.entries_eq_nil_iff.mpr ⟨hnone, hopen⟩
    refine ⟨by simp, fun _ _ => ⟨?_, hnil, hopen⟩, by simp, by decide⟩
    rw [hfound, hnil, hopen]
    rfl
  · obtain ⟨rfl, rfl, -⟩ : branch = .regular ∧
        answer = .error (BoundedSequence.elementForNothing message a) ∧ _ := by
      simpa using hcase
    refine ⟨?_, by simp, ?_, by decide⟩
    · simp [BoundedSequence.elementForNothing]
    · simp [BoundedSequence.elementForNothing, BoundedSequence.endForNothing]
  · obtain ⟨rfl, rfl, -⟩ : branch = .regular ∧
        answer = .error (BoundedSequence.endForNothing message) ∧ _ := by
      simpa using hcase
    refine ⟨?_, by simp, fun _ => ⟨?_, hended, hnone⟩, by decide⟩
    · simp [BoundedSequence.endForNothing]
    · rw [hfound, hended, Bool.or_true]

/-- What is expected of an ordered queue and decided is answered. -/
theorem answered_of_decided {r : WaitReturn (Queue α) QueueWait (QueueWait.Answer α)}
    (h : r.Decided (calls α)) (hordered : r.before.Ordered) : Answered r := by
  have htake := h.take_eq branching
  have hfound := h.found_eq
  generalize hbranch : r.branch branching = branch at htake
  obtain ⟨⟨call, began, tested, phase⟩, clock, found, before, answer, after⟩ := r
  cases call with
  | next timeout message =>
    obtain ⟨htimeout, hregular⟩ := hordered.readFront_answered hfound
      (fun _ _ => by simp [BoundedSequence.endForElement]) (fun _ _ _ => by simp) htake
    exact .of_ne_silence (by simp) htimeout (hbranch ▸ hregular)
  | completion timeout message =>
    obtain ⟨htimeout, hregular⟩ := hordered.readFront_answered hfound
      (fun _ _ => by simp) (fun _ _ _ => by simp [BoundedSequence.elementForEnd]) htake
    exact .of_ne_silence (by simp) htimeout (hbranch ▸ hregular)
  | silence within message =>
    obtain ⟨htimeout, hsilence, hended, hregular⟩ := hordered.searchLine_answered hfound htake
    refine ⟨fun text waited hanswer => absurd hanswer (htimeout text waited),
      fun _ _ a _ hanswer => hsilence a hanswer, ?_, hbranch ▸ hregular⟩
    rintro _ _ ⟨⟩ hanswer
    exact hended hanswer

end Queue

/-! ### Runs -/

namespace Monitor

/-- A wait is satisfied only in a state in which its predicate holds, and it is given up only after
the deadline, in a state in which the predicate does not hold: whatever cell it is on, and whatever
other threads do, in every run. So the expectations on promises and queues are answered with a
timeout, or with silence, only if nothing is there when they return, and never by the branches that
fall back behind a satisfied wait. -/
theorem returns_run {σ ω κ α β : Type} {ρ : κ → Type} [Element β] (u : CellCalls σ ω κ ρ) (s : σ)
    (events : List (MonitorEvent ω κ)) (p : Promise α)
    (onPromise : List (MonitorEvent α (Duration × String))) (capacity : Nat)
    (onQueue : List (MonitorEvent (QueueWrite β) QueueWait)) :
    (∀ r ∈ (run u s events).returns, r.Decided u) ∧
    (∀ r ∈ (run (Promise.calls α) p onPromise).returns, Promise.Answered r) ∧
    ∀ r ∈ (run (Queue.calls β) (.empty capacity) onQueue).returns, Queue.Answered r := by
  refine ⟨fun r => decided_of_mem_returns, fun r hr => ?_, fun r hr => ?_⟩
  · exact Promise.answered_of_decided (decided_of_mem_returns hr)
  · have hsound := sound_run Queue.calls_keeps_ordered (Queue.ordered_empty capacity) onQueue
    exact Queue.answered_of_decided (hsound.returned r hr).1 (hsound.returned r hr).2

/-- Silence is found when its deadline has passed. An element comes; the thread that expects the end
has the lock first and takes it, and for the thread that expects an element there is nothing. Its
deadline passes, another element comes too late for that but before the thread has the lock, and it
is found; the next expectation of an element is in vain. One thread expects the value of a promise
in vain, and another finds the first of two values. -/
theorem returns_run_late :
    let ms := Duration.ofMillis
    let onQueue : List (MonitorEvent (QueueWrite UInt64) QueueWait) :=
      [.call 0 (.next (ms 5) "element"), .call 1 (.completion (ms 3) "end"),
        .call 2 (.silence (ms 2) "nothing"), .spurious 0, .resume 0, .elapse (ms 2), .expire 2,
        .resume 2, .write (.add 7), .expire 1, .notify, .resume 1, .resume 0, .elapse (ms 3),
        .expire 0, .write (.add 8), .resume 0, .call 0 (.next (ms 5) "element"), .elapse (ms 5),
        .expire 0, .resume 0]
    let onPromise : List (MonitorEvent UInt64 (Duration × String)) :=
      [.call 0 (ms 5, "value"), .call 1 (ms 9, "value"), .elapse (ms 5), .expire 0, .resume 0,
        .write 3, .write 4, .notify, .resume 1]
    let ofQueue := (run (Queue.calls UInt64) (.empty 1) onQueue).returns
    let ofPromise := (run (Promise.calls UInt64) .empty onPromise).returns
    (ofQueue.map fun r => (r.clock.millis, r.waiter.phase, r.found, r.before.elements)) =
      [(2, .expired, false, []), (2, .awake, true, [7]), (5, .expired, true, [8]),
        (10, .expired, false, [])] ∧
    (ofPromise.map fun r => (r.clock.millis, r.waiter.phase, r.found, r.after.value)) =
      [(5, .expired, false, none), (5, .awake, true, some 3)] ∧
    (∀ r ∈ ofQueue, r.Decided (Queue.calls UInt64)) ∧ (∀ r ∈ ofPromise, Promise.Answered r) ∧
    ∀ r ∈ ofQueue, Queue.Answered r := by
  intro ms onQueue onPromise ofQueue ofPromise
  exact ⟨by decide, by decide,
    returns_run (Queue.calls UInt64) (.empty 1) onQueue Promise.empty onPromise 1 onQueue⟩

end Monitor

end StreamConformance
