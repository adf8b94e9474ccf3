import StreamConformance.Probe.Interleaving
import StreamConformance.Query
import StreamConformance.Proofs.Cell.BoundedSequence
import StreamConformance.Proofs.Probe.Terminal

/-!
# What waits in a probe

A probe is used by reports, in any order and number, and by assertions, some of which take the first
element that waits. What comes of this is a record of two things: the accepted elements that have
not been taken, and the terminal signal that has been accepted. The probe keeps the second in places
of its own, so not every assertion looks at it: silence is broken by an element and by a completion,
and an error goes unnoticed.

## Main definitions

* `ProbeRecord` — the elements that wait and the terminal signal, and what a use does to them.
* `ProbeUse`, `ProbeUse.run` — reports to a probe and assertions on it, one after the other.
* `ProbeRecord.Describes` — the record is that of a probe.

## Main results

* `ProbeRecord.Describes.run` — the record of a probe after any uses.
* `ProbeUse.expectNone_run` — when nothing is expected with success.
-/

namespace StreamConformance

variable {α π : Type}

/-! ### Records -/

/-- The accepted elements that have not been taken, the oldest first, and the terminal signal that
has been accepted. -/
structure ProbeRecord (α : Type) where
  unconsumed : List α
  terminal : Option (Call α)
  deriving DecidableEq

/-- Whether an assertion takes the first element that waits, with success or without. -/
def ProbeQuery.consumes : ProbeQuery α → Bool
  | expectNext | expectElement .. | expectCompletion | expectCompletionWithin .. | expectNone _ =>
    true
  | expectError .. | expectErrorOf .. | expectErrorWithMessage .. | subscriberName | isRegistered
  | expectRegistration _ => false

/-- What happens to a probe. -/
inductive ProbeUse (α π : Type) where
  | report (c : ReportCall α π)
  | ask (q : ProbeQuery α)

namespace ProbeRecord

/-- Nothing has been reported. -/
def empty : ProbeRecord α := ⟨[], none⟩

/-- An element is accepted if there is room for it and no terminal signal yet. -/
def addElement (capacity : Nat) (a : α) (r : ProbeRecord α) : ProbeRecord α :=
  if r.terminal = none ∧ r.unconsumed.length < capacity then
    { r with unconsumed := r.unconsumed ++ [a] }
  else r

/-- The first terminal signal is accepted. -/
def conclude (c : Call α) (r : ProbeRecord α) : ProbeRecord α :=
  { r with terminal := r.terminal.or (some c) }

/-- What a use does to the record. -/
def use (capacity : Nat) (r : ProbeRecord α) : ProbeUse α π → ProbeRecord α
  | .report (.next a) => r.addElement capacity a
  | .report .complete => r.conclude .registerComplete
  | .report (.error e) => r.conclude (.registerError e)
  | .report (.puppet _) => r
  | .ask q => if q.consumes then { r with unconsumed := r.unconsumed.tail } else r

/-- The record of a probe with room for `capacity` elements. -/
def run (capacity : Nat) (uses : List (ProbeUse α π)) : ProbeRecord α :=
  uses.foldl (use capacity) empty

end ProbeRecord

namespace ProbeUse

variable [Element α]

/-- What a use does to a probe while nothing else happens to it; `name` is the name of the
subscriber at the time, if it is known. -/
def perform (timeout : Duration) (name : Option String) (p : WhiteboxProbe α π) :
    ProbeUse α π → WhiteboxProbe α π
  | report (.next a) => (p.report (BlackboxProbe.registerNext subject a)).2
  | report .complete => (p.report BlackboxProbe.registerComplete).2
  | report (.error e) => (p.report (BlackboxProbe.registerError e)).2
  | report (.puppet x) => (p.registerPuppet subject x).2
  | ask q => (q.answer timeout name p).2
where
  /-- The name in messages. -/
  subject : String := name.getD BlackboxProbe.unknownSubject

/-- Uses of a fresh probe with room for `capacity` elements, one after the other. -/
def run (capacity : Nat) (timeout : Duration) (uses : List (Option String × ProbeUse α π)) :
    WhiteboxProbe α π :=
  uses.foldl (fun p u => u.2.perform timeout u.1 p) (.empty capacity)

end ProbeUse

/-! ### Assertions that take an element -/

namespace BoundedSequence

variable (timeout : Duration) (message : String) (s : BoundedSequence α)

theorem next_snd : (s.next timeout message).2 = { s with elements := s.elements.tail } := by
  rcases s with ⟨capacity, _ | ⟨a, rest⟩, isEnded⟩ <;> rfl

variable [Element α]

theorem completion_snd :
    (s.completion timeout message).2 = { s with elements := s.elements.tail } := by
  rcases s with ⟨capacity, _ | ⟨a, rest⟩, isEnded⟩ <;> rfl

theorem silence_snd : (s.silence message).2 = { s with elements := s.elements.tail } := by
  rcases s with ⟨capacity, _ | ⟨a, rest⟩, isEnded⟩ <;> rfl

/-- A sequence is silent if and only if it has neither an element nor an end. -/
theorem silence_eq_ok_iff :
    (s.silence message).1 = .ok () ↔ s.elements = [] ∧ s.isEnded = false := by
  rcases s with ⟨capacity, _ | ⟨a, rest⟩, isEnded⟩
  · cases isEnded <;> simp [silence]
  · simp [silence]

end BoundedSequence

namespace ProbeRecord

/-- The record is what waits in a probe with room for `capacity` elements. -/
def Describes (r : ProbeRecord α) (capacity : Nat) (p : BlackboxProbe α) : Prop :=
  p.Shows capacity r.unconsumed r.terminal.toList

namespace Describes

variable {r : ProbeRecord α} {capacity : Nat} {p : BlackboxProbe α}

theorem empty (capacity : Nat) :
    (ProbeRecord.empty : ProbeRecord α).Describes capacity (.empty capacity) :=
  BlackboxProbe.Shows.empty capacity

theorem exists_terminal (h : r.Describes capacity p) {c : Call α} (hc : r.terminal = some c) :
    ∃ t, p.terminal = some t := by
  have hterminals := h.terminals_eq
  rw [hc] at hterminals
  cases hterminal : p.terminal with
  | none => simp [BlackboxProbe.terminals, hterminal] at hterminals
  | some t => exact ⟨t, rfl⟩

/-! ### Reports -/

/-- An element is refused if there is no room for it, and after a terminal signal. -/
theorem registerNext_refused [Element α] (h : r.Describes capacity p)
    (hrefused : ¬ (r.terminal = none ∧ r.unconsumed.length < capacity)) (subject : String)
    (a : α) : ∃ v, p.registerNext subject a = (some v, p) := by
  by_cases hfailed : p.error.isCompleted
  · exact ⟨_, if_pos hfailed⟩
  · have hrefuse : ∃ e q, p.elements.add a = (.error e, q) := by
      by_cases hended : p.elements.isCompleted
      · exact ⟨_, _, if_pos hended⟩
      · have hnone : r.terminal = none := by
          cases hc : r.terminal with
          | none => rfl
          | some c =>
            obtain ⟨t, ht⟩ := h.exists_terminal hc
            cases t with
            | complete => exact absurd (h.consistent.completed.mpr ht) hended
            | error => exact absurd (h.consistent.failed.mpr ht) hfailed
        rw [Describes, hnone] at h
        exact ⟨_, _, h.holds.add_full (Nat.le_of_not_lt fun hlt => hrefused ⟨hnone, hlt⟩) a⟩
    obtain ⟨e, q, hadd⟩ := hrefuse
    refine ⟨BlackboxProbe.elementRefused subject e, ?_⟩
    rw [BlackboxProbe.registerNext, if_neg hfailed, BlackboxProbe.queueElement, hadd]

/-- An element is accepted, without a violation, if there is room for it and no terminal signal yet,
and otherwise it is refused with one. -/
theorem registerNext [Element α] (h : r.Describes capacity p) (subject : String) (a : α) :
    (r.addElement capacity a).Describes capacity (p.registerNext subject a).2 ∧
      ((p.registerNext subject a).1 = none ↔
        r.terminal = none ∧ r.unconsumed.length < capacity) := by
  by_cases hroom : r.terminal = none ∧ r.unconsumed.length < capacity
  · have hshows := h
    rw [Describes, hroom.1] at hshows
    obtain ⟨p', hregister, hp'⟩ := hshows.registerNext hroom.2 subject a
    rw [hregister, addElement, if_pos hroom, Describes, hroom.1]
    exact ⟨hp', iff_of_true rfl ⟨rfl, hroom.2⟩⟩
  · obtain ⟨v, hregister⟩ := h.registerNext_refused hroom subject a
    rw [hregister, addElement, if_neg hroom]
    exact ⟨h, iff_of_false (Option.some_ne_none v) hroom⟩

/-- A completion is accepted, without a violation, if it is the first terminal signal, and otherwise
it is refused with one. -/
theorem registerComplete (h : r.Describes capacity p) :
    (r.conclude .registerComplete).Describes capacity p.registerComplete.2 ∧
      (p.registerComplete.1 = none ↔ r.terminal = none) := by
  cases hc : r.terminal with
  | none =>
    have hshows := h
    rw [Describes, hc] at hshows
    obtain ⟨p', hregister, hp'⟩ := hshows.registerComplete
    rw [hregister, conclude, hc]
    exact ⟨hp', iff_of_true rfl rfl⟩
  | some c =>
    obtain ⟨t, ht⟩ := h.exists_terminal hc
    have hregister : p.registerComplete = (some (BlackboxProbe.completeAfter t), p) := by
      rw [BlackboxProbe.registerComplete, ht]
    rw [hregister, conclude, hc]
    rw [Describes, hc] at h
    exact ⟨h, iff_of_false (Option.some_ne_none _) (Option.some_ne_none c)⟩

/-- An error is accepted, without a violation, if it is the first terminal signal, and otherwise it
is refused with one. -/
theorem registerError (h : r.Describes capacity p) (e : StreamError) :
    (r.conclude (.registerError e)).Describes capacity (p.registerError e).2 ∧
      ((p.registerError e).1 = none ↔ r.terminal = none) := by
  cases hc : r.terminal with
  | none =>
    have hshows := h
    rw [Describes, hc] at hshows
    obtain ⟨p', hregister, hp'⟩ := hshows.registerError e
    rw [hregister, conclude, hc]
    exact ⟨hp', iff_of_true rfl rfl⟩
  | some c =>
    obtain ⟨t, ht⟩ := h.exists_terminal hc
    have hregister : p.registerError e = (some (BlackboxProbe.errorAfter t), p) := by
      rw [BlackboxProbe.registerError, ht]
    rw [hregister, conclude, hc]
    rw [Describes, hc] at h
    exact ⟨h, iff_of_false (Option.some_ne_none _) (Option.some_ne_none c)⟩

/-! ### Assertions -/

/-- Where the first element is taken from the queue, the others wait, and the terminal signal is
what it was. -/
theorem set_elements (h : r.Describes capacity p) {q : Queue α}
    (hview : q.view = { p.elements.view with elements := p.elements.elements.tail })
    (hordered : q.Ordered) :
    ({ r with unconsumed := r.unconsumed.tail } : ProbeRecord α).Describes capacity
      { p with elements := q } := by
  obtain ⟨hcapacity, helements, hended⟩ := BoundedSequence.mk.inj hview
  exact {
    consistent := {
      ordered := hordered
      completed := by
        rw [hended]
        exact h.consistent.completed
      failed := h.consistent.failed }
    capacity_eq := hcapacity.trans h.capacity_eq
    elements_eq := by rw [helements, h.elements_eq]
    terminals_eq := h.terminals_eq }

theorem next (h : r.Describes capacity p) (timeout : Duration) (message : String) :
    ({ r with unconsumed := r.unconsumed.tail } : ProbeRecord α).Describes capacity
      { p with elements := ((Queue.next timeout message).now p.elements).2 } := by
  obtain ⟨hview, hordered⟩ := h.consistent.ordered.next_view timeout message
  exact h.set_elements ((congrArg Prod.snd hview).trans (BoundedSequence.next_snd ..)) hordered

variable [Element α]

theorem completion (h : r.Describes capacity p) (timeout : Duration) (message : String) :
    ({ r with unconsumed := r.unconsumed.tail } : ProbeRecord α).Describes capacity
      { p with elements := ((Queue.completion timeout message).now p.elements).2 } := by
  obtain ⟨hview, hordered⟩ := h.consistent.ordered.completion_view timeout message
  exact h.set_elements ((congrArg Prod.snd hview).trans (BoundedSequence.completion_snd ..))
    hordered

theorem silence (h : r.Describes capacity p) (within : Duration) (message : String) :
    ({ r with unconsumed := r.unconsumed.tail } : ProbeRecord α).Describes capacity
      { p with elements := ((Queue.silence within message).now p.elements).2 } := by
  obtain ⟨hview, hordered⟩ := h.consistent.ordered.silence_view within message
  exact h.set_elements ((congrArg Prod.snd hview).trans (BoundedSequence.silence_snd ..)) hordered

/-- What an assertion leaves: it takes the first element, if it is one that does. -/
theorem ask {w : WhiteboxProbe α π} (h : r.Describes capacity w.blackbox) (q : ProbeQuery α)
    (timeout : Duration) (name : Option String) :
    (r.use capacity (.ask q : ProbeUse α π)).Describes capacity
      (q.answer timeout name w).2.blackbox := by
  -- Whoever looks at the cell of the error leaves it as it is.
  have hcell (message : String) (t : Duration) : r.Describes capacity
      { w.blackbox with error := ((Promise.completion t message).now w.blackbox.error).2 } := by
    rw [Promise.completion_now_snd]
    exact h
  cases q with
  | expectNext => exact h.next ..
  | expectElement a t => exact h.next ..
  | expectCompletion => exact h.completion ..
  | expectCompletionWithin t message => exact h.completion ..
  | expectNone t => exact h.silence ..
  | expectError e t => exact hcell ..
  | expectErrorOf kind t => exact hcell ..
  | expectErrorWithMessage kind part => exact hcell ..
  | subscriberName => exact h
  | isRegistered => exact h
  | expectRegistration t => exact h

theorem perform {w : WhiteboxProbe α π} (h : r.Describes capacity w.blackbox)
    (u : ProbeUse α π) (timeout : Duration) (name : Option String) :
    (r.use capacity u).Describes capacity (u.perform timeout name w).blackbox := by
  cases u with
  | report c =>
    cases c with
    | next a => exact (h.registerNext _ a).1
    | complete => exact h.registerComplete.1
    | error e => exact (h.registerError e).1
    | puppet x =>
      have hsame := WhiteboxProbe.blackbox_registerPuppet (ProbeUse.perform.subject name) x w
      exact hsame.symm ▸ h
  | ask q => exact h.ask q timeout name

theorem foldl {w : WhiteboxProbe α π} (h : r.Describes capacity w.blackbox) (timeout : Duration)
    (uses : List (Option String × ProbeUse α π)) :
    ((uses.map Prod.snd).foldl (use capacity) r).Describes capacity
      (uses.foldl (fun p u => u.2.perform timeout u.1 p) w).blackbox := by
  induction uses generalizing r w with
  | nil => exact h
  | cons u rest ih => exact ih (h.perform u.2 timeout u.1)

/-- The record of a probe after any uses. -/
theorem run (capacity : Nat) (timeout : Duration) (uses : List (Option String × ProbeUse α π)) :
    (ProbeRecord.run capacity (uses.map Prod.snd)).Describes capacity
      (ProbeUse.run capacity timeout uses).blackbox :=
  (empty capacity).foldl timeout uses

/-- Silence is broken by an element and by a completion, and by nothing else. -/
theorem expectNone_eq_ok_iff (h : r.Describes capacity p) (within : Duration) :
    ((BlackboxProbe.expectNone within).now p).1 = .ok () ↔
      r.unconsumed = [] ∧ r.terminal ≠ some .registerComplete := by
  have hverdict : ((BlackboxProbe.expectNone within).now p).1 =
      (p.elements.view.silence "Expected nothing").1 :=
    congrArg Prod.fst (h.consistent.ordered.silence_view within "Expected nothing").1
  have hended : p.elements.isCompleted = true ↔ r.terminal = some .registerComplete := by
    rw [h.consistent.completed_iff, h.terminals_eq]
    cases r.terminal <;> simp
  rw [hverdict, BoundedSequence.silence_eq_ok_iff, Queue.view, h.elements_eq, ne_eq, ← hended,
    Bool.not_eq_true]

end Describes

end ProbeRecord

namespace ProbeUse

/-- After any uses of a probe nothing is expected with success if and only if no accepted element
waits and no completion has been accepted; otherwise a violation is returned. An error that has been
accepted is not looked at. -/
theorem expectNone_run [Element α] (capacity : Nat) (timeout : Duration)
    (uses : List (Option String × ProbeUse α π)) (name : Option String)
    (within : Option Duration) :
    let r := ProbeRecord.run capacity (uses.map Prod.snd)
    let answer := ((ProbeQuery.expectNone within).answer timeout name
      (ProbeUse.run capacity timeout uses)).1
    (answer = .ok .done ↔ r.unconsumed = [] ∧ r.terminal ≠ some .registerComplete) ∧
      (¬ (r.unconsumed = [] ∧ r.terminal ≠ some .registerComplete) →
        ∃ v, answer = .error v) := by
  intro r answer
  have hiff := (ProbeRecord.Describes.run capacity timeout uses).expectNone_eq_ok_iff
    (within.getD timeout)
  have hanswer : answer = ((BlackboxProbe.expectNone (within.getD timeout)).now
      (ProbeUse.run capacity timeout uses).blackbox).1.map fun _ => .done := rfl
  rw [hanswer, ← hiff]
  cases ((BlackboxProbe.expectNone (within.getD timeout)).now
    (ProbeUse.run capacity timeout uses).blackbox).1 with
  | ok u => simp [Except.map]
  | error v => simp [Except.map]

/-- Nothing is expected with success of a probe that has accepted an error, though a terminal signal
has been accepted. -/
theorem expectNone_after_error :
    ¬ ∀ (capacity : Nat) (timeout : Duration) (uses : List (Option String × ProbeUse UInt64 Nat))
      (name : Option String) (within : Option Duration),
      ((ProbeQuery.expectNone within).answer timeout name
          (ProbeUse.run capacity timeout uses)).1 = .ok .done ↔
        (ProbeRecord.run capacity (uses.map Prod.snd)).unconsumed = [] ∧
          (ProbeRecord.run capacity (uses.map Prod.snd)).terminal = none := by
  intro h
  have herror := (h 16 (.ofMillis 100)
    [(none, .report (.error ⟨⟨.harness, 0⟩, .testException⟩))] none none).mp rfl
  exact absurd herror.2 (by decide)

end ProbeUse

end StreamConformance
