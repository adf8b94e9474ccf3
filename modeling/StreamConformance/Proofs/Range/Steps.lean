import Mathlib.Data.List.Induction
import StreamConformance.Range.Interleaving

/-!
# Steps of a range publisher

What a step of an emitter, and a step of a whole publisher, must have been if it leads somewhere.
All that is proved of the steps is proved from these.

## Main results

* `Emitter.of_silent`, `Emitter.of_signal`, `Emitter.of_leave` — the steps of an emitter.
* `Publisher.of_resume`, `Publisher.of_abort`, `Publisher.of_work`, `Publisher.of_finish` — the
  steps of a publisher.
* `Publisher.run_induction` — what every step keeps holds after every run.
* `Publisher.occurrences_of_run` — what occurs in the steps of a run.
-/

namespace StreamConformance.Range

/-! ### Emitters -/

namespace Ledger

variable {l l' : Ledger}

/-- A unit of demand that is taken is there, and it is used up unless the demand is unbounded. -/
theorem of_take_emit (h : l.take = (.emit, l')) : 0 < l.requested ∧
    l' = if l.requested = Demand.unbounded then l else { l with requested := l.requested - 1 } := by
  unfold take at h
  split at h
  · simp at h
  · split at h
    · simp at h
    · split at h
      next hpositive => exact ⟨hpositive, (Prod.mk.inj h).2.symm⟩
      next => simp at h

theorem eq_of_take {v : Verdict} (h : l.take = (v, l')) (hv : v ≠ .emit) : l' = l := by
  unfold take at h
  split at h
  · exact (Prod.mk.inj h).2.symm
  · split at h
    · exact (Prod.mk.inj h).2.symm
    · split at h
      · exact absurd (Prod.mk.inj h).1.symm hv
      · exact (Prod.mk.inj h).2.symm

end Ledger

namespace Emitter

variable {count : UInt64} {e e' : Emitter} {l l' : Ledger} {o : Output}

/-- A step that nobody sees is the test for the end of the range, or a look at the demand. -/
theorem of_silent (h : e.step count l = .silent e' l') :
    (e.phase = .testing ∧ (count ≠ Demand.unbounded ∧ count ≤ e.next) ∧ l' = l ∧
        e' = { e with phase := .completing }) ∨
      (e.phase = .testing ∧ ¬(count ≠ Demand.unbounded ∧ count ≤ e.next) ∧ l' = l ∧
        e' = { e with phase := .awaiting }) ∨
      (e.phase = .awaiting ∧ l.take = (.emit, l') ∧ e' = { e with phase := .delivering }) ∨
      (e.phase = .awaiting ∧ l.take = (.cancelled, l') ∧ e' = { e with phase := .leaving }) ∨
      e.phase = .awaiting ∧ l.take = (.invalid, l') ∧ e' = { e with phase := .failing } := by
  unfold step at h
  split at h
  next hphase => split at h <;> simp_all
  next hphase => split at h <;> simp_all
  all_goals simp at h

/-- An emitter signals the next element, the completion, or the error for an invalid request. -/
theorem of_signal (h : e.step count l = .signal o e') :
    (e.phase = .delivering ∧ o = .next e.next ∧ e' = ⟨e.next + 1, .testing⟩) ∨
      (e.phase = .completing ∧ o = .complete ∧ e' = { e with phase := .leaving }) ∨
      e.phase = .failing ∧ o = .invalid ∧ e' = { e with phase := .leaving } := by
  unfold step at h
  split at h
  next => split at h <;> simp at h
  next => split at h <;> simp at h
  all_goals simp_all

theorem of_leave (h : e.step count l = .leave e') :
    e.phase = .leaving ∧ e' = { e with phase := .ended } := by
  unfold step at h
  split at h
  next => split at h <;> simp at h
  next => split at h <;> simp at h
  all_goals simp_all

end Emitter

/-! ### Publishers -/

namespace Publisher

variable {ι : Type} [DecidableEq ι] {p p' : Publisher ι} {l : Label ι}

theorem subscribe_of_mem {i : ι} (h : i ∈ p.registry.active) :
    p.subscribe i = { p with calls := p.calls ++ [⟨i, .refusing, [.onSubscribeInert]⟩] } := by
  simp [subscribe, Registry.enroll, h]

theorem subscribe_of_notMem {i : ι} (h : i ∉ p.registry.active) :
    p.subscribe i = { p with
      registry := ⟨p.registry.active ++ [i]⟩
      subscriptions := p.subscriptions ++ [⟨i, .empty, .unborn, []⟩]
      calls := p.calls ++
        [⟨i, .offering p.subscriptions.length, [.onSubscribe p.subscriptions.length]⟩] } := by
  simp [subscribe, Registry.enroll, h]

omit [DecidableEq ι] in
/-- A callback that ends belongs to a call that is offering its subscription, or to one that has
been refused. -/
theorem of_resume {call : Nat} {panics : Bool} (h : p.resume call panics = some p') :
    ∃ c, p.calls[call]? = some c ∧
      ((∃ number, c.phase = .offering number ∧
          p' = (p.setWorker number (if panics then .lost else .running .start)).setCall call
            (if panics then .panicked else .returned) []) ∨
        (c.phase = .refusing ∧ p' = p.setCall call (if panics then .panicked else .failing)
          (if panics then [] else [.onDuplicate])) ∨
        c.phase = .failing ∧ p' = p.setCall call (if panics then .panicked else .returned) []) := by
  unfold resume at h
  split at h
  next number hphase =>
    obtain ⟨c, hc, hphase⟩ := Option.map_eq_some_iff.mp hphase
    refine ⟨c, hc, .inl ⟨number, hphase, ?_⟩⟩
    split at h <;> simp_all
  next hphase =>
    obtain ⟨c, hc, hphase⟩ := Option.map_eq_some_iff.mp hphase
    refine ⟨c, hc, .inr (.inl ⟨hphase, ?_⟩)⟩
    split at h <;> simp_all
  next hphase =>
    obtain ⟨c, hc, hphase⟩ := Option.map_eq_some_iff.mp hphase
    exact ⟨c, hc, .inr (.inr ⟨hphase, (Option.some.inj h).symm⟩)⟩
  all_goals simp at h

/-- A call that cannot start an emitter is offering the subscription. -/
theorem of_abort {call : Nat} (h : p.abort call = some p') :
    ∃ c number, p.calls[call]? = some c ∧ c.phase = .offering number ∧
      p' = ({ p with registry := p.registry.strike c.subscriber }.setWorker number
        .unstarted).setCall call .failing [.onUnstarted] := by
  unfold abort at h
  split at h
  next c hc =>
    split at h
    next number hphase => exact ⟨c, number, hc, hphase, (Option.some.inj h).symm⟩
    all_goals simp at h
  next => simp at h

/-- An emitter that takes a step is between two callbacks. It takes a step that nobody sees, or it
signals something, or it leaves. -/
theorem of_work {number : Nat} (h : p.work number = some p') :
    ∃ s e, p.subscriptions[number]? = some s ∧ s.worker = .running e ∧
      ((∃ e' l', e.step p.count s.ledger = .silent e' l' ∧
          p' = p.setSubscription number { s with ledger := l', worker := .running e' }) ∨
        (∃ o e', e.step p.count s.ledger = .signal o e' ∧
          p' = p.setSubscription number
            { s with worker := .signalling o e', signals := s.signals ++ [o] }) ∨
        ∃ e', e.step p.count s.ledger = .leave e' ∧
          p' = { p with registry := p.registry.strike s.subscriber }.setWorker number
            (.running e')) := by
  unfold work at h
  split at h
  next s hs =>
    split at h
    next e hw =>
      refine ⟨s, e, hs, hw, ?_⟩
      split at h
      · simp at h
      next e' l' hstep => exact .inl ⟨e', l', hstep, (Option.some.inj h).symm⟩
      next o e' hstep => exact .inr (.inl ⟨o, e', hstep, (Option.some.inj h).symm⟩)
      next e' hstep => exact .inr (.inr ⟨e', hstep, (Option.some.inj h).symm⟩)
    all_goals simp at h
  next => simp at h

omit [DecidableEq ι] in
theorem of_finish {number : Nat} {panics : Bool} (h : p.finish number panics = some p') :
    ∃ s o e, p.subscriptions[number]? = some s ∧ s.worker = .signalling o e ∧
      p' = p.setWorker number (.running (if panics then e.unwind else e)) := by
  unfold finish at h
  split at h
  next o e hw =>
    obtain ⟨s, hs, hw⟩ := Option.map_eq_some_iff.mp hw
    exact ⟨s, o, e, hs, hw, (Option.some.inj h).symm⟩
  all_goals simp at h

omit [DecidableEq ι] in
theorem of_updateLedger {number : Nat} {f : Ledger → Ledger}
    (h : p.updateLedger number f = some p') : ∃ s, p.subscriptions[number]? = some s ∧
      p' = p.setSubscription number { s with ledger := f s.ledger } := by
  obtain ⟨s, hs, h⟩ := Option.map_eq_some_iff.mp h
  exact ⟨s, hs, h.symm⟩

theorem count_step (h : p.step l = some p') : p'.count = p.count := by
  cases l with
  | subscribe i =>
    obtain rfl := Option.some.inj h
    unfold subscribe
    split <;> rfl
  | resume call panics => obtain ⟨c, -, ⟨_, -, rfl⟩ | ⟨-, rfl⟩ | ⟨-, rfl⟩⟩ := of_resume h <;> rfl
  | abort call => obtain ⟨c, number, -, -, rfl⟩ := of_abort h; rfl
  | request number n => obtain ⟨s, -, rfl⟩ := of_updateLedger h; rfl
  | cancel number => obtain ⟨s, -, rfl⟩ := of_updateLedger h; rfl
  | work number =>
    obtain ⟨s, e, -, -, ⟨_, _, -, rfl⟩ | ⟨_, _, -, rfl⟩ | ⟨_, -, rfl⟩⟩ := of_work h <;> rfl
  | finish number panics => obtain ⟨s, o, e, -, -, rfl⟩ := of_finish h; rfl

/-! ### Runs -/

theorem run_append (p : Publisher ι) (labels more : List (Label ι)) :
    p.run (labels ++ more) = (p.run labels).bind fun q => q.run more :=
  List.foldlM_append ..

/-- What holds at first, and is kept by every step of a run, holds after the run. -/
theorem run_induction {motive : List (Label ι) → Publisher ι → Prop} (p : Publisher ι)
    (start : motive [] p) (step : ∀ labels q l q', p.run labels = some q → motive labels q →
      q.step l = some q' → motive (labels ++ [l]) q')
    {labels : List (Label ι)} {q : Publisher ι} (hrun : p.run labels = some q) :
    motive labels q := by
  induction labels using List.reverseRecOn generalizing q with
  | nil =>
    obtain rfl := Option.some.inj hrun
    exact start
  | append_singleton labels l ih =>
    rw [run_append] at hrun
    obtain ⟨r, hr, hlast⟩ := Option.bind_eq_some_iff.mp hrun
    refine step labels r l q hr (ih hr) ?_
    simpa [run] using hlast

theorem count_of_run {count : UInt64} {labels : List (Label ι)}
    (hrun : (start count).run labels = some p) : p.count = count :=
  run_induction (motive := fun _ q => q.count = count) _ rfl
    (fun _ _ _ _ _ hq hstep => (count_step hstep).trans hq) hrun

/-! ### What occurs in a run -/

/-- What occurs in the steps of a run, one after the other, where `f` says what occurs in a step. -/
def occurrences (f : Publisher ι → Label ι → Option Nat) (p : Publisher ι) :
    List (Label ι) → List Nat
  | [] => []
  | l :: labels =>
    (f p l).toList ++ match p.step l with
      | some q => q.occurrences f labels
      | none => []

theorem occurrences_append (f : Publisher ι → Label ι → Option Nat) {q : Publisher ι}
    {labels : List (Label ι)} (hrun : p.run labels = some q) (more : List (Label ι)) :
    p.occurrences f (labels ++ more) = p.occurrences f labels ++ q.occurrences f more := by
  induction labels generalizing p with
  | nil =>
    obtain rfl := Option.some.inj hrun
    rfl
  | cons l labels ih =>
    obtain ⟨r, hr, hrest⟩ := Option.bind_eq_some_iff.mp hrun
    simp only [List.cons_append, occurrences, hr, ih hrest, List.append_assoc]

/-- If what occurs in a step holds from then on, and has not held before, it occurs once at most in
a run, and what has occurred is what holds. -/
theorem occurrences_of_run {f : Publisher ι → Label ι → Option Nat} {Has : Publisher ι → Nat → Prop}
    {count : UInt64} (hstart : ∀ k, ¬Has (start count) k)
    (hnew : ∀ labels q l q', (start count).run labels = some q → q.step l = some q' → ∀ k,
      f q l = some k → ¬Has q k)
    (hstep : ∀ labels q l q', (start count).run labels = some q → q.step l = some q' → ∀ k,
      Has q' k ↔ Has q k ∨ f q l = some k)
    {labels : List (Label ι)} (hrun : (start count).run labels = some p) :
    ((start count).occurrences f labels).Nodup ∧
      ∀ k, k ∈ (start count).occurrences f labels ↔ Has p k := by
  refine run_induction (motive := fun labels q => ((start count).occurrences f labels).Nodup ∧
    ∀ k, k ∈ (start count).occurrences f labels ↔ Has q k) _ ?_ ?_ hrun
  · exact ⟨List.nodup_nil, fun k => iff_of_false List.not_mem_nil (hstart k)⟩
  · rintro labels q l q' hq ⟨hnodup, hmem⟩ hl
    have hlast : q.occurrences f [l] = (f q l).toList := by simp [occurrences, hl]
    rw [occurrences_append f hq, hlast]
    refine ⟨List.nodup_append.mpr ⟨hnodup, ?_, ?_⟩, fun k => ?_⟩
    · cases f q l <;> simp
    · rintro k hk _ hlast rfl
      exact hnew labels q l q' hq hl k (Option.mem_toList.mp hlast) ((hmem k).mp hk)
    · rw [List.mem_append, hmem, Option.mem_toList, hstep labels q l q' hq hl]

end Publisher

end StreamConformance.Range
