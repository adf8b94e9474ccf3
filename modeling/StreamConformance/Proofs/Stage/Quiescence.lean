import StreamConformance.Proofs.Probe.Classification
import StreamConformance.Proofs.Stage.Extension

/-!
# How many elements are taken until it is quiet

Awaiting quiet takes the elements that a subject has reported, one in each window, until a window
passes in which nothing comes. The bound is inclusive: as many elements as it says may come, and the
window after the last of them must be quiet. So there is one window more than the bound, and if each
of them takes an element, what is left stays for others.

What the subject reports while a window is open may be taken in it. It adds no window: their number
is bounded in the same way, whatever comes.

## Main definitions

* `Stage.drained` — what taking elements in a number of windows finds.
* `Stage.Quiescence` — how awaiting quiet ends.
* `Arrivals`, `Stage.drainDuring` — taking elements while the subject goes on.

## Main results

* `Stage.drain_on` — the windows, one after the other.
* `Stage.waits_drainDuring_le` — the number of windows, whatever comes.
* `Stage.awaitQuiet_run` — how awaiting quiet ends after any uses of the probe.
-/

namespace StreamConformance

variable {α σ η : Type}

/-! ### Windows -/

namespace ProbeRecord

/-- Whether a completion has been accepted. -/
def isCompleted (p : ProbeRecord α) : Bool :=
  match p.terminal with
  | some .registerComplete => true
  | _ => false

theorem isCompleted_iff {p : ProbeRecord α} :
    p.isCompleted = true ↔ p.terminal = some .registerComplete := by
  unfold isCompleted
  split <;> simp_all

theorem Describes.isCompleted_eq {p : ProbeRecord α} {capacity : Nat} {b : BlackboxProbe α}
    (h : p.Describes capacity b) : b.elements.isCompleted = p.isCompleted := by
  rw [Bool.eq_iff_iff, isCompleted_iff]
  cases h.ending with
  | pending hterminal hopen => simp [hterminal, hopen]
  | completed hterminal hended => simp [hterminal, hended]
  | failed e hterminal hopen => simp [hterminal, hopen]

end ProbeRecord

namespace Stage

variable [Element α] {v : Verification α σ η} {p : ProbeRecord α} {capacity : Nat}
  {r : Run α σ η}

/-- A window on a probe with a record: what it finds, what it takes, and that it touches nothing
else. -/
theorem quiet_now (h : p.Describes capacity r.probe.blackbox) :
    ((quiet v).now r).1 = (BoundedSequence.silence "Expected nothing"
        ⟨capacity, p.unconsumed, p.isCompleted⟩).1 ∧
      ({ p with unconsumed := p.unconsumed.tail } : ProbeRecord α).Describes capacity
        ((quiet v).now r).2.probe.blackbox ∧
      ((quiet v).now r).2.subjectName v = r.subjectName v ∧
      ((quiet v).now r).2.history = r.history := by
  obtain ⟨hverdict, -⟩ := h.consistent.ordered.silence_view v.timeout "Expected nothing"
  rw [h.view_eq, h.isCompleted_eq] at hverdict
  exact ⟨congrArg Prod.fst hverdict, h.silence v.timeout "Expected nothing", rfl, rfl⟩

/-- The violation of still receiving elements. -/
def stillReceiving (v : Verification α σ η) (name : String) : Violation :=
  .protocol ("Subscriber " ++ name ++ " was still receiving elements after " ++
    toString v.maxSignals.toNat ++ " signals")

/-- What taking elements in `rounds` windows finds, where `before` elements have been taken. -/
def drained (v : Verification α σ η) (name : String) (p : ProbeRecord α) (rounds before : Nat) :
    Except Halt Nat :=
  if rounds ≤ p.unconsumed.length then .error (.violation (stillReceiving v name))
  else if p.isCompleted then .error (.violation (BoundedSequence.endForNothing "Expected nothing"))
  else .ok (before + p.unconsumed.length)

/-- Taking elements in a number of windows: each window takes the oldest element that waits, and the
first one without an element is the last one. -/
theorem drain_on (h : p.Describes capacity r.probe.blackbox) (rounds before : Nat) :
    ((drain v rounds before).on r).1 = drained v (r.subjectName v) p rounds before ∧
      ({ p with unconsumed := p.unconsumed.drop rounds } : ProbeRecord α).Describes capacity
        ((drain v rounds before).on r).2.probe.blackbox ∧
      ((drain v rounds before).on r).2.history =
        r.history ++ List.replicate (min (p.unconsumed.length + 1) rounds) .awaited := by
  induction rounds generalizing p r before with
  | zero => exact ⟨by rw [drained, if_pos (Nat.zero_le _)]; rfl, h, (List.append_nil _).symm⟩
  | succ rounds ih =>
    obtain ⟨hfound, hleft, hname, hhistory⟩ := quiet_now (v := v) h
    let r₁ : Run α σ η := ((quiet v).now r).2.pass ((quiet v).cost r)
    have hwait : r₁.history = r.history ++ [.awaited] :=
      (Run.Extends.pass _ _).history.trans (by rw [hhistory])
    rw [drain, Play.on_bind, Play.on_outcome, hfound]
    cases hwaiting : p.unconsumed with
    | nil =>
      rw [hwaiting] at hleft
      have hwaits : r₁.history = r.history ++
          List.replicate (min (([] : List α).length + 1) (rounds + 1)) .awaited :=
        hwait.trans (by simp)
      cases hcompleted : p.isCompleted with
      | true =>
        have hend : drained v (r.subjectName v) p (rounds + 1) before =
            .error (.violation (BoundedSequence.endForNothing "Expected nothing")) := by
          simp [drained, hwaiting, hcompleted]
        exact ⟨hend.symm, hleft, hwaits⟩
      | false =>
        have hquiet : drained v (r.subjectName v) p (rounds + 1) before = .ok before := by
          simp [drained, hwaiting, hcompleted]
        exact ⟨hquiet.symm, hleft, hwaits⟩
    | cons a rest =>
      rw [hwaiting] at hleft
      obtain ⟨hresult, hrest, hwaits⟩ :=
        ih (p := { p with unconsumed := rest }) (r := r₁) hleft (before + 1)
      have hcount : before + 1 + rest.length = before + (rest.length + 1) := by omega
      refine ⟨hresult.trans ?_, hrest, hwaits.trans ?_⟩
      · have hsame : r₁.subjectName v = r.subjectName v := hname
        have hcompleted :
            ({ p with unconsumed := rest } : ProbeRecord α).isCompleted = p.isCompleted := rfl
        simp only [drained, hwaiting, hsame, hcompleted, List.length_cons, Nat.add_le_add_iff_right,
          hcount]
      · rw [hwait, List.append_assoc, List.length_cons, Nat.add_min_add_right,
          List.replicate_succ]
        rfl

end Stage

/-! ### Windows in which the subject goes on -/

/-- An entry of the history that says that the harness has awaited something. -/
def Event.isAwaited : Event α → Bool
  | .awaited => true
  | _ => false

/-- How often the harness has waited. -/
def Run.waits (r : Run α σ η) : Nat := r.history.countP Event.isAwaited

/-- What the subject calls while a window is open: before each wake-up of the harness, and between
the last wake-up and the deadline. -/
structure Arrivals (α : Type) where
  wakeups : List (List (Lane × Call α))
  deadline : List (Lane × Call α)

namespace Arrivals

variable [Element α] (v : Verification α σ η)

/-- Nothing is called. -/
def none : Arrivals α := ⟨[], []⟩

/-- What calls do to a run. -/
def occur (calls : List (Lane × Call α)) (r : Run α σ η) : Run α σ η :=
  calls.foldl (fun r c => r.perform v c.1 c.2) r

/-- What the calls do to a run on which the harness waits. -/
def interference (a : Arrivals α) : Interference (Run α σ η) :=
  ⟨a.wakeups.map (occur v), occur v a.deadline⟩

theorem waits_occur (calls : List (Lane × Call α)) (r : Run α σ η) :
    (occur v calls r).waits = r.waits := by
  obtain ⟨es, hcalls, hes⟩ := Run.foldl_perform_extends v calls r
  have hnone : es.countP Event.isAwaited = 0 := by
    refine List.countP_eq_zero.mpr fun e he hawaited => ?_
    have hcall := hcalls e he
    cases e <;> simp [Event.isAwaited, Event.isCall] at hawaited hcall
  rw [occur, Run.waits, hes.history, List.countP_append, hnone, Nat.add_zero, Run.waits]

/-- However a wait ends, the subject has not waited in the place of the harness. -/
theorem waits_run (ready : Run α σ η → Bool) (wakeups : List (List (Lane × Call α)))
    (deadline : List (Lane × Call α)) (r : Run α σ η) :
    (Wait.run ready r (wakeups.map (occur v)) (occur v deadline)).state.waits = r.waits := by
  induction wakeups generalizing r with
  | nil =>
    rw [List.map_nil, Wait.run]
    split
    · rfl
    · exact waits_occur v deadline r
  | cons calls rest ih =>
    rw [List.map_cons, Wait.run]
    split
    · rfl
    · exact (ih _).trans (waits_occur v calls r)

end Arrivals

namespace Stage

variable [Element α] (v : Verification α σ η)

/-- The outcome of a window while the subject goes on. The time counted is that of a window in which
nothing comes. -/
def quietDuring (a : Arrivals α) : Play α σ η (Except Violation Unit) :=
  ExceptT.mk fun r =>
    let d := (quiet v).during (a.interference v) r
    (.ok d.1, d.2.pass ((quiet v).cost r))

/-- Takes elements in at most `rounds` windows while the subject goes on; `arrivals` says what it
calls in each of them. -/
def drainDuring (arrivals : Nat → Arrivals α) : Nat → Nat → Play α σ η Nat
  | 0, _ => do
    let name ← subjectName v
    throw (.violation (stillReceiving v name))
  | rounds + 1, before => do
    match ← quietDuring v (arrivals before) with
    | .ok () => return before
    | .error (.oversupply _) => drainDuring arrivals rounds (before + 1)
    | .error x => throw (.violation x)

/-- Awaits quiet while the subject goes on. -/
def awaitQuietDuring (arrivals : Nat → Arrivals α) : Play α σ η Nat :=
  drainDuring v arrivals (v.maxSignals.toNat + 1) 0

theorem quietDuring_none : quietDuring v .none = Play.outcome (quiet v) := by
  funext r
  have hquiet : (quiet v).during (Arrivals.none.interference v) r = (quiet v).now r :=
    (quiet v).during_quiet r
  simp only [quietDuring, Play.outcome, ExceptT.mk, hquiet]

/-- Where nothing is called, elements are taken as if the subject had stopped. -/
theorem drainDuring_none (rounds before : Nat) :
    drainDuring v (fun _ => .none) rounds before = drain v rounds before := by
  induction rounds generalizing before with
  | zero => rfl
  | succ rounds ih =>
    have hrest : drainDuring v (fun _ => .none) rounds = drain v rounds := funext ih
    rw [drainDuring, quietDuring_none, hrest]
    rfl

/-- A window is one wait, whatever is called in it. -/
theorem waits_quietDuring (a : Arrivals α) (r : Run α σ η) :
    ((quietDuring v a).on r).2.waits = r.waits + 1 := by
  let w := Wait.run (quiet v).ready r (a.interference v).wakeups (a.interference v).deadline
  have hstate : w.state.waits = r.waits :=
    Arrivals.waits_run v (quiet v).ready a.wakeups a.deadline r
  -- What follows the wait takes an element from the probe and leaves the history alone.
  have hon : ((quietDuring v a).on r).2.history = w.state.history ++ [.awaited] :=
    (Run.Extends.pass ((quiet v).finish w.satisfied w.state).2 ((quiet v).cost r)).history
  rw [Run.waits, hon, List.countP_append, ← hstate]
  rfl

/-- The number of waits, whatever is called in them. -/
theorem waits_drainDuring_le (arrivals : Nat → Arrivals α) (rounds before : Nat)
    (r : Run α σ η) :
    ((drainDuring v arrivals rounds before).on r).2.waits ≤ r.waits + rounds := by
  induction rounds generalizing r before with
  | zero => exact Nat.le_refl _
  | succ rounds ih =>
    obtain ⟨outcome, r₁, hon, hround⟩ : ∃ outcome r₁,
        (quietDuring v (arrivals before)).on r = (outcome, r₁) ∧ r₁.waits = r.waits + 1 :=
      ⟨_, _, rfl, waits_quietDuring v (arrivals before) r⟩
    have hlast : r₁.waits ≤ r.waits + (rounds + 1) := by omega
    rw [drainDuring, Play.on_bind, hon]
    cases outcome with
    | error h => exact hlast
    | ok found =>
      dsimp only
      split
      · exact hlast
      · calc ((drainDuring v arrivals rounds (before + 1)).on r₁).2.waits
            ≤ r₁.waits + rounds := ih (before + 1) r₁
          _ = r.waits + (rounds + 1) := by omega
      · exact hlast

/-! ### Awaiting quiet -/

/-- How awaiting quiet ends on a run `r` whose probe has the record `p`: with `d`, if the subject
calls nothing meanwhile. -/
structure Quiescence (p : ProbeRecord α) (r : Run α σ η) (d : Except Halt Nat × Run α σ η) :
    Prop where
  /-- No more elements than the bound, and no completion: they are counted. -/
  quiet : p.unconsumed.length ≤ v.maxSignals.toNat → p.terminal ≠ some .registerComplete →
    d.1 = .ok p.unconsumed.length
  /-- No more elements than the bound, and then the completion: it is the mismatch. -/
  completed : p.unconsumed.length ≤ v.maxSignals.toNat → p.terminal = some .registerComplete →
    d.1 = .error (.violation (.mismatch
      "Expected nothing: expected no element but got onComplete"))
  /-- More elements than the bound. -/
  exceeded : v.maxSignals.toNat < p.unconsumed.length →
    d.1 = .error (.violation (.protocol ("Subscriber " ++ r.subjectName v ++
      " was still receiving elements after " ++ toString v.maxSignals.toNat ++ " signals")))
  /-- One element more than the bound is taken at most, from the front; the others stay in order. -/
  left : d.2.probe.blackbox.elements.elements = p.unconsumed.drop (v.maxSignals.toNat + 1)
  /-- Each element that is taken has its window, and so has the end if it comes in time. -/
  waits : d.2.history =
    r.history ++ List.replicate (min p.unconsumed.length v.maxSignals.toNat + 1) .awaited

theorem quiescence_of_describes {p : ProbeRecord α} {capacity : Nat} {r : Run α σ η}
    (h : p.Describes capacity r.probe.blackbox) : Quiescence v p r ((awaitQuiet v).on r) := by
  obtain ⟨hresult, hleft, hwaits⟩ := drain_on (v := v) h (v.maxSignals.toNat + 1) 0
  exact {
    quiet := fun hle hterminal => by
      have hopen := mt ProbeRecord.isCompleted_iff.mp hterminal
      rw [awaitQuiet, hresult, drained, if_neg (by omega), if_neg hopen, Nat.zero_add]
    completed := fun hle hterminal => by
      have hcompleted := ProbeRecord.isCompleted_iff.mpr hterminal
      rw [awaitQuiet, hresult, drained, if_neg (by omega), if_pos hcompleted]
      rfl
    exceeded := fun hlt => by
      rw [awaitQuiet, hresult, drained, if_pos (Nat.succ_le_of_lt hlt)]
      rfl
    left := hleft.elements_eq
    waits := by rw [awaitQuiet, hwaits, Nat.add_min_add_right] }

/-- After any uses of its probe, a subject that calls nothing any more is quiet after as many
elements as wait, if these are no more than the bound and no completion follows them. Whatever it
calls meanwhile, the harness waits once more often than the bound says at most. -/
theorem awaitQuiet_run (r₀ : Run α σ η) (capacity : Nat) (timeout : Duration)
    (uses : List (Option String × ProbeUse α Nat)) :
    let r : Run α σ η := { r₀ with probe := ProbeUse.run capacity timeout uses }
    Quiescence v (ProbeRecord.run capacity (uses.map Prod.snd)) r ((awaitQuiet v).on r) ∧
      awaitQuietDuring v (fun _ => .none) = awaitQuiet v ∧
      ∀ arrivals, ((awaitQuietDuring v arrivals).on r).2.waits ≤
        r.waits + (v.maxSignals.toNat + 1) := by
  intro r
  have hdescribes : (ProbeRecord.run capacity (uses.map Prod.snd)).Describes capacity
      r.probe.blackbox := .run capacity timeout uses
  exact ⟨quiescence_of_describes v hdescribes, drainDuring_none v _ _,
    fun arrivals => waits_drainDuring_le v arrivals _ _ r⟩

end Stage

end StreamConformance
