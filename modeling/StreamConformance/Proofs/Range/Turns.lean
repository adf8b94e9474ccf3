import StreamConformance.Proofs.Places
import StreamConformance.Proofs.Range.Steps

/-!
# Turns

The threads of a range publisher take turns. Whoever does the next thing, a subscription comes out
of it in one of a few ways, and what holds of the subscription in every run follows from these.

Each subscribe call that is not refused makes one subscription, and the emitter of a subscription
starts when it has been offered, if a thread can be started for it; so calls and subscriptions are
matched throughout a run.

## Main definitions

* `SubscribeCall.number?` — the number of the subscription that a call has made.
* `Turn` — what the next thing does to the subscription with a certain number.
* `Publisher.Coherent` — every call has signalled what its phase says, calls and subscriptions
  belong together, and the threads stand as they should.

## Main results

* `Publisher.Coherent.turn` — a step gives each subscription a turn.
* `Publisher.coherent_of_run` — a publisher is coherent after every run.
-/

namespace StreamConformance.Range

variable {ι : Type}

/-! ### Calls and their subscriptions -/

namespace SubscribeCall

/-- The number of the subscription that a call has made. -/
def number? (c : SubscribeCall ι) : Option Nat :=
  match c.signals with
  | .onSubscribe number :: _ => some number
  | _ => none

/-- A call has signalled an error: the subscriber is listed already, or there is no thread for its
emitter. -/
def HasFailed (c : SubscribeCall ι) : Prop :=
  c.signals = [.onSubscribeInert, .onDuplicate] ∨
    ∃ number, c.signals = [.onSubscribe number, .onUnstarted]

/-- A call has signalled what its phase says. -/
def Proper (c : SubscribeCall ι) : Prop :=
  match c.phase with
  | .offering number => c.signals = [.onSubscribe number]
  | .refusing => c.signals = [.onSubscribeInert]
  | .failing => c.HasFailed
  | .returned => (∃ number, c.signals = [.onSubscribe number]) ∨ c.HasFailed
  | .panicked =>
    (∃ number, c.signals = [.onSubscribe number]) ∨ c.signals = [.onSubscribeInert] ∨ c.HasFailed

/-- The call has made the subscription with this number, and the thread of the subscription is what
the call has made of it: it is still to come as long as the subscription is offered, and there is
none if the subscriber has panicked at the offer or no thread could be started. -/
structure Made (c : SubscribeCall ι) (number : Nat) (s : Subscription ι) : Prop where
  subscriber : s.subscriber = c.subscriber
  unborn : s.worker = .unborn ↔ c.phase = .offering number
  lost : s.worker = .lost ↔ c.phase = .panicked ∧ c.signals = [.onSubscribe number]
  unstarted : s.worker = .unstarted ↔ c.signals = [.onSubscribe number, .onUnstarted]

theorem Proper.signals_cases {c : SubscribeCall ι} (hc : c.Proper) :
    (∃ number, c.signals = [.onSubscribe number]) ∨ c.signals = [.onSubscribeInert] ∨
      c.HasFailed := by
  unfold Proper at hc
  split at hc
  · exact .inl ⟨_, hc⟩
  · exact .inr (.inl hc)
  · exact .inr (.inr hc)
  · exact hc.imp_right .inr
  · exact hc

theorem Proper.signals_of_offering {c : SubscribeCall ι} (hc : c.Proper) {number : Nat}
    (h : c.phase = .offering number) : c.signals = [.onSubscribe number] := by
  simpa only [Proper, h] using hc

theorem number?_of_offering {c : SubscribeCall ι} (hc : c.Proper) {number : Nat}
    (h : c.phase = .offering number) : c.number? = some number := by
  simp [number?, hc.signals_of_offering h]

end SubscribeCall

/-- Each call has signalled what its phase says, the calls that have not been refused have made the
subscriptions in order, and each of them stands with its subscription as it should. -/
structure Publisher.Matched (p : Publisher ι) : Prop where
  proper : ∀ c ∈ p.calls, c.Proper
  numbers : p.calls.filterMap SubscribeCall.number? = List.range p.subscriptions.length
  made : ∀ c ∈ p.calls, ∀ number, c.number? = some number →
    ∃ s, p.subscriptions[number]? = some s ∧ c.Made number s

/-- The thread of a subscription stands as it should with what has been signalled. -/
structure Subscription.Proper (s : Subscription ι) : Prop where
  /-- From a signal an emitter goes on with the test for the end of the range, or it leaves. -/
  pauses : ∀ o e, s.worker = .signalling o e → e.phase = .testing ∨ e.phase = .leaving
  /-- Where there is no emitter nothing has been signalled. -/
  silent : s.worker = .unborn ∨ s.worker = .lost ∨ s.worker = .unstarted → s.signals = []

/-- Calls and subscriptions are matched, and the thread of each subscription stands as it should. -/
structure Publisher.Coherent (p : Publisher ι) : Prop extends p.Matched where
  subscriptions : ∀ s ∈ p.subscriptions, s.Proper

/-! ### Turns -/

/-- The subscription that a label acts on, if it names one. -/
def Label.target? : Label ι → Option Nat
  | .request number _ | .cancel number | .work number | .finish number _ => some number
  | .subscribe _ | .resume .. | .abort _ => none

/-- What the next thing does to the place of the subscription with the number `k`, for a publisher
of `count` elements. -/
inductive Turn (count : UInt64) (k : Nat) :
    Label ι → Option (Subscription ι) → Option (Subscription ι) → Prop
  /-- The next thing is of no concern to the subscription. -/
  | idle {l : Label ι} {o : Option (Subscription ι)} (h : l.target? ≠ some k) : Turn count k l o o
  /-- The subscription is made. -/
  | opened (i : ι) : Turn count k (.subscribe i) none (some ⟨i, .empty, .unborn, []⟩)
  /-- The subscriber has returned from the offer, and the emitter starts. -/
  | born {call : Nat} {s : Subscription ι} (h : s.worker = .unborn) :
    Turn count k (.resume call false) (some s) (some { s with worker := .running .start })
  /-- The subscriber has panicked at the offer. -/
  | lost {call : Nat} {s : Subscription ι} (h : s.worker = .unborn) :
    Turn count k (.resume call true) (some s) (some { s with worker := .lost })
  /-- The subscriber has returned from the offer, and no thread can be started. -/
  | aborted {call : Nat} {s : Subscription ι} (h : s.worker = .unborn) :
    Turn count k (.abort call) (some s) (some { s with worker := .unstarted })
  | requested {s : Subscription ι} (n : UInt64) :
    Turn count k (.request k n) (some s) (some { s with ledger := s.ledger.request n })
  | cancelled {s : Subscription ι} :
    Turn count k (.cancel k) (some s) (some { s with ledger := s.ledger.cancel })
  /-- The emitter takes a step that nobody sees. -/
  | advanced {s : Subscription ι} {e e' : Emitter} {l' : Ledger} (hw : s.worker = .running e)
      (hstep : e.step count s.ledger = .silent e' l') :
    Turn count k (.work k) (some s) (some { s with ledger := l', worker := .running e' })
  /-- The emitter signals something. -/
  | signalled {s : Subscription ι} {e e' : Emitter} {o : Output} (hw : s.worker = .running e)
      (hstep : e.step count s.ledger = .signal o e') :
    Turn count k (.work k) (some s)
      (some { s with worker := .signalling o e', signals := s.signals ++ [o] })
  /-- The emitter strikes its subscriber from the list. -/
  | left {s : Subscription ι} {e e' : Emitter} (hw : s.worker = .running e)
      (hstep : e.step count s.ledger = .leave e') :
    Turn count k (.work k) (some s) (some { s with worker := .running e' })
  /-- The subscriber returns from a signal. -/
  | returned {s : Subscription ι} {o : Output} {e : Emitter} (hw : s.worker = .signalling o e)
      (hphase : e.phase = .testing ∨ e.phase = .leaving) :
    Turn count k (.finish k false) (some s) (some { s with worker := .running e })
  /-- The subscriber panics in a signal. -/
  | unwound {s : Subscription ι} {o : Output} {e : Emitter} (hw : s.worker = .signalling o e)
      (hphase : e.phase = .testing ∨ e.phase = .leaving) :
    Turn count k (.finish k true) (some s) (some { s with worker := .running e.unwind })

/-- A subscription that a label acts on stays with its subscriber, and has a thread afterwards if
and only if it had one before; if it has none, that is for the same reason. -/
theorem Turn.kept {count : UInt64} {k j : Nat} {l : Label ι} {s : Subscription ι}
    {o : Option (Subscription ι)} (h : Turn count k l (some s) o) (hl : l.target? = some j) :
    ∃ s', o = some s' ∧ s'.subscriber = s.subscriber ∧ (s'.worker = .unborn ↔ s.worker = .unborn) ∧
      (s'.worker = .lost ↔ s.worker = .lost) ∧
        (s'.worker = .unstarted ↔ s.worker = .unstarted) := by
  cases h with
  | idle | requested | cancelled => exact ⟨_, rfl, rfl, .rfl, .rfl, .rfl⟩
  | born | lost | aborted => simp [Label.target?] at hl
  | advanced hw | signalled hw | left hw | returned hw | unwound hw =>
    exact ⟨_, rfl, rfl, by simp [hw], by simp [hw], by simp [hw]⟩

theorem Turn.proper {count : UInt64} {k : Nat} {l : Label ι} {o o' : Option (Subscription ι)}
    (h : Turn count k l o o') (ho : ∀ s ∈ o, s.Proper) : ∀ s ∈ o', s.Proper := by
  cases h with
  | idle => exact ho
  | opened => rintro _ ⟨⟩; exact ⟨nofun, fun _ => rfl⟩
  | lost hw | aborted hw =>
    rintro _ ⟨⟩
    exact ⟨nofun, fun _ => (ho _ rfl).silent (.inl hw)⟩
  | born | advanced | left | returned | unwound => rintro _ ⟨⟩; exact ⟨nofun, by simp⟩
  | requested | cancelled =>
    rintro _ ⟨⟩
    exact ⟨(ho _ rfl).pauses, (ho _ rfl).silent⟩
  | signalled hw hstep =>
    rintro _ ⟨⟩
    refine ⟨?_, by simp⟩
    rintro _ _ ⟨⟩
    rcases Emitter.of_signal hstep with ⟨-, -, rfl⟩ | ⟨-, -, rfl⟩ | ⟨-, -, rfl⟩ <;> simp

namespace Publisher

variable {p p' : Publisher ι} {l : Label ι}

/-- The emitter of a subscription that is offered has not started. -/
theorem Matched.exists_offered (hp : p.Matched) {call number : Nat} {c : SubscribeCall ι}
    (hc : p.calls[call]? = some c) (hphase : c.phase = .offering number) :
    c.number? = some number ∧ ∃ s, p.subscriptions[number]? = some s ∧ c.Made number s ∧
      s.worker = .unborn := by
  have hmem := List.mem_of_getElem? hc
  have hnumber := SubscribeCall.number?_of_offering (hp.proper c hmem) hphase
  obtain ⟨s, hs, hmade⟩ := hp.made c hmem number hnumber
  exact ⟨hnumber, s, hs, hmade, hmade.unborn.mpr hphase⟩

/-! ### Places of subscriptions -/

section Places

variable {number : Nat} {s : Subscription ι} (hs : p.subscriptions[number]? = some s)

include hs

theorem getElem?_setSubscription (s' : Subscription ι) (k : Nat) :
    (p.setSubscription number s').subscriptions[k]? =
      if number = k then some s' else p.subscriptions[k]? := by
  have hlt : number < p.subscriptions.length := (List.getElem?_eq_some_iff.mp hs).1
  simp [setSubscription, List.getElem?_set, hlt]

theorem setWorker_eq (w : Worker) :
    p.setWorker number w = p.setSubscription number { s with worker := w } := by
  rw [setWorker, Places.modify_eq_set hs, setSubscription]

theorem subscriptions_setWorker (w : Worker) : (p.setWorker number w).subscriptions =
    (p.setSubscription number { s with worker := w }).subscriptions :=
  congrArg Publisher.subscriptions (setWorker_eq hs w)

/-- A step that changes one subscription gives each of them a turn. -/
theorem turn_of_place {s' : Subscription ι}
    (hplace : p'.subscriptions = (p.setSubscription number s').subscriptions)
    (hidle : ∀ k, number ≠ k → l.target? ≠ some k)
    (hturn : Turn p.count number l (some s) (some s')) (k : Nat) :
    Turn p.count k l p.subscriptions[k]? p'.subscriptions[k]? := by
  rw [hplace, getElem?_setSubscription hs]
  split
  next hk => rwa [← hk, hs]
  next hk => exact .idle (hidle k hk)

end Places

variable [DecidableEq ι]

/-! ### A step gives each subscription a turn -/

/-- A step gives each subscription a turn. -/
theorem Coherent.turn (hp : p.Coherent) (h : p.step l = some p') (k : Nat) :
    Turn p.count k l p.subscriptions[k]? p'.subscriptions[k]? := by
  cases l with
  | subscribe i =>
    obtain rfl := Option.some.inj h
    by_cases hi : i ∈ p.registry.active
    · rw [subscribe_of_mem hi]
      exact .idle (Option.some_ne_none k).symm
    · rw [subscribe_of_notMem hi]
      rcases Nat.lt_trichotomy k p.subscriptions.length with hk | rfl | hk
      · simp only [List.getElem?_append_left hk]
        exact .idle (Option.some_ne_none k).symm
      · simp only [List.getElem?_concat_length, Nat.le_refl, List.getElem?_eq_none]
        exact .opened i
      · rw [List.getElem?_eq_none (by omega), List.getElem?_eq_none (by simp; omega)]
        exact .idle (Option.some_ne_none k).symm
  | resume call panics =>
    obtain ⟨c, hc, ⟨number, hphase, rfl⟩ | ⟨-, rfl⟩ | ⟨-, rfl⟩⟩ := of_resume h
    · obtain ⟨-, s, hs, -, hunborn⟩ := hp.exists_offered hc hphase
      refine turn_of_place hs (subscriptions_setWorker hs _) (by simp [Label.target?]) ?_ k
      cases panics
      · exact .born hunborn
      · exact .lost hunborn
    · exact .idle (Option.some_ne_none k).symm
    · exact .idle (Option.some_ne_none k).symm
  | abort call =>
    obtain ⟨c, number, hc, hphase, rfl⟩ := of_abort h
    obtain ⟨-, s, hs, -, hunborn⟩ := hp.exists_offered hc hphase
    exact turn_of_place hs (subscriptions_setWorker hs _) (by simp [Label.target?])
      (.aborted hunborn) k
  | request number n =>
    obtain ⟨s, hs, rfl⟩ := of_updateLedger h
    exact turn_of_place hs rfl (by simp [Label.target?]) (.requested n) k
  | cancel number =>
    obtain ⟨s, hs, rfl⟩ := of_updateLedger h
    exact turn_of_place hs rfl (by simp [Label.target?]) .cancelled k
  | work number =>
    obtain ⟨s, e, hs, hw, ⟨e', l', hstep, rfl⟩ | ⟨o, e', hstep, rfl⟩ | ⟨e', hstep, rfl⟩⟩ :=
      of_work h
    · exact turn_of_place hs rfl (by simp [Label.target?]) (.advanced hw hstep) k
    · exact turn_of_place hs rfl (by simp [Label.target?]) (.signalled hw hstep) k
    · exact turn_of_place hs (subscriptions_setWorker hs _) (by simp [Label.target?])
        (.left hw hstep) k
  | finish number panics =>
    obtain ⟨s, o, e, hs, hw, rfl⟩ := of_finish h
    have hphase := (hp.subscriptions s (List.mem_of_getElem? hs)).pauses o e hw
    refine turn_of_place hs (subscriptions_setWorker hs _) (by simp [Label.target?]) ?_ k
    cases panics
    · exact .returned hw hphase
    · exact .unwound hw hphase

/-! ### Calls and subscriptions stay matched -/

section Calls

omit [DecidableEq ι]

/-- No two calls have made the same subscription. -/
theorem Matched.eq_of_number? (hp : p.Matched) {i j number : Nat} {c d : SubscribeCall ι}
    (hc : p.calls[i]? = some c) (hd : p.calls[j]? = some d) (hcn : c.number? = some number)
    (hdn : d.number? = some number) : i = j := by
  have hnodup : (p.calls.filterMap SubscribeCall.number?).Nodup := hp.numbers ▸ List.nodup_range
  exact Places.eq_of_nodup hnodup hc hd hcn hdn

theorem mem_calls_setCall {call : Nat} {phase : CallPhase} {signals : List CallSignal}
    {c d : SubscribeCall ι} (hc : p.calls[call]? = some c)
    (hd : d ∈ (p.setCall call phase signals).calls) :
    d = { c with phase, signals := c.signals ++ signals } ∨
      ∃ i, i ≠ call ∧ p.calls[i]? = some d := by
  obtain ⟨i, hi⟩ := List.mem_iff_getElem?.mp hd
  rw [setCall, List.getElem?_modify] at hi
  split at hi
  next h =>
    subst h
    rw [hc] at hi
    exact .inl (Option.some.inj hi).symm
  next h => exact .inr ⟨i, Ne.symm h, by simpa using hi⟩

theorem numbers_setCall {call : Nat} {phase : CallPhase} {signals : List CallSignal}
    {c : SubscribeCall ι} (hc : p.calls[call]? = some c)
    (h : SubscribeCall.number? { c with phase, signals := c.signals ++ signals } = c.number?) :
    (p.setCall call phase signals).calls.filterMap SubscribeCall.number? =
      p.calls.filterMap SubscribeCall.number? := by
  rw [setCall, Places.modify_eq_set hc, Places.filterMap_set_of_eq hc h]

/-- A call goes on that leaves the subscription that it has made, if any, as it is. -/
theorem Matched.setCall (hp : p.Matched) {call : Nat} {phase : CallPhase}
    {signals : List CallSignal} {c : SubscribeCall ι} (hc : p.calls[call]? = some c)
    (hproper : SubscribeCall.Proper { c with phase, signals := c.signals ++ signals })
    (hnumber : SubscribeCall.number? { c with phase, signals := c.signals ++ signals } = c.number?)
    (hmade : ∀ number s, c.number? = some number → c.Made number s →
      SubscribeCall.Made { c with phase, signals := c.signals ++ signals } number s) :
    (p.setCall call phase signals).Matched where
  proper d hd := by
    rcases mem_calls_setCall hc hd with rfl | ⟨i, -, hi⟩
    · exact hproper
    · exact hp.proper d (List.mem_of_getElem? hi)
  numbers := (numbers_setCall hc hnumber).trans hp.numbers
  made d hd number hn := by
    rcases mem_calls_setCall hc hd with rfl | ⟨i, -, hi⟩
    · rw [hnumber] at hn
      obtain ⟨s, hs, h⟩ := hp.made c (List.mem_of_getElem? hc) number hn
      exact ⟨s, hs, hmade number s hn h⟩
    · exact hp.made d (List.mem_of_getElem? hi) number hn

theorem Matched.close (hp : p.Matched) {call : Nat} {c : SubscribeCall ι}
    (hc : p.calls[call]? = some c) (hphase : c.phase = .failing) (panics : Bool) :
    (p.setCall call (if panics then .panicked else .returned) []).Matched := by
  have hfailed : c.HasFailed := by
    simpa only [SubscribeCall.Proper, hphase] using hp.proper c (List.mem_of_getElem? hc)
  refine hp.setCall hc ?proper (by simp [SubscribeCall.number?]) fun number s _ hmade => ?made
  case proper =>
    rw [List.append_nil]
    cases panics
    · exact .inr hfailed
    · exact .inr (.inr hfailed)
  case made =>
    have hsignals : c.signals ≠ [.onSubscribe number] := by
      rcases hfailed with hfailed | ⟨_, hfailed⟩ <;> simp [hfailed]
    have hunborn : s.worker ≠ .unborn := fun h => by simp [hmade.unborn.mp h] at hphase
    have hlost : s.worker ≠ .lost := fun h => hsignals (hmade.lost.mp h).2
    rw [List.append_nil]
    exact ⟨hmade.subscriber, iff_of_false hunborn (by cases panics <;> simp),
      iff_of_false hlost fun h => hsignals h.2, hmade.unstarted⟩

/-- A call that has offered a subscription goes on, and has made this of its thread. -/
theorem Matched.conclude (hp : p.Matched) {call number : Nat} {c : SubscribeCall ι}
    (hc : p.calls[call]? = some c) (hphase : c.phase = .offering number) {w : Worker}
    {phase : CallPhase} {signals : List CallSignal}
    (hproper : SubscribeCall.Proper { c with phase, signals := c.signals ++ signals })
    (hunborn : w = .unborn ↔ phase = .offering number)
    (hlost : w = .lost ↔ phase = .panicked ∧ signals = [])
    (hunstarted : w = .unstarted ↔ signals = [.onUnstarted]) :
    ((p.setWorker number w).setCall call phase signals).Matched := by
  have hsignals : c.signals = [.onSubscribe number] :=
    (hp.proper c (List.mem_of_getElem? hc)).signals_of_offering hphase
  obtain ⟨hnumber, s, hs, hmade, -⟩ := hp.exists_offered hc hphase
  refine ⟨fun d hd => ?proper, ?numbers, fun d hd number' hn => ?made⟩
  case proper =>
    rcases mem_calls_setCall hc hd with rfl | ⟨i, -, hi⟩
    · exact hproper
    · exact hp.proper d (List.mem_of_getElem? hi)
  case numbers =>
    have hlength : (p.subscriptions.modify number fun s => { s with worker := w }).length =
      p.subscriptions.length := List.length_modify ..
    refine (numbers_setCall hc ?_).trans (hp.numbers.trans (congrArg _ hlength.symm))
    simp [SubscribeCall.number?, hsignals]
  case made =>
    change ∃ t, (p.setWorker number _).subscriptions[number']? = some t ∧ _
    rw [setWorker_eq hs, getElem?_setSubscription hs]
    rcases mem_calls_setCall hc hd with rfl | ⟨i, hi, hd⟩
    · obtain rfl : number = number' := by simpa [SubscribeCall.number?, hsignals] using hn
      exact ⟨_, if_pos rfl, hmade.subscriber, hunborn, by simp [hlost, hsignals],
        by simp [hunstarted, hsignals]⟩
    · have hne : number ≠ number' := fun h => hi (hp.eq_of_number? hd hc hn (h ▸ hnumber))
      rw [if_neg hne]
      exact hp.made d (List.mem_of_getElem? hd) number' hn

end Calls

theorem calls_of_target? (h : p.step l = some p') {k : Nat} (hl : l.target? = some k) :
    p'.calls = p.calls ∧ p'.subscriptions.length = p.subscriptions.length := by
  cases l with
  | subscribe | resume | abort => simp [Label.target?] at hl
  | request | cancel =>
    obtain ⟨s, -, rfl⟩ := of_updateLedger h
    simp [setSubscription]
  | work =>
    obtain ⟨s, e, -, -, ⟨_, _, -, rfl⟩ | ⟨_, _, -, rfl⟩ | ⟨_, -, rfl⟩⟩ := of_work h <;>
      simp [setSubscription, setWorker]
  | finish =>
    obtain ⟨s, o, e, -, -, rfl⟩ := of_finish h
    simp [setWorker]

/-- A step on a subscription keeps calls and subscriptions matched. -/
theorem Coherent.matched_of_target? (hp : p.Coherent) (h : p.step l = some p') {k : Nat}
    (hl : l.target? = some k) : p'.Matched := by
  obtain ⟨hcalls, hlength⟩ := calls_of_target? h hl
  refine ⟨fun c hc => hp.proper c (hcalls ▸ hc), by rw [hcalls, hlength, hp.numbers],
    fun c hc number hn => ?_⟩
  obtain ⟨s, hs, hmade⟩ := hp.made c (hcalls ▸ hc) number hn
  have hturn := hp.turn h number
  rw [hs] at hturn
  obtain ⟨s', hs', hsubscriber, hunborn, hlost, hunstarted⟩ := hturn.kept hl
  exact ⟨s', hs', hsubscriber.trans hmade.subscriber, hunborn.trans hmade.unborn,
    hlost.trans hmade.lost, hunstarted.trans hmade.unstarted⟩

theorem Matched.subscribe (hp : p.Matched) (i : ι) : (p.subscribe i).Matched := by
  by_cases hi : i ∈ p.registry.active
  · rw [subscribe_of_mem hi]
    refine ⟨fun c hc => ?_, ?_, fun c hc number hn => ?_⟩
    · rcases List.mem_append.mp hc with hc | hc
      · exact hp.proper c hc
      · obtain rfl := List.mem_singleton.mp hc
        rfl
    · rw [List.filterMap_append, hp.numbers]
      exact List.append_nil _
    · rcases List.mem_append.mp hc with hc | hc
      · exact hp.made c hc number hn
      · obtain rfl := List.mem_singleton.mp hc
        cases hn
  · rw [subscribe_of_notMem hi]
    refine ⟨fun c hc => ?_, ?_, fun c hc number hn => ?_⟩
    · rcases List.mem_append.mp hc with hc | hc
      · exact hp.proper c hc
      · obtain rfl := List.mem_singleton.mp hc
        rfl
    · rw [List.filterMap_append, hp.numbers, List.length_append, List.length_singleton,
        List.range_succ]
      rfl
    · rcases List.mem_append.mp hc with hc | hc
      · obtain ⟨s, hs, hmade⟩ := hp.made c hc number hn
        have hlt : number < p.subscriptions.length := (List.getElem?_eq_some_iff.mp hs).1
        exact ⟨s, by rw [List.getElem?_append_left hlt, hs], hmade⟩
      · obtain rfl := List.mem_singleton.mp hc
        obtain rfl := Option.some.inj hn
        exact ⟨_, List.getElem?_concat_length, rfl, by simp, by simp, by simp⟩

theorem Coherent.matched_step (hp : p.Coherent) (h : p.step l = some p') : p'.Matched := by
  cases l with
  | subscribe i =>
    obtain rfl := Option.some.inj h
    exact hp.subscribe i
  | resume call panics =>
    obtain ⟨c, hc, ⟨number, hphase, rfl⟩ | ⟨hphase, rfl⟩ | ⟨hphase, rfl⟩⟩ := of_resume h
    all_goals have hproper := hp.proper c (List.mem_of_getElem? hc)
    · have hsignals := hproper.signals_of_offering hphase
      refine hp.conclude hc hphase ?_ ?_ ?_ ?_ <;>
        cases panics <;> simp [SubscribeCall.Proper, hsignals]
    · have hsignals : c.signals = [.onSubscribeInert] := by
        simpa only [SubscribeCall.Proper, hphase] using hproper
      refine hp.toMatched.setCall hc ?_ ?_ ?_ <;>
        cases panics <;>
          simp [SubscribeCall.number?, SubscribeCall.Proper, SubscribeCall.HasFailed, hsignals]
    · exact hp.close hc hphase panics
  | abort call =>
    obtain ⟨c, number, hc, hphase, rfl⟩ := of_abort h
    have hsignals := (hp.proper c (List.mem_of_getElem? hc)).signals_of_offering hphase
    have hmatched : Matched { p with registry := p.registry.strike c.subscriber } :=
      ⟨hp.proper, hp.numbers, hp.made⟩
    refine hmatched.conclude hc hphase ?_ ?_ ?_ ?_ <;>
      simp [SubscribeCall.Proper, SubscribeCall.HasFailed, hsignals]
  | request | cancel | work | finish => exact hp.matched_of_target? h rfl

/-- A step keeps a publisher coherent. -/
theorem Coherent.step (hp : p.Coherent) (h : p.step l = some p') : p'.Coherent where
  toMatched := hp.matched_step h
  subscriptions s hs := by
    obtain ⟨k, hk⟩ := List.mem_iff_getElem?.mp hs
    exact (hp.turn h k).proper (fun t ht => hp.subscriptions t (List.mem_of_getElem? ht)) s hk

omit [DecidableEq ι] in
theorem coherent_start (count : UInt64) : (start count : Publisher ι).Coherent :=
  ⟨⟨nofun, rfl, nofun⟩, nofun⟩

theorem Coherent.run (hp : p.Coherent) {labels : List (Label ι)} (hrun : p.run labels = some p') :
    p'.Coherent :=
  run_induction (motive := fun _ q => q.Coherent) p hp
    (fun _ _ _ _ _ hq hstep => hq.step hstep) hrun

/-- A publisher is coherent after every run. -/
theorem coherent_of_run {count : UInt64} {labels : List (Label ι)}
    (hrun : (start count).run labels = some p) : p.Coherent :=
  (coherent_start count).run hrun

end Publisher

end StreamConformance.Range
