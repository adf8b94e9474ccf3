import StreamConformance.Proofs.Range.Registry
import StreamConformance.Text.Quoted

/-!
# Who is admitted to a range publisher

A subscribe call is refused if and only if its subscriber is listed at that moment; a call that is
not refused enters the subscriber and makes a subscription, whose emitter starts when the subscriber
has been offered it. As long as nobody panics, and a thread can be started for every emitter, every
emitter strikes its entry, so that nobody is listed when all has come to rest.

## Main definitions

* `Publisher.Calm` — nobody has panicked, and every emitter that was due has been started.
* `SubscribeCall.Answered` — what has come of a subscribe call.
* `Publisher.Changes` — what a step changes of the list and of the subscriptions.

## Main results

* `Publisher.orderly_of_run` — calls, entries and emitters, in every calm run.
-/

namespace StreamConformance.Range

variable {ι : Type}

/-! ### Calm runs -/

/-- Whether no callback ends in a panic and no thread fails to start. -/
def Label.isCalm : Label ι → Bool
  | .resume _ panics | .finish _ panics => !panics
  | .abort _ => false
  | .subscribe _ | .request .. | .cancel _ | .work _ => true

/-- The subscriber has not panicked, and its emitter, if it was due, has been started. -/
structure Subscription.Calm (s : Subscription ι) : Prop where
  kept : s.worker ≠ .lost
  started : s.worker ≠ .unstarted
  inOrder : ∀ e, s.worker = .running e → e.phase ≠ .unwound

/-- Nobody has panicked, and every emitter that was due has been started. -/
structure Publisher.Calm (p : Publisher ι) : Prop where
  calls : ∀ c ∈ p.calls, c.phase ≠ .panicked
  subscriptions : ∀ s ∈ p.subscriptions, s.Calm

theorem Turn.calm {count : UInt64} {k : Nat} {l : Label ι} {o o' : Option (Subscription ι)}
    (h : Turn count k l o o') (hl : l.isCalm = true) (ho : ∀ s ∈ o, s.Calm) :
    ∀ s ∈ o', s.Calm := by
  cases h with
  | idle => exact ho
  | opened => rintro _ ⟨⟩; exact ⟨nofun, nofun, nofun⟩
  | born => rintro _ ⟨⟩; exact ⟨nofun, nofun, by rintro _ ⟨⟩; exact nofun⟩
  | lost | aborted | unwound => simp [Label.isCalm] at hl
  | requested | cancelled =>
    rintro _ ⟨⟩
    obtain ⟨hkept, hstarted, hinOrder⟩ := ho _ rfl
    exact ⟨hkept, hstarted, hinOrder⟩
  | advanced hw hstep =>
    rintro _ ⟨⟩
    refine ⟨nofun, nofun, ?_⟩
    rintro _ ⟨⟩
    rcases Emitter.of_silent hstep with ⟨-, -, -, rfl⟩ | ⟨-, -, -, rfl⟩ | ⟨-, -, rfl⟩ |
      ⟨-, -, rfl⟩ | ⟨-, -, rfl⟩ <;> exact nofun
  | signalled => rintro _ ⟨⟩; exact ⟨nofun, nofun, nofun⟩
  | left hw hstep =>
    rintro _ ⟨⟩
    refine ⟨nofun, nofun, ?_⟩
    rintro _ ⟨⟩
    rw [(Emitter.of_leave hstep).2]
    exact nofun
  | returned hw hphase =>
    rintro _ ⟨⟩
    refine ⟨nofun, nofun, ?_⟩
    rintro _ ⟨⟩
    rcases hphase with hphase | hphase <;> simp [hphase]

namespace SubscribeCall

variable {c : SubscribeCall ι}

/-- A call that has made a subscription has signalled nothing else, unless there is no thread for
the emitter. -/
theorem Proper.signals_of_number? (hc : c.Proper) {number : Nat} (h : c.number? = some number) :
    c.signals = [.onSubscribe number] ∨ c.signals = [.onSubscribe number, .onUnstarted] := by
  rcases hc.signals_cases with ⟨_, h'⟩ | h' | h' | ⟨_, h'⟩ <;> simp_all [number?]

/-- A call that has made no subscription has offered one that does nothing. When it has returned it
has signalled the error, too. -/
theorem Proper.signals_of_refused (hc : c.Proper) (h : c.number? = none)
    (hphase : c.phase ≠ .panicked) : (c.signals = [.onSubscribeInert] ∧ c.isOpen = true) ∨
      c.signals = [.onSubscribeInert, .onDuplicate] := by
  have of_hasFailed (hfailed : c.HasFailed) : c.signals = [.onSubscribeInert, .onDuplicate] := by
    rcases hfailed with hfailed | ⟨number, hfailed⟩
    · exact hfailed
    · simp [number?, hfailed] at h
  unfold Proper at hc
  split at hc
  next => simp [number?, hc] at h
  next hphase => exact .inl ⟨hc, by simp [isOpen, hphase]⟩
  next => exact .inr (of_hasFailed hc)
  next =>
    obtain ⟨number, hc⟩ | hc := hc
    · simp [number?, hc] at h
    · exact .inr (of_hasFailed hc)
  next hpanicked => exact absurd hpanicked hphase

/-- A call that has signalled nothing but its offer is in progress as long as it offers. -/
theorem Proper.isOpen_iff (hc : c.Proper) {number : Nat} (h : c.signals = [.onSubscribe number]) :
    c.isOpen = true ↔ c.phase = .offering number := by
  unfold Proper HasFailed at hc
  unfold isOpen
  split at hc <;> simp_all

theorem Proper.isOpen_iff_refusing (hc : c.Proper) (h : c.signals = [.onSubscribeInert]) :
    c.isOpen = true ↔ c.phase = .refusing := by
  unfold Proper HasFailed at hc
  unfold isOpen
  split at hc <;> simp_all

theorem isOpen_of_offering {number : Nat} (h : c.phase = .offering number) : c.isOpen = true := by
  simp [isOpen, h]

theorem Proper.number?_append (hc : c.Proper) (phase : CallPhase) (signals : List CallSignal) :
    number? { c with phase, signals := c.signals ++ signals } = c.number? := by
  rcases hc.signals_cases with ⟨_, h⟩ | h | h | ⟨_, h⟩ <;> simp [number?, h]

/-- From where a call is `c` to where it is `d` it keeps its subscription and what it has signalled,
and if it is over it does nothing any more. -/
structure GoesOn (c d : SubscribeCall ι) : Prop where
  subscriber : d.subscriber = c.subscriber
  number : d.number? = c.number?
  signals : c.signals <+: d.signals
  still : c.isOpen = false → d = c

protected theorem GoesOn.refl (c : SubscribeCall ι) : c.GoesOn c :=
  ⟨rfl, rfl, List.prefix_refl _, fun _ => rfl⟩

protected theorem GoesOn.trans {d e : SubscribeCall ι} (h : c.GoesOn d) (h' : d.GoesOn e) :
    c.GoesOn e where
  subscriber := h'.subscriber.trans h.subscriber
  number := h'.number.trans h.number
  signals := h.signals.trans h'.signals
  still hc := by
    obtain rfl := h.still hc
    exact h'.still hc

end SubscribeCall

/-! ### What comes of calls and of steps -/

/-- What has come of a subscribe call. -/
inductive SubscribeCall.Answered (p : Publisher ι) (c : SubscribeCall ι) : Prop
  /-- The call has offered a subscription of its own, whose emitter starts when that is over. -/
  | accepted (number : Nat) (s : Subscription ι) (signals : c.signals = [.onSubscribe number])
      (place : p.subscriptions[number]? = some s) (subscriber : s.subscriber = c.subscriber)
      (unborn : s.worker = .unborn ↔ c.isOpen = true)
  /-- The call has offered a subscription that does nothing, and has signalled the error for a
  subscriber that is listed, unless the offer is still in progress. -/
  | refused (signals : (c.signals = [.onSubscribeInert] ∧ c.isOpen = true) ∨
      c.signals = [.onSubscribeInert, .onDuplicate])

/-- What a step changes of the list and of the subscriptions. -/
structure Publisher.Changes [DecidableEq ι] (p : Publisher ι) (l : Label ι) (p' : Publisher ι) :
    Prop where
  /-- Who is not listed is entered and gets a subscription. -/
  enters : ∀ i, l = .subscribe i → i ∉ p.registry.active →
    p'.registry.active = p.registry.active ++ [i] ∧
      p'.subscriptions = p.subscriptions ++ [⟨i, .empty, .unborn, []⟩]
  /-- A subscriber that is listed changes nothing by another call. -/
  refuses : ∀ i, l = .subscribe i → i ∈ p.registry.active →
    p'.registry = p.registry ∧ p'.subscriptions = p.subscriptions
  /-- Nor does a call that has been refused when it goes on. -/
  declines : ∀ call panics c, l = .resume call panics → p.calls[call]? = some c →
    c.number? = none → p'.registry = p.registry ∧ p'.subscriptions = p.subscriptions
  /-- The emitter of a subscription starts when its subscriber returns from the offer. -/
  starts : ∀ call c k, l = .resume call false → p.calls[call]? = some c → c.number? = some k →
    ∃ s, p.subscriptions[k]? = some s ∧ s.worker = .unborn ∧ p'.registry = p.registry ∧
      p'.subscriptions = p.subscriptions.set k { s with worker := .running .start }
  /-- An emitter that leaves takes the entry of its own subscription out of the list. -/
  departs : ∀ k, p.departure? l = some k → ∃ s e, p.subscriptions[k]? = some s ∧
    s.worker = .running e ∧
    p.registry.active = (p.subscriptions.take k).filterMap Subscription.listing? ++
      s.subscriber :: (p.subscriptions.drop (k + 1)).filterMap Subscription.listing? ∧
    p'.registry.active = (p.subscriptions.take k).filterMap Subscription.listing? ++
      (p.subscriptions.drop (k + 1)).filterMap Subscription.listing? ∧
    p'.subscriptions =
      p.subscriptions.set k { s with worker := .running { e with phase := .ended } }
  /-- A call that cannot start an emitter takes the entry of its subscription out of the list. -/
  aborts : ∀ call, l = .abort call → ∃ c k s, p.calls[call]? = some c ∧ c.number? = some k ∧
    p.subscriptions[k]? = some s ∧ s.worker = .unborn ∧
    p.registry.active = (p.subscriptions.take k).filterMap Subscription.listing? ++
      s.subscriber :: (p.subscriptions.drop (k + 1)).filterMap Subscription.listing? ∧
    p'.registry.active = (p.subscriptions.take k).filterMap Subscription.listing? ++
      (p.subscriptions.drop (k + 1)).filterMap Subscription.listing? ∧
    p'.subscriptions = p.subscriptions.set k { s with worker := .unstarted }
  /-- Nothing else changes the list. -/
  others : (∀ i, l ≠ .subscribe i) → (∀ call, l ≠ .abort call) → p.departure? l = none →
    p'.registry = p.registry

/-- How the list, the calls and the emitters stand after a calm run. -/
structure Publisher.Orderly [DecidableEq ι] (p : Publisher ι) (count : UInt64)
    (labels : List (Label ι)) : Prop where
  /-- Nobody is listed twice. -/
  nodup : p.registry.active.Nodup
  /-- The list holds the subscribers whose emitters have not left, in the order of their calls. -/
  entries : p.registry.active = p.subscriptions.filterMap Subscription.listing?
  /-- No subscriber has two subscriptions whose emitters have not left. -/
  unique : ∀ (i j : Nat) (s t : Subscription ι), p.subscriptions[i]? = some s →
    p.subscriptions[j]? = some t → s.subscriber = t.subscriber →
      s.hasLeft = false → t.hasLeft = false → i = j
  /-- Nobody is listed when no call is in progress and no emitter is alive. -/
  empty : p.isAtRest = true → p.registry.active = []
  answered : ∀ c ∈ p.calls, c.Answered p
  /-- The calls that have not been refused have made one subscription each. -/
  numbers : p.calls.filterMap SubscribeCall.number? = List.range p.subscriptions.length
  /-- A call has been refused if and only if its subscriber was listed when it began. -/
  decided : ∀ before i after q, labels = before ++ .subscribe i :: after →
    (start count).run before = some q → ∃ c, p.calls[q.calls.length]? = some c ∧
      c.subscriber = i ∧ (c.number? = none ↔ i ∈ q.registry.active)
  changes : ∀ l p', p.step l = some p' → p.Changes l p'
  /-- No emitter leaves twice. -/
  once : ((start count).departures labels).Nodup
  departed : ∀ k, k ∈ (start count).departures labels ↔ p.HasLeft k
  /-- An emitter that is not alive has left. -/
  ended : ∀ (k : Nat) (s : Subscription ι), p.subscriptions[k]? = some s →
    s.worker.isAlive = true ∨ s.worker = .unborn ∨ s.hasLeft = true
  /-- An emitter that has left signals nothing more. -/
  silent : ∀ more q, p.run more = some q → ∀ (k : Nat) (s : Subscription ι),
    p.subscriptions[k]? = some s → s.hasLeft = true →
      ∃ t, q.subscriptions[k]? = some t ∧ t.hasLeft = true ∧ t.signals = s.signals

namespace Publisher

section Calls

variable [DecidableEq ι] {p p' q : Publisher ι} {l : Label ι} {labels : List (Label ι)}

omit [DecidableEq ι] in
theorem Matched.exists_made (hp : p.Matched) {k : Nat} {s : Subscription ι}
    (hs : p.subscriptions[k]? = some s) : ∃ c ∈ p.calls, c.number? = some k ∧ c.Made k s := by
  have hlt : k < p.subscriptions.length := (List.getElem?_eq_some_iff.mp hs).1
  have hmem : k ∈ p.calls.filterMap SubscribeCall.number? := by
    rw [hp.numbers]
    exact List.mem_range.mpr hlt
  obtain ⟨c, hc, hnumber⟩ := List.mem_filterMap.mp hmem
  obtain ⟨t, ht, hmade⟩ := hp.made c hc k hnumber
  obtain rfl := Option.some.inj (hs.symm.trans ht)
  exact ⟨c, hc, hnumber, hmade⟩

omit [DecidableEq ι] in
/-- In a calm run an emitter is alive, or it has not started or has left. -/
theorem Calm.ended (hcalm : p.Calm) {k : Nat} {s : Subscription ι}
    (hs : p.subscriptions[k]? = some s) :
    s.worker.isAlive = true ∨ s.worker = .unborn ∨ s.hasLeft = true := by
  obtain ⟨hkept, hstarted, hinOrder⟩ := hcalm.subscriptions s (List.mem_of_getElem? hs)
  rcases hw : s.worker with _ | e | _ | _ | _
  · exact .inr (.inl rfl)
  · have hphase := hinOrder e hw
    cases hover : e.isOver with
    | false => exact .inl (by simp [Worker.isAlive, hover])
    | true =>
      simp [Emitter.isOver, hphase] at hover
      exact .inr (.inr (by simp [Subscription.hasLeft, hw, hover]))
  · exact .inl rfl
  · exact absurd hw hkept
  · exact absurd hw hstarted

omit [DecidableEq ι] in
/-- In a calm run a call that has made a subscription has signalled nothing but its offer. -/
theorem Calm.signals_of_number? (hcalm : p.Calm) (hp : p.Coherent) {c : SubscribeCall ι}
    (hc : c ∈ p.calls) {number : Nat} (h : c.number? = some number) :
    c.signals = [.onSubscribe number] := by
  obtain ⟨s, hs, hmade⟩ := hp.made c hc number h
  refine ((hp.proper c hc).signals_of_number? h).resolve_right fun hfailed => ?_
  exact (hcalm.subscriptions s (List.mem_of_getElem? hs)).started (hmade.unstarted.mpr hfailed)

/-- An emitter that has left signals nothing more, however the run goes on. -/
theorem Coherent.hasLeft_run (hp : p.Coherent) (hrun : p.run labels = some q) (k : Nat)
    (s : Subscription ι) (hs : p.subscriptions[k]? = some s) (hleft : s.hasLeft = true) :
    ∃ t, q.subscriptions[k]? = some t ∧ t.hasLeft = true ∧ t.signals = s.signals := by
  refine (run_induction (motive := fun _ r => r.Coherent ∧ ∃ t, r.subscriptions[k]? = some t ∧
    t.hasLeft = true ∧ t.signals = s.signals) p ⟨hp, s, hs, hleft, rfl⟩ ?_ hrun).2
  rintro _ r l r' - ⟨hr, t, ht, hleft, hsignals⟩ hstep
  have hturn := hr.turn hstep k
  rw [ht] at hturn
  obtain ⟨t', ht', hleft', hsignals'⟩ := hturn.of_hasLeft hleft
  exact ⟨hr.step hstep, t', ht', hleft', hsignals'.trans hsignals⟩

/-- A subscribe call is one more call. It is refused if and only if its subscriber is listed. -/
theorem calls_subscribe (p : Publisher ι) (i : ι) : ∃ c, (p.subscribe i).calls = p.calls ++ [c] ∧
    c.subscriber = i ∧ c.phase ≠ .panicked ∧ (c.number? = none ↔ i ∈ p.registry.active) := by
  by_cases hi : i ∈ p.registry.active
  · rw [subscribe_of_mem hi]
    exact ⟨_, rfl, rfl, nofun, iff_of_true rfl hi⟩
  · rw [subscribe_of_notMem hi]
    exact ⟨_, rfl, rfl, nofun, iff_of_false nofun hi⟩

omit [DecidableEq ι] in
theorem Matched.goesOn_setCall (hp : p.Matched) {call : Nat} {c d : SubscribeCall ι}
    (hc : p.calls[call]? = some c) (hopen : c.isOpen = true) {phase : CallPhase}
    {signals : List CallSignal} {j : Nat} (hd : p.calls[j]? = some d)
    (hcalls : p'.calls = (p.setCall call phase signals).calls) :
    ∃ d', p'.calls[j]? = some d' ∧ d.GoesOn d' := by
  rw [hcalls, Publisher.setCall, List.getElem?_modify, hd]
  by_cases hj : call = j
  · subst hj
    obtain rfl := Option.some.inj (hc.symm.trans hd)
    have hproper := hp.proper c (List.mem_of_getElem? hc)
    refine ⟨{ c with phase, signals := c.signals ++ signals }, by simp, rfl,
      hproper.number?_append phase signals, List.prefix_append .., fun hover => ?_⟩
    simp [hopen] at hover
  · exact ⟨d, by simp [hj], .refl d⟩

/-- A step keeps the calls made so far, with what has been decided on them. -/
theorem Coherent.call_step (hp : p.Coherent) (h : p.step l = some p') {j : Nat}
    {c : SubscribeCall ι} (hc : p.calls[j]? = some c) :
    ∃ d, p'.calls[j]? = some d ∧ c.GoesOn d := by
  cases l with
  | subscribe i =>
    obtain rfl := Option.some.inj h
    have hlt : j < p.calls.length := (List.getElem?_eq_some_iff.mp hc).1
    obtain ⟨d, hcalls, -⟩ := calls_subscribe p i
    exact ⟨c, by rw [hcalls, List.getElem?_append_left hlt, hc], .refl c⟩
  | resume call panics =>
    obtain ⟨d, hd, ⟨_, hphase, rfl⟩ | ⟨hphase, rfl⟩ | ⟨hphase, rfl⟩⟩ := of_resume h <;>
      exact hp.goesOn_setCall hd (by simp [SubscribeCall.isOpen, hphase]) hc rfl
  | abort call =>
    obtain ⟨d, number, hd, hphase, rfl⟩ := of_abort h
    exact hp.goesOn_setCall hd (SubscribeCall.isOpen_of_offering hphase) hc rfl
  | request | cancel | work | finish => exact ⟨c, (calls_of_target? h rfl).1 ▸ hc, .refl c⟩

/-- A run keeps the calls made before, with what has been decided on them. -/
theorem Coherent.call_run (hp : p.Coherent) (hrun : p.run labels = some q) {j : Nat}
    {c : SubscribeCall ι} (hc : p.calls[j]? = some c) : ∃ d, q.calls[j]? = some d ∧ c.GoesOn d := by
  refine (run_induction (motive := fun _ r => r.Coherent ∧ ∃ d, r.calls[j]? = some d ∧ c.GoesOn d)
    p ⟨hp, c, hc, .refl c⟩ ?_ hrun).2
  rintro _ r l r' - ⟨hr, d, hd, hgoes⟩ hstep
  obtain ⟨d', hd', hgoes'⟩ := hr.call_step hstep hd
  exact ⟨hr.step hstep, d', hd', hgoes.trans hgoes'⟩

theorem Calm.step (hcalm : p.Calm) (hp : p.Coherent) (hl : l.isCalm = true)
    (h : p.step l = some p') : p'.Calm where
  calls d hd := by
    cases l with
    | subscribe i =>
      obtain rfl := Option.some.inj h
      obtain ⟨c, hcalls, -, hphase, -⟩ := calls_subscribe p i
      rw [hcalls, List.mem_append, List.mem_singleton] at hd
      rcases hd with hd | rfl
      · exact hcalm.calls d hd
      · exact hphase
    | resume call panics =>
      obtain rfl : panics = false := by simpa [Label.isCalm] using hl
      obtain ⟨c, hc, ⟨_, -, rfl⟩ | ⟨-, rfl⟩ | ⟨-, rfl⟩⟩ := of_resume h
      all_goals
        rcases mem_calls_setCall hc hd with rfl | ⟨j, -, hj⟩
        · exact nofun
        · exact hcalm.calls d (List.mem_of_getElem? hj)
    | abort => simp [Label.isCalm] at hl
    | request | cancel | work | finish => exact hcalm.calls d ((calls_of_target? h rfl).1 ▸ hd)
  subscriptions s hs := by
    obtain ⟨k, hk⟩ := List.mem_iff_getElem?.mp hs
    refine (hp.turn h k).calm hl (fun t ht => ?_) s hk
    exact hcalm.subscriptions t (List.mem_of_getElem? ht)

theorem calm_of_run {count : UInt64} (hcalm : ∀ l ∈ labels, l.isCalm = true)
    (hrun : (start count).run labels = some p) : p.Calm := by
  refine run_induction (motive := fun labels q => (∀ l ∈ labels, l.isCalm = true) → q.Calm)
    (start count) (fun _ => ⟨nofun, nofun⟩) ?_ hrun hcalm
  intro labels q l q' hq ih hstep hcalm
  rw [List.forall_mem_append, List.forall_mem_singleton] at hcalm
  exact (ih hcalm.1).step (coherent_of_run hq) hcalm.2 hstep

omit [DecidableEq ι] in
/-- Nobody is listed when no call is in progress and no emitter is alive. -/
theorem Tidy.active_of_isAtRest (htidy : p.Tidy) (hp : p.Coherent) (hcalm : p.Calm)
    (h : p.isAtRest = true) : p.registry.active = [] := by
  rw [isAtRest, Bool.and_eq_true, List.all_eq_true, List.all_eq_true] at h
  rw [htidy.entries, List.filterMap_eq_nil_iff]
  intro s hs
  obtain ⟨k, hk⟩ := List.mem_iff_getElem?.mp hs
  rw [Subscription.listing?_eq_none_iff]
  rcases hcalm.ended hk with halive | hunborn | hleft
  · have hover := h.2 s hs
    simp [halive] at hover
  · obtain ⟨c, hc, -, hmade⟩ := hp.exists_made hk
    have hopen := SubscribeCall.isOpen_of_offering (hmade.unborn.mp hunborn)
    have hclosed := h.1 c hc
    simp [hopen] at hclosed
  · exact .inl hleft

omit [DecidableEq ι] in
theorem Coherent.answered (hp : p.Coherent) (hcalm : p.Calm) {c : SubscribeCall ι}
    (hc : c ∈ p.calls) : c.Answered p := by
  have hproper := hp.proper c hc
  rcases hnumber : c.number? with _ | number
  · exact .refused (hproper.signals_of_refused hnumber (hcalm.calls c hc))
  · obtain ⟨s, hs, hmade⟩ := hp.made c hc number hnumber
    have hsignals := hcalm.signals_of_number? hp hc hnumber
    exact .accepted number s hsignals hs hmade.subscriber
      (hmade.unborn.trans (hproper.isOpen_iff hsignals).symm)

/-- What a step changes. -/
theorem Tidy.changes (htidy : p.Tidy) (hp : p.Coherent) (hcalm : p.Calm) (h : p.step l = some p') :
    p.Changes l p' where
  enters i hl hi := by
    subst hl
    obtain rfl := Option.some.inj h
    rw [subscribe_of_notMem hi]
    exact ⟨rfl, rfl⟩
  refuses i hl hi := by
    subst hl
    obtain rfl := Option.some.inj h
    rw [subscribe_of_mem hi]
    exact ⟨rfl, rfl⟩
  declines call panics c hl hc hnumber := by
    subst hl
    obtain ⟨d, hd, ⟨number, hphase, rfl⟩ | ⟨-, rfl⟩ | ⟨-, rfl⟩⟩ := of_resume h
    · obtain rfl := Option.some.inj (hc.symm.trans hd)
      simp [(hp.exists_offered hc hphase).1] at hnumber
    · exact ⟨rfl, rfl⟩
    · exact ⟨rfl, rfl⟩
  starts call c k hl hc hnumber := by
    subst hl
    have hproper := hp.proper c (List.mem_of_getElem? hc)
    have hsignals := hcalm.signals_of_number? hp (List.mem_of_getElem? hc) hnumber
    obtain ⟨d, hd, hmove⟩ := of_resume h
    obtain rfl := Option.some.inj (hc.symm.trans hd)
    obtain ⟨number, hphase, rfl⟩ | ⟨hphase, -⟩ | ⟨hphase, -⟩ := hmove
    · obtain ⟨hoffering, s, hs, -, hunborn⟩ := hp.exists_offered hc hphase
      obtain rfl := Option.some.inj (hnumber.symm.trans hoffering)
      exact ⟨s, hs, hunborn, rfl, subscriptions_setWorker hs _⟩
    all_goals simp [SubscribeCall.Proper, SubscribeCall.HasFailed, hphase, hsignals] at hproper
  departs k hk := by
    obtain ⟨s, e, hw, hs⟩ := strikes_of_departure? h hk
    exact ⟨s, e, hs.place, hw, (htidy.strikes hs).1, (htidy.strikes hs).2, hs.subscriptions⟩
  aborts call hl := by
    subst hl
    obtain ⟨c, k, s, hc, hnumber, hunborn, hs⟩ := hp.strikes_of_abort h
    exact ⟨c, k, s, hc, hnumber, hs.place, hunborn, (htidy.strikes hs).1, (htidy.strikes hs).2,
      hs.subscriptions⟩
  others := registry_of_step h

/-- How the list of a range publisher, the calls and the emitters stand after a calm run. -/
theorem orderly_of_run {count : UInt64} (hcalm : ∀ l ∈ labels, l.isCalm = true)
    (hrun : (start count).run labels = some p) : p.Orderly count labels := by
  have hp := coherent_of_run hrun
  have htidy := tidy_of_run hrun
  have hquiet := calm_of_run hcalm hrun
  have hlisted {k : Nat} {s : Subscription ι} (hs : p.subscriptions[k]? = some s)
      (hleft : s.hasLeft = false) : s.listing? ≠ none := by
    have hstarted := (hquiet.subscriptions s (List.mem_of_getElem? hs)).started
    simp [Subscription.listing?_eq_none_iff, hleft, hstarted]
  refine ⟨htidy.nodup, htidy.entries, fun i j s t hs ht hsubscriber hsl htl =>
      htidy.eq_of_subscriber hs ht hsubscriber (hlisted hs hsl) (hlisted ht htl),
    htidy.active_of_isAtRest hp hquiet, fun c => hp.answered hquiet, hp.numbers, ?_,
    fun l p' => htidy.changes hp hquiet, (departures_of_run hrun).1, (departures_of_run hrun).2,
    fun k s => hquiet.ended, fun more q => hp.hasLeft_run⟩
  intro before i after q hlabels hq
  rw [hlabels, run_append, hq] at hrun
  obtain ⟨r, hr, hafter⟩ : ∃ r, q.step (.subscribe i) = some r ∧ r.run after = some p :=
    Option.bind_eq_some_iff.mp hrun
  obtain rfl : q.subscribe i = r := Option.some.inj hr
  obtain ⟨c, hcalls, hsubscriber, -, hrefused⟩ := calls_subscribe q i
  have hc : (q.subscribe i).calls[q.calls.length]? = some c := by
    rw [hcalls, List.getElem?_concat_length]
  obtain ⟨d, hd, hgoes⟩ := ((coherent_of_run hq).step hr).call_run hafter hc
  exact ⟨d, hd, hgoes.subscriber.trans hsubscriber, hgoes.number ▸ hrefused⟩

/-- After every run in which nobody panics and all threads can be started the list, the calls and
the emitters stand as they should, and the error that a refused call signals is an illegal state
that names rule 2.12. -/
theorem registry_safety {count : UInt64} (hcalm : ∀ l ∈ labels, l.isCalm = true)
    (hrun : (start count).run labels = some p) : p.Orderly count labels ∧
      ∃ cause, CallSignal.cause? .onDuplicate = some cause ∧ cause.kind = .illegalState ∧
        Text.occursIn "2.12" cause.message = true :=
  ⟨orderly_of_run hcalm hrun, duplicateCause, rfl, rfl, by decide⟩

/-- A subscriber that subscribes while it is offered a subscription, and once more while it is
signalled the completion, is refused both times; when the emitter has left it is entered again. -/
theorem registry_safety_again :
    let labels : List (Label Nat) := [.subscribe 7, .subscribe 7, .resume 1 false, .request 0 1,
      .resume 1 false, .resume 0 false, .work 0, .work 0, .work 0, .finish 0 false, .work 0,
      .work 0, .subscribe 7, .finish 0 false, .work 0, .subscribe 7]
    ∃ p, (start 1).run labels = some p ∧ (∀ l ∈ labels, l.isCalm = true) ∧
      p.Orderly 1 labels ∧ p.registry.active = [7] ∧ (start 1).departures labels = [0] ∧
      p.calls.map SubscribeCall.signals = [[.onSubscribe 0], [.onSubscribeInert, .onDuplicate],
        [.onSubscribeInert], [.onSubscribe 1]] := by
  intro labels
  let p : Publisher Nat := ⟨1, ⟨[7]⟩,
    [⟨7, ⟨0, false, false⟩, .running ⟨1, .ended⟩, [.next 0, .complete]⟩, ⟨7, .empty, .unborn, []⟩],
    [⟨7, .returned, [.onSubscribe 0]⟩, ⟨7, .returned, [.onSubscribeInert, .onDuplicate]⟩,
      ⟨7, .refusing, [.onSubscribeInert]⟩, ⟨7, .offering 1, [.onSubscribe 1]⟩]⟩
  have hrun : (start 1).run labels = some p := by decide
  have hcalm : ∀ l ∈ labels, l.isCalm = true := by decide
  exact ⟨p, hrun, hcalm, (registry_safety hcalm hrun).1, rfl, by decide, rfl⟩

end Calls

end Publisher

end StreamConformance.Range
