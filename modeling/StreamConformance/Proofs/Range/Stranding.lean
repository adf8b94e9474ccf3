import StreamConformance.Proofs.Range.Admission

/-!
# What a panic leaves behind

The subscriber of a subscription is struck from the list by the emitter, or by the call that cannot
start one, and by nobody else. So a callback that panics leaves an entry for good: a subscriber that
panics when it is offered a subscription never gets an emitter, and one that panics in a signal
unwinds its emitter. A call that has been refused has entered nobody, and one that cannot start an
emitter has struck the entry before it signals the error; a panic in either leaves nothing.

When no call is in progress and no emitter is alive, the list holds one entry for each panic that
leaves one, and the subscriber is refused from then on.

## Main definitions

* `Subscription.isStranded` — there is nobody any more to strike the subscriber from the list.
* `Publisher.casualties` — the subscriptions that lose their threads to a panic in a run.
* `Publisher.Abandoned` — what is in the list when all has come to rest.

## Main results

* `Publisher.casualties_of_run` — the stranded subscriptions are those that have lost their threads
  to a panic.
* `Publisher.abandoned_of_run` — what is in the list at rest, whoever has panicked.
-/

namespace StreamConformance.Range

variable {ι : Type}

/-! ### Stranded subscriptions -/

namespace Subscription

/-- The subscriber has panicked when it was offered the subscription, so that no emitter has
started, or in a signal, so that the emitter has been unwound. -/
def isStranded (s : Subscription ι) : Bool :=
  match s.worker with
  | .lost => true
  | .running e => e.phase == .unwound
  | .unborn | .signalling .. | .unstarted => false

/-- Where there is no thread any more the subscriber has been struck, or the subscription is
stranded. -/
theorem listing?_of_ended {s : Subscription ι} (hunborn : s.worker ≠ .unborn)
    (hover : s.worker.isAlive = false) :
    s.listing? = if s.isStranded then some s.subscriber else none := by
  rcases hw : s.worker with _ | e | _ | _ | _
  · exact absurd hw hunborn
  · have hphase : e.phase = .ended ∨ e.phase = .unwound := by
      simpa [hw, Worker.isAlive, Emitter.isOver, Decidable.or_iff_not_imp_left] using hover
    rcases hphase with hphase | hphase <;> simp [listing?, hasLeft, isStranded, hw, hphase]
  · simp [hw, Worker.isAlive] at hover
  · simp [listing?, hasLeft, isStranded, hw]
  · simp [listing?, isStranded, hw]

end Subscription

/-- Whether a callback ends in a panic. -/
def Label.panics : Label ι → Bool
  | .resume _ panics | .finish _ panics => panics
  | .subscribe _ | .abort _ | .request .. | .cancel _ | .work _ => false

/-- Without a panic no subscription is stranded that was not before. -/
theorem Turn.stranded_iff {count : UInt64} {k : Nat} {l : Label ι} {o o' : Option (Subscription ι)}
    (h : Turn count k l o o') (hl : l.panics = false) :
    o'.any Subscription.isStranded = o.any Subscription.isStranded := by
  cases h with
  | idle | opened | requested | cancelled => rfl
  | born hw | aborted hw => simp [Subscription.isStranded, hw, Emitter.start]
  | lost | unwound => simp [Label.panics] at hl
  | advanced hw hstep =>
    rcases Emitter.of_silent hstep with ⟨hphase, -, -, rfl⟩ | ⟨hphase, -, -, rfl⟩ |
      ⟨hphase, -, rfl⟩ | ⟨hphase, -, rfl⟩ | ⟨hphase, -, rfl⟩ <;>
      simp [Subscription.isStranded, hw, hphase]
  | signalled hw hstep =>
    rcases Emitter.of_signal hstep with ⟨hphase, -⟩ | ⟨hphase, -⟩ | ⟨hphase, -⟩ <;>
      simp [Subscription.isStranded, hw, hphase]
  | left hw hstep =>
    obtain ⟨hphase, rfl⟩ := Emitter.of_leave hstep
    simp [Subscription.isStranded, hw, hphase]
  | returned hw hphase =>
    rcases hphase with hphase | hphase <;> simp [Subscription.isStranded, hw, hphase]

/-- The subscription that a call is offering. -/
def SubscribeCall.offer? (c : SubscribeCall ι) : Option Nat :=
  match c.phase with
  | .offering number => some number
  | .refusing | .failing | .returned | .panicked => none

namespace Publisher

variable {p p' : Publisher ι} {l : Label ι} {k number : Nat}

/-- The subscription with this number is stranded. -/
def Stranded (p : Publisher ι) (k : Nat) : Prop :=
  p.subscriptions[k]?.any Subscription.isStranded = true

theorem stranded_iff : p.Stranded k ↔
    ∃ s, p.subscriptions[k]? = some s ∧ s.isStranded = true := by
  rw [Stranded, Option.any_eq_true]

/-- The subscription that loses its thread to a panic when the next thing is done: its subscriber
panics when it is offered the subscription, or in a signal of the emitter. -/
def casualty? (p : Publisher ι) : Label ι → Option Nat
  | .resume call true => p.calls[call]?.bind SubscribeCall.offer?
  | .finish k true => some k
  | .resume _ false | .finish _ false | .subscribe _ | .abort _ => none
  | .request .. | .cancel _ | .work _ => none

theorem casualty?_of_panics (hl : l.panics = false) : p.casualty? l = none := by
  cases l with
  | resume _ panics | finish _ panics =>
    obtain rfl : panics = false := hl
    rfl
  | subscribe | abort | request | cancel | work => rfl

/-- A subscription whose thread becomes one of a subscriber that has panicked is stranded, and the
others are as they were. -/
theorem stranded_setWorker {s : Subscription ι} (hs : p.subscriptions[number]? = some s)
    {w : Worker} (hw : Subscription.isStranded { s with worker := w } = true)
    (hplace : p'.subscriptions = (p.setWorker number w).subscriptions) (k : Nat) :
    p'.Stranded k ↔ p.Stranded k ∨ some number = some k := by
  rw [Stranded, hplace, setWorker_eq hs, getElem?_setSubscription hs]
  by_cases hk : number = k
  · simp [hk, hw]
  · simp [hk, Stranded]

variable [DecidableEq ι]

/-- After a step those subscriptions are stranded that were before, and the one that loses its
thread to a panic. -/
theorem Coherent.stranded_step (hp : p.Coherent) (h : p.step l = some p') (k : Nat) :
    p'.Stranded k ↔ p.Stranded k ∨ p.casualty? l = some k := by
  cases hl : l.panics with
  | false =>
    rw [casualty?_of_panics hl, Stranded, (hp.turn h k).stranded_iff hl, Stranded]
    simp
  | true =>
    cases l with
    | subscribe | abort | request | cancel | work => simp [Label.panics] at hl
    | resume call panics =>
      obtain rfl : panics = true := hl
      obtain ⟨c, hc, hmove⟩ := of_resume h
      have hcasualty : p.casualty? (.resume call true) = c.offer? := by simp [casualty?, hc]
      rw [hcasualty]
      obtain ⟨number, hphase, rfl⟩ | ⟨hphase, rfl⟩ | ⟨hphase, rfl⟩ := hmove
      · obtain ⟨-, s, hs, -⟩ := hp.exists_offered hc hphase
        rw [SubscribeCall.offer?, hphase]
        exact stranded_setWorker hs (w := .lost) rfl rfl k
      all_goals
        -- what such a call has entered, if anything, has been struck before
        simp [SubscribeCall.offer?, hphase, Stranded, setCall]
    | finish number panics =>
      obtain rfl : panics = true := hl
      obtain ⟨s, o, e, hs, -, rfl⟩ := of_finish h
      exact stranded_setWorker hs (w := .running e.unwind) rfl rfl k

theorem Coherent.not_stranded_of_casualty? (hp : p.Coherent) (h : p.step l = some p') {k : Nat}
    (hk : p.casualty? l = some k) : ¬p.Stranded k := by
  rw [stranded_iff]
  rintro ⟨s, hs, hstranded⟩
  cases l with
  | subscribe | abort | request | cancel | work => simp [casualty?] at hk
  | resume call panics =>
    cases panics with
    | false => simp [casualty?] at hk
    | true =>
      obtain ⟨c, hc, hmove⟩ := of_resume h
      have hoffer : c.offer? = some k := by simpa [casualty?, hc] using hk
      obtain ⟨number, hphase, -⟩ | ⟨hphase, -⟩ | ⟨hphase, -⟩ := hmove
      · obtain rfl : number = k := by simpa [SubscribeCall.offer?, hphase] using hoffer
        obtain ⟨-, t, ht, -, hunborn⟩ := hp.exists_offered hc hphase
        obtain rfl := Option.some.inj (hs.symm.trans ht)
        simp [Subscription.isStranded, hunborn] at hstranded
      all_goals simp [SubscribeCall.offer?, hphase] at hoffer
  | finish number panics =>
    cases panics with
    | false => simp [casualty?] at hk
    | true =>
      obtain rfl : number = k := by simpa [casualty?] using hk
      obtain ⟨t, o, e, ht, hw, -⟩ := of_finish h
      obtain rfl := Option.some.inj (hs.symm.trans ht)
      simp [Subscription.isStranded, hw] at hstranded

/-! ### Panics of a run -/

/-- The subscriptions that lose their threads to a panic in a run, one after the other. -/
def casualties (p : Publisher ι) (labels : List (Label ι)) : List Nat :=
  p.occurrences casualty? labels

variable {count : UInt64} {labels : List (Label ι)}

/-- In a run a subscription loses its thread to one panic at most, and those that have lost it are
stranded. -/
theorem casualties_of_run (hrun : (start count).run labels = some p) :
    ((start count).casualties labels).Nodup ∧
      ∀ k, k ∈ (start count).casualties labels ↔ p.Stranded k := by
  have hstart (k : Nat) : ¬(start count : Publisher ι).Stranded k := by simp [Stranded, start]
  refine occurrences_of_run hstart ?_ ?_ hrun
  · exact fun _ _ _ _ hq hstep k => (coherent_of_run hq).not_stranded_of_casualty? hstep
  · exact fun _ _ _ _ hq hstep => (coherent_of_run hq).stranded_step hstep

/-! ### What is left at rest -/

/-- What is in the list when no call is in progress and no emitter is alive, after a run in which
these subscriptions have lost their threads to a panic. -/
structure Abandoned (p : Publisher ι) (casualties : List Nat) : Prop where
  /-- No subscription has had two panics. -/
  nodup : casualties.Nodup
  /-- Nobody is there to strike the subscriber of a casualty, and of a casualty only. -/
  stranded : ∀ k, k ∈ casualties ↔ p.Stranded k
  /-- The list holds the subscribers of the casualties, in the order of their subscriptions. -/
  entries : p.registry.active =
    (p.subscriptions.filter Subscription.isStranded).map Subscription.subscriber
  /-- There is one entry for each casualty. -/
  length : p.registry.active.length = casualties.length
  /-- The call that a subscriber makes next is answered with the error for a subscriber that is
  listed if and only if it is the subscriber of a casualty. -/
  refused : ∀ i, ∃ c, ((p.subscribe i).step (.resume p.calls.length false)).map Publisher.calls =
      some (p.calls ++ [c]) ∧ c.subscriber = i ∧ (.onDuplicate ∈ c.signals ↔
        ∃ k ∈ casualties, ∃ s, p.subscriptions[k]? = some s ∧ s.subscriber = i)

omit [DecidableEq ι]

/-- At rest the list holds the subscribers of the stranded subscriptions. -/
theorem Tidy.active_of_rest (htidy : p.Tidy) (hp : p.Coherent) (hrest : p.isAtRest = true) :
    p.registry.active =
      (p.subscriptions.filter Subscription.isStranded).map Subscription.subscriber := by
  rw [isAtRest, Bool.and_eq_true, List.all_eq_true, List.all_eq_true] at hrest
  have hlisting : ∀ s ∈ p.subscriptions,
      s.listing? = if s.isStranded then some s.subscriber else none := by
    intro s hs
    obtain ⟨k, hk⟩ := List.mem_iff_getElem?.mp hs
    obtain ⟨c, hc, -, hmade⟩ := hp.exists_made hk
    refine Subscription.listing?_of_ended (fun hunborn => ?_) (by simpa using hrest.2 s hs)
    have hopen := SubscribeCall.isOpen_of_offering (hmade.unborn.mp hunborn)
    simpa [hopen] using hrest.1 c hc
  rw [htidy.entries, List.filterMap_congr hlisting, ← List.filterMap_eq_map,
    List.filterMap_filter]
  rfl

/-- At rest the subscribers of the casualties are listed, and nobody else. -/
theorem mem_active_of_rest {casualties : List Nat} (hmem : ∀ k, k ∈ casualties ↔ p.Stranded k)
    (hactive : p.registry.active =
      (p.subscriptions.filter Subscription.isStranded).map Subscription.subscriber) (i : ι) :
    i ∈ p.registry.active ↔
      ∃ k ∈ casualties, ∃ s, p.subscriptions[k]? = some s ∧ s.subscriber = i := by
  simp only [hactive, hmem, stranded_iff, List.mem_map, List.mem_filter]
  constructor
  · rintro ⟨s, ⟨hs, hstranded⟩, rfl⟩
    obtain ⟨k, hk⟩ := List.mem_iff_getElem?.mp hs
    exact ⟨k, ⟨s, hk, hstranded⟩, s, hk, rfl⟩
  · rintro ⟨k, ⟨s, hs, hstranded⟩, t, ht, rfl⟩
    obtain rfl := Option.some.inj (hs.symm.trans ht)
    exact ⟨s, ⟨List.mem_of_getElem? hs, hstranded⟩, rfl⟩

variable [DecidableEq ι]

/-- The call that a subscriber makes next is answered with the error for a subscriber that is listed
if and only if it is listed. -/
theorem onDuplicate_mem_iff (p : Publisher ι) (i : ι) : ∃ c,
    ((p.subscribe i).step (.resume p.calls.length false)).map Publisher.calls =
      some (p.calls ++ [c]) ∧
    c.subscriber = i ∧ (.onDuplicate ∈ c.signals ↔ i ∈ p.registry.active) := by
  by_cases hi : i ∈ p.registry.active
  · refine ⟨⟨i, .failing, [.onSubscribeInert, .onDuplicate]⟩, ?_, rfl, by simp [hi]⟩
    rw [subscribe_of_mem hi]
    simp [step, resume, setCall, Places.modify_concat]
  · refine ⟨⟨i, .returned, [.onSubscribe p.subscriptions.length]⟩, ?_, rfl, by simp [hi]⟩
    rw [subscribe_of_notMem hi]
    simp [step, resume, setCall, setWorker, Places.modify_concat]

/-- A panic that costs a subscription its thread leaves its entry in the list for good: when no call
is in progress and no emitter is alive, the list holds one entry for each of them, and its
subscriber is refused. -/
theorem abandoned_of_run (hrun : (start count).run labels = some p) (hrest : p.isAtRest = true) :
    p.Abandoned ((start count).casualties labels) := by
  have hp := coherent_of_run hrun
  have hactive := (tidy_of_run hrun).active_of_rest hp hrest
  obtain ⟨hnodup, hmem⟩ := casualties_of_run hrun
  refine ⟨hnodup, hmem, hactive, ?_, fun i => ?_⟩
  · rw [hactive, List.length_map, Places.length_filter hnodup hmem]
  · obtain ⟨c, hcalls, hsubscriber, hduplicate⟩ := p.onDuplicate_mem_iff i
    exact ⟨c, hcalls, hsubscriber, hduplicate.trans (mem_active_of_rest hmem hactive i)⟩

/-- One subscriber cancels, the next panics in its first element, and a third panics when it is
offered a subscription; its second call is refused, and a panic in that leaves nothing behind. -/
theorem abandoned_of_run_three :
    let labels : List (Label Nat) := [.subscribe 7, .resume 0 false, .subscribe 8, .resume 1 false,
      .request 1 1, .work 1, .work 1, .work 1, .finish 1 true, .subscribe 9, .cancel 0, .work 0,
      .work 0, .resume 2 true, .work 0, .subscribe 9, .resume 3 true]
    ∃ p, (start 5).run labels = some p ∧ p.isAtRest = true ∧
      (start 5).casualties labels = [1, 2] ∧ p.Abandoned [1, 2] ∧ p.registry.active = [8, 9] := by
  intro labels
  let p : Publisher Nat := ⟨5, ⟨[8, 9]⟩,
    [⟨7, ⟨0, true, false⟩, .running ⟨0, .ended⟩, []⟩,
      ⟨8, ⟨0, false, false⟩, .running ⟨1, .unwound⟩, [.next 0]⟩, ⟨9, .empty, .lost, []⟩],
    [⟨7, .returned, [.onSubscribe 0]⟩, ⟨8, .returned, [.onSubscribe 1]⟩,
      ⟨9, .panicked, [.onSubscribe 2]⟩, ⟨9, .panicked, [.onSubscribeInert]⟩]⟩
  have hrun : (start 5).run labels = some p := by decide
  have hcasualties : (start 5).casualties labels = [1, 2] := by decide
  exact ⟨p, hrun, rfl, hcasualties, hcasualties ▸ abandoned_of_run hrun rfl, rfl⟩

/-- The list is not empty whenever no call is in progress and no emitter is alive: a subscriber that
panics in its completion stays listed. -/
theorem active_of_isAtRest_of_panic : ¬∀ (count : UInt64) (labels : List (Label Nat)) p,
    (start count).run labels = some p → p.isAtRest = true → p.registry.active = [] := by
  intro h
  have hlisted := h 0 [.subscribe 7, .resume 0 false, .work 0, .work 0, .finish 0 true] _ rfl rfl
  exact absurd hlisted (by decide)

end Publisher

end StreamConformance.Range
