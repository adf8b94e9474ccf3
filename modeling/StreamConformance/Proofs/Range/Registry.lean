import Mathlib.Data.List.Nodup
import StreamConformance.Proofs.Range.Turns

/-!
# The list of active subscribers

However the threads of a range publisher interleave, the list of its active subscribers holds one
entry for each subscription whose emitter has not left, and nobody twice; a subscription for which
no thread could be started has no entry either. Whoever strikes an entry looks for the subscriber
only, and yet it strikes the entry of its own subscription: there is no other.

## Main definitions

* `Subscription.listing?` — the entry of a subscription.
* `Publisher.Tidy` — the list holds the entries of the subscriptions, and nobody twice.
* `Publisher.Strikes` — the entry of a subscription is struck from the list.
* `Publisher.departures` — the emitters that leave in a run, one after the other.

## Main results

* `Publisher.tidy_of_run` — the list is tidy after every run.
* `Publisher.Tidy.strikes` — which entry is struck.
* `Publisher.departures_of_run` — every emitter leaves once at most.
-/

namespace StreamConformance.Range

variable {ι : Type}

/-! ### Entries -/

namespace Subscription

/-- The emitter has struck its subscriber from the list. -/
def hasLeft (s : Subscription ι) : Bool :=
  match s.worker with
  | .running e => e.phase == .ended
  | .unborn | .signalling .. | .lost | .unstarted => false

/-- The emitter is about to strike its subscriber from the list. -/
def isLeaving (s : Subscription ι) : Bool :=
  match s.worker with
  | .running e => e.phase == .leaving
  | .unborn | .signalling .. | .lost | .unstarted => false

/-- The subscriber, which stays listed until the emitter has left or could not be started. -/
def listing? (s : Subscription ι) : Option ι :=
  if s.hasLeft = true ∨ s.worker = .unstarted then none else some s.subscriber

theorem listing?_eq_some_iff {s : Subscription ι} {i : ι} : s.listing? = some i ↔
    s.hasLeft = false ∧ s.worker ≠ .unstarted ∧ s.subscriber = i := by
  simp [listing?, and_assoc]

theorem listing?_eq_none_iff {s : Subscription ι} :
    s.listing? = none ↔ s.hasLeft = true ∨ s.worker = .unstarted := by
  simp [listing?, or_iff_not_imp_left]

theorem listing?_of_isLeaving {s : Subscription ι} (h : s.isLeaving = true) :
    s.listing? = some s.subscriber := by
  unfold isLeaving at h
  split at h
  next hw => simp_all [listing?, hasLeft]
  all_goals simp at h

theorem listing?_of_unborn {s : Subscription ι} (h : s.worker = .unborn) :
    s.listing? = some s.subscriber := by
  simp [listing?, hasLeft, h]

end Subscription

/-- A subscription stays with its subscriber, and its emitter has left if and only if it had before,
unless it leaves. -/
theorem Turn.stays {count : UInt64} {k : Nat} {l : Label ι} {s : Subscription ι}
    {o : Option (Subscription ι)} (h : Turn count k l (some s) o)
    (hleaving : l = .work k → s.isLeaving = false) :
    ∃ t, o = some t ∧ t.subscriber = s.subscriber ∧ t.hasLeft = s.hasLeft ∧
      ((∀ call, l ≠ .abort call) → (t.worker = .unstarted ↔ s.worker = .unstarted)) := by
  cases h with
  | idle | requested | cancelled => exact ⟨_, rfl, rfl, rfl, fun _ => .rfl⟩
  | aborted hw => exact ⟨_, rfl, rfl, by simp [Subscription.hasLeft, hw], fun h => absurd rfl (h _)⟩
  | born hw | lost hw =>
    exact ⟨_, rfl, rfl, by simp [Subscription.hasLeft, hw, Emitter.start], by simp [hw]⟩
  | advanced hw hstep =>
    refine ⟨_, rfl, rfl, ?_, by simp [hw]⟩
    rcases Emitter.of_silent hstep with ⟨hphase, -, -, rfl⟩ | ⟨hphase, -, -, rfl⟩ |
      ⟨hphase, -, rfl⟩ | ⟨hphase, -, rfl⟩ | ⟨hphase, -, rfl⟩ <;>
      simp [Subscription.hasLeft, hw, hphase]
  | signalled hw hstep =>
    refine ⟨_, rfl, rfl, ?_, by simp [hw]⟩
    rcases Emitter.of_signal hstep with ⟨hphase, -, -⟩ | ⟨hphase, -, -⟩ | ⟨hphase, -, -⟩ <;>
      simp [Subscription.hasLeft, hw, hphase]
  | left hw hstep =>
    have hphase := hleaving rfl
    simp [Subscription.isLeaving, hw, (Emitter.of_leave hstep).1] at hphase
  | returned hw hphase =>
    refine ⟨_, rfl, rfl, ?_, by simp [hw]⟩
    rcases hphase with hphase | hphase <;> simp [Subscription.hasLeft, hw, hphase]
  | unwound hw =>
    exact ⟨_, rfl, rfl, by simp [Subscription.hasLeft, hw, Emitter.unwind], by simp [hw]⟩

/-- Only a subscribe call makes a subscription. -/
theorem Turn.eq_none {count : UInt64} {k : Nat} {l : Label ι} {o : Option (Subscription ι)}
    (h : Turn count k l none o) : o = none ∨ ∃ i, l = .subscribe i ∧
      o = some ⟨i, .empty, .unborn, []⟩ := by
  cases h with
  | idle => exact .inl rfl
  | opened i => exact .inr ⟨i, rfl, rfl⟩

/-- A subscription keeps its entry unless its emitter leaves or cannot be started. -/
theorem Turn.map_listing? {count : UInt64} {k : Nat} {l : Label ι} {o o' : Option (Subscription ι)}
    (h : Turn count k l o o') (hsubscribe : ∀ i, l ≠ .subscribe i)
    (habort : ∀ call, l ≠ .abort call) (hleaving : l = .work k → ∀ s ∈ o, s.isLeaving = false) :
    o'.map Subscription.listing? = o.map Subscription.listing? := by
  cases o with
  | none =>
    obtain rfl | ⟨i, hl, -⟩ := h.eq_none
    · rfl
    · exact absurd hl (hsubscribe i)
  | some s =>
    obtain ⟨t, rfl, hsubscriber, hleft, hunstarted⟩ := h.stays fun hl => hleaving hl s rfl
    simp [Subscription.listing?, hsubscriber, hleft, hunstarted habort]

/-- An emitter that has left stays so, and nobody leaves but an emitter that is about to. -/
theorem Turn.any_hasLeft {count : UInt64} {k : Nat} {l : Label ι} {o o' : Option (Subscription ι)}
    (h : Turn count k l o o') (hleaving : l = .work k → ∀ s ∈ o, s.isLeaving = false) :
    o'.any Subscription.hasLeft = o.any Subscription.hasLeft := by
  cases o with
  | none => obtain rfl | ⟨i, -, rfl⟩ := h.eq_none <;> rfl
  | some s =>
    obtain ⟨t, rfl, -, hleft, -⟩ := h.stays fun hl => hleaving hl s rfl
    exact hleft

/-- An emitter that has left does nothing any more. -/
theorem Turn.of_hasLeft {count : UInt64} {k : Nat} {l : Label ι} {s : Subscription ι}
    {o : Option (Subscription ι)} (h : Turn count k l (some s) o) (hs : s.hasLeft = true) :
    ∃ t, o = some t ∧ t.hasLeft = true ∧ t.signals = s.signals := by
  cases h with
  | idle | requested | cancelled => exact ⟨_, rfl, hs, rfl⟩
  | born hw | lost hw | aborted hw | returned hw | unwound hw =>
    simp [Subscription.hasLeft, hw] at hs
  | advanced hw hstep =>
    rcases Emitter.of_silent hstep with ⟨hphase, -⟩ | ⟨hphase, -⟩ | ⟨hphase, -⟩ | ⟨hphase, -⟩ |
      ⟨hphase, -⟩ <;> simp [Subscription.hasLeft, hw, hphase] at hs
  | signalled hw hstep =>
    rcases Emitter.of_signal hstep with ⟨hphase, -⟩ | ⟨hphase, -⟩ | ⟨hphase, -⟩ <;>
      simp [Subscription.hasLeft, hw, hphase] at hs
  | left hw hstep => simp [Subscription.hasLeft, hw, (Emitter.of_leave hstep).1] at hs

theorem Registry.active_strike [DecidableEq ι] {r : Registry ι} {before after : List ι} {i : ι}
    (h : r.active = before ++ i :: after) (hnodup : r.active.Nodup) :
    (r.strike i).active = before ++ after := by
  rw [h, List.nodup_middle, List.nodup_cons] at hnodup
  rw [strike, h, List.filter_append, List.filter_cons_of_neg (by simp), ← List.filter_append]
  refine List.filter_eq_self.mpr fun j hj => ?_
  have hne : j ≠ i := fun heq => hnodup.1 (heq ▸ hj)
  simpa using hne

namespace Publisher

/-! ### Entries that are struck -/

section Departures

/-- The subscription whose emitter leaves when the next thing is done. -/
def departure? (p : Publisher ι) : Label ι → Option Nat
  | .work k => if p.subscriptions[k]?.any Subscription.isLeaving then some k else none
  | .subscribe _ | .resume .. | .abort _ | .request .. | .cancel _ | .finish .. => none

/-- The emitter of the subscription with this number has left. -/
def HasLeft (p : Publisher ι) (k : Nat) : Prop :=
  ∃ s, p.subscriptions[k]? = some s ∧ s.hasLeft = true

variable {p p' : Publisher ι} {l : Label ι} {k : Nat} {s : Subscription ι} {w : Worker}

theorem departure?_eq_some_iff : p.departure? l = some k ↔
    l = .work k ∧ ∃ s, p.subscriptions[k]? = some s ∧ s.isLeaving = true := by
  cases l with
  | work j =>
    simp only [departure?, Label.work.injEq, ← Option.any_eq_true]
    constructor
    · intro hk
      split at hk
      next hleaving =>
        obtain rfl := Option.some.inj hk
        exact ⟨rfl, hleaving⟩
      next => simp at hk
    · rintro ⟨rfl, hleaving⟩
      rw [if_pos hleaving]
  | subscribe | resume | abort | request | cancel | finish => simp [departure?]

variable [DecidableEq ι]

/-- The subscriptions whose emitters leave in a run, one after the other. -/
def departures (p : Publisher ι) (labels : List (Label ι)) : List Nat :=
  p.occurrences departure? labels

/-- The subscriber of a subscription is struck from the list, and this becomes of its thread. -/
structure Strikes (p : Publisher ι) (k : Nat) (s : Subscription ι) (w : Worker)
    (p' : Publisher ι) : Prop where
  place : p.subscriptions[k]? = some s
  listed : s.listing? = some s.subscriber
  struck : p'.registry = p.registry.strike s.subscriber
  subscriptions : p'.subscriptions = p.subscriptions.set k { s with worker := w }
  unlisted : Subscription.listing? { s with worker := w } = none

/-- An emitter that is about to leave does so when it takes its next step. -/
theorem strikes_of_departure? (h : p.step l = some p') (hk : p.departure? l = some k) :
    ∃ s e, s.worker = .running e ∧ p.Strikes k s (.running { e with phase := .ended }) p' := by
  obtain ⟨rfl, t, ht, hleaving⟩ := departure?_eq_some_iff.mp hk
  obtain ⟨s, e, hs, hw, hmove⟩ := of_work h
  obtain rfl := Option.some.inj (ht.symm.trans hs)
  have hphase : e.phase = .leaving := by simpa [Subscription.isLeaving, hw] using hleaving
  rcases hmove with ⟨e', l', hstep, -⟩ | ⟨o, e', hstep, -⟩ | ⟨e', hstep, rfl⟩
  · simp [Emitter.step, hphase] at hstep
  · simp [Emitter.step, hphase] at hstep
  · obtain ⟨-, rfl⟩ := Emitter.of_leave hstep
    exact ⟨t, e, hw, hs, Subscription.listing?_of_isLeaving hleaving, rfl,
      subscriptions_setWorker hs _,
      by simp [Subscription.listing?, Subscription.hasLeft]⟩

theorem Coherent.strikes_of_abort (hp : p.Coherent) {call : Nat} (h : p.abort call = some p') :
    ∃ c k s, p.calls[call]? = some c ∧ c.number? = some k ∧ s.worker = .unborn ∧
      p.Strikes k s .unstarted p' := by
  obtain ⟨c, number, hc, hphase, rfl⟩ := of_abort h
  obtain ⟨hnumber, s, hs, hmade, hunborn⟩ := hp.exists_offered hc hphase
  exact ⟨c, number, s, hc, hnumber, hunborn, hs, Subscription.listing?_of_unborn hunborn,
    congrArg p.registry.strike hmade.subscriber.symm,
    subscriptions_setWorker hs _,
    by simp [Subscription.listing?]⟩

theorem registry_of_step (h : p.step l = some p') (hsubscribe : ∀ i, l ≠ .subscribe i)
    (habort : ∀ call, l ≠ .abort call) (hk : p.departure? l = none) :
    p'.registry = p.registry := by
  cases l with
  | subscribe i => exact absurd rfl (hsubscribe i)
  | abort call => exact absurd rfl (habort call)
  | resume call panics => obtain ⟨c, -, ⟨_, -, rfl⟩ | ⟨-, rfl⟩ | ⟨-, rfl⟩⟩ := of_resume h <;> rfl
  | request => obtain ⟨s, -, rfl⟩ := of_updateLedger h; rfl
  | cancel => obtain ⟨s, -, rfl⟩ := of_updateLedger h; rfl
  | work number =>
    obtain ⟨s, e, hs, hw, ⟨_, _, -, rfl⟩ | ⟨_, _, -, rfl⟩ | ⟨_, hstep, rfl⟩⟩ := of_work h
    · rfl
    · rfl
    · have hleaving : s.isLeaving = true := by
        simp [Subscription.isLeaving, hw, (Emitter.of_leave hstep).1]
      simp [departure?, hs, hleaving] at hk
  | finish => obtain ⟨s, o, e, -, -, rfl⟩ := of_finish h; rfl

omit [DecidableEq ι] in
theorem isLeaving_of_departure? (hk : p.departure? l ≠ some k) :
    l = .work k → ∀ s ∈ p.subscriptions[k]?, s.isLeaving = false := by
  intro hl s hs
  rw [ne_eq, departure?_eq_some_iff] at hk
  simpa using fun hleaving => hk ⟨hl, s, hs, hleaving⟩

/-- The entries of all subscriptions stay as they are, unless somebody subscribes, leaves or cannot
be started. -/
theorem Coherent.map_listing? (hp : p.Coherent) (h : p.step l = some p')
    (hsubscribe : ∀ i, l ≠ .subscribe i) (habort : ∀ call, l ≠ .abort call)
    (hk : p.departure? l = none) :
    p'.subscriptions.map Subscription.listing? = p.subscriptions.map Subscription.listing? := by
  refine List.ext_getElem? fun j => ?_
  rw [List.getElem?_map, List.getElem?_map]
  exact (hp.turn h j).map_listing? hsubscribe habort (isLeaving_of_departure? (by simp [hk]))

/-! ### One entry for each subscription that has not been left -/

omit [DecidableEq ι] in
theorem filterMap_listing? (p : Publisher ι) : p.subscriptions.filterMap Subscription.listing? =
    (p.subscriptions.map Subscription.listing?).filterMap id := by
  rw [List.filterMap_map, Function.id_comp]

/-- The list holds the entries of the subscriptions in order, and nobody twice. -/
structure Tidy (p : Publisher ι) : Prop where
  nodup : p.registry.active.Nodup
  entries : p.registry.active = p.subscriptions.filterMap Subscription.listing?

/-- Only the entry of the subscription itself is removed. -/
theorem Tidy.strikes (hp : p.Tidy) (h : p.Strikes k s w p') :
    p.registry.active = (p.subscriptions.take k).filterMap Subscription.listing? ++
        s.subscriber :: (p.subscriptions.drop (k + 1)).filterMap Subscription.listing? ∧
      p'.registry.active = (p.subscriptions.take k).filterMap Subscription.listing? ++
        (p.subscriptions.drop (k + 1)).filterMap Subscription.listing? := by
  have hactive := hp.entries
  rw [Places.filterMap_eq h.place, h.listed] at hactive
  -- the subscriber is listed once, so that looking for it finds this entry only
  refine ⟨hactive, ?_⟩
  exact (congrArg Registry.active h.struck).trans (Registry.active_strike hactive hp.nodup)

theorem Tidy.of_strikes (hp : p.Tidy) (h : p.Strikes k s w p') : p'.Tidy := by
  have hactive := (hp.strikes h).2
  refine ⟨?_, ?_⟩
  · rw [h.struck]
    exact hp.nodup.filter _
  · rw [hactive, h.subscriptions, Places.filterMap_set h.place, h.unlisted]
    rfl

theorem Tidy.subscribe (htidy : p.Tidy) (i : ι) : (p.subscribe i).Tidy := by
  by_cases hi : i ∈ p.registry.active
  · rw [subscribe_of_mem hi]
    exact ⟨htidy.nodup, htidy.entries⟩
  · rw [subscribe_of_notMem hi]
    refine ⟨?_, ?_⟩
    · exact List.concat_eq_append ▸ htidy.nodup.concat hi
    · rw [List.filterMap_append, ← htidy.entries]
      rfl

/-- A step keeps the list tidy. -/
theorem Tidy.step (htidy : p.Tidy) (hp : p.Coherent) (h : p.step l = some p') : p'.Tidy := by
  by_cases hsubscribe : ∃ i, l = .subscribe i
  · obtain ⟨i, rfl⟩ := hsubscribe
    obtain rfl := Option.some.inj h
    exact htidy.subscribe i
  by_cases habort : ∃ call, l = .abort call
  · obtain ⟨call, rfl⟩ := habort
    obtain ⟨c, k, s, -, -, -, hs⟩ := hp.strikes_of_abort h
    exact htidy.of_strikes hs
  rw [not_exists] at hsubscribe habort
  rcases hk : p.departure? l with _ | k
  · have hregistry := registry_of_step h hsubscribe habort hk
    refine ⟨hregistry ▸ htidy.nodup, ?_⟩
    rw [hregistry, htidy.entries, filterMap_listing?, filterMap_listing?,
      hp.map_listing? h hsubscribe habort hk]
  · obtain ⟨s, e, -, hs⟩ := strikes_of_departure? h hk
    exact htidy.of_strikes hs

/-- The list is tidy after every run. -/
theorem tidy_of_run {count : UInt64} {labels : List (Label ι)}
    (hrun : (start count).run labels = some p) : p.Tidy := by
  refine run_induction (motive := fun _ q => q.Tidy) _ ⟨List.nodup_nil, rfl⟩ ?_ hrun
  exact fun _ _ _ _ hq htidy hstep => htidy.step (coherent_of_run hq) hstep

omit [DecidableEq ι] in
/-- No subscriber has two subscriptions with an entry. -/
theorem Tidy.eq_of_subscriber (hp : p.Tidy) {i j : Nat} {s t : Subscription ι}
    (hs : p.subscriptions[i]? = some s) (ht : p.subscriptions[j]? = some t)
    (hsubscriber : s.subscriber = t.subscriber) (hsl : s.listing? ≠ none)
    (htl : t.listing? ≠ none) :
    i = j := by
  have hnodup := hp.nodup
  rw [hp.entries] at hnodup
  obtain ⟨_, hs'⟩ := Option.ne_none_iff_exists'.mp hsl
  obtain ⟨_, ht'⟩ := Option.ne_none_iff_exists'.mp htl
  obtain rfl := (Subscription.listing?_eq_some_iff.mp hs').2.2
  obtain rfl := (Subscription.listing?_eq_some_iff.mp ht').2.2
  exact Places.eq_of_nodup hnodup hs ht hs' (hsubscriber ▸ ht')

/-! ### Every emitter leaves once -/

/-- After a step those emitters have left that had left before, and the one that leaves. -/
theorem Coherent.hasLeft_step (hp : p.Coherent) (h : p.step l = some p') (k : Nat) :
    p'.HasLeft k ↔ p.HasLeft k ∨ p.departure? l = some k := by
  by_cases hk : p.departure? l = some k
  · obtain ⟨s, e, -, hs⟩ := strikes_of_departure? h hk
    have hlt : k < p.subscriptions.length := (List.getElem?_eq_some_iff.mp hs.place).1
    have hplace := hs.subscriptions ▸ List.getElem?_set_self hlt
    exact iff_of_true ⟨_, hplace, by simp [Subscription.hasLeft]⟩ (.inr hk)
  · simp only [hk, or_false, HasLeft, ← Option.any_eq_true]
    rw [(hp.turn h k).any_hasLeft (isLeaving_of_departure? hk)]

omit [DecidableEq ι] in
theorem not_hasLeft_of_departure? (hk : p.departure? l = some k) : ¬p.HasLeft k := by
  obtain ⟨-, s, hs, hleaving⟩ := departure?_eq_some_iff.mp hk
  rintro ⟨t, ht, hleft⟩
  obtain rfl := Option.some.inj (hs.symm.trans ht)
  have hlisted := Subscription.listing?_of_isLeaving hleaving
  simp [Subscription.listing?, hleft] at hlisted

/-- In a run every emitter leaves once at most, and those that have left are those that have. -/
theorem departures_of_run {count : UInt64} {labels : List (Label ι)}
    (hrun : (start count).run labels = some p) :
    ((start count : Publisher ι).departures labels).Nodup ∧
      ∀ k, k ∈ (start count : Publisher ι).departures labels ↔ p.HasLeft k := by
  refine occurrences_of_run (fun k ⟨s, hs, _⟩ => nomatch hs) ?_ ?_ hrun
  · exact fun _ _ _ _ _ _ _ hk => not_hasLeft_of_departure? hk
  · exact fun _ _ _ _ hq hstep => (coherent_of_run hq).hasLeft_step hstep

end Departures

end Publisher

end StreamConformance.Range
