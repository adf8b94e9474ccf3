import StreamConformance.Proofs.Range.Turns

/-!
# What an emitter signals

However the threads of a range publisher interleave, an emitter signals the numbers from zero on,
one after the other, and then at most one terminal signal. It completes after the last number of its
range, if the range has an end. As long as the demand on its subscription has not become unbounded,
the elements for which it has taken demand and the demand that is left add up to what has been
requested.

## Main definitions

* `Subscription.elements` — the numbers that have been signalled.
* `Subscription.inFlight` — whether an element is about to be signalled.
* `demanded` — what has been requested on a subscription.
* `Emitter.Course`, `Subscription.Sound` — how far an emitter has come, and what has been signalled
  and requested until then.

## Main results

* `Turn.sound` — a turn keeps a subscription sound.
* `Publisher.emission_safety` — what an emitter signals, in every run.
-/

namespace StreamConformance

namespace Range

variable {ι : Type}

/-! ### Signals and demand -/

/-- The number that is signalled, if it is no terminal signal. -/
def Output.number? : Output → Option UInt64
  | .next n => some n
  | .complete | .invalid => none

/-- The numbers that have been signalled. -/
def Subscription.elements (s : Subscription ι) : List UInt64 := s.signals.filterMap Output.number?

/-- The emitter of a subscription, which is at its start where there is no thread for it. -/
def Worker.emitter : Worker → Emitter
  | .unborn | .lost | .unstarted => .start
  | .running e | .signalling _ e => e

/-- The number of elements for which demand has been taken and which have not been signalled. -/
def Emitter.inFlight (e : Emitter) : Nat := if e.phase = .delivering then 1 else 0

/-- The number of elements that are about to be signalled, one or none. -/
def Subscription.inFlight (s : Subscription ι) : Nat := s.worker.emitter.inFlight

/-- The demand that a label makes on the subscription with the number `k`. -/
def Label.demand? (k : Nat) : Label ι → Option UInt64
  | .request number n => if number = k then some n else none
  | .subscribe _ | .resume .. | .abort _ | .cancel _ | .work _ | .finish .. => none

/-- The exact sum of all requests on the subscription with the number `k`. -/
def demanded (k : Nat) (labels : List (Label ι)) : Nat :=
  Demand.total (labels.filterMap (Label.demand? k))

/-- The first `m` numbers and then perhaps a terminal signal, as an emitter signals them. -/
def outputs (m : Nat) (terminal : Option Output) : List Output :=
  (List.range m).map (fun i => .next (UInt64.ofNat i)) ++ terminal.toList

theorem filterMap_number?_outputs (m : Nat) {terminal : Option Output}
    (h : ∀ o ∈ terminal, o.number? = none) :
    (outputs m terminal).filterMap Output.number? = (List.range m).map UInt64.ofNat := by
  have hterminal : terminal.toList.filterMap Output.number? = [] :=
    List.filterMap_eq_nil_iff.mpr fun o ho => h o (Option.mem_toList.mp ho)
  have hnumber : Output.number? ∘ (fun i => .next (UInt64.ofNat i)) = some ∘ UInt64.ofNat := rfl
  rw [outputs, List.filterMap_append, hterminal, List.append_nil, List.filterMap_map, hnumber,
    List.filterMap_eq_map]

theorem map_toNat_range {m : Nat} (h : m ≤ UInt64.size) :
    ((List.range m).map UInt64.ofNat).map UInt64.toNat = List.range m := by
  rw [List.map_map]
  refine (List.map_congr_left fun i hi => ?_).trans (List.map_id _)
  exact UInt64.toNat_ofNat_of_lt' (Nat.lt_of_lt_of_le (List.mem_range.mp hi) h)

theorem outputs_succ (m : Nat) :
    outputs (m + 1) none = outputs m none ++ [.next (UInt64.ofNat m)] := by
  simp [outputs, List.range_succ]

theorem outputs_some (m : Nat) (o : Output) : outputs m (some o) = outputs m none ++ [o] := by
  simp [outputs]

/-! ### Demand that is taken and left -/

namespace Ledger

variable {l l' : Ledger}

/-- The demand that has been taken and the demand that is left are what has been requested, as long
as the demand has not become unbounded. It becomes so only where as much has been requested as fits
a word. -/
structure Accounts (taken total : Nat) (l : Ledger) : Prop where
  exact : l.requested ≠ Demand.unbounded → taken + l.requested.toNat = total
  atLeast : l.requested = Demand.unbounded → UInt64.size ≤ total + 1

theorem accounts_empty : empty.Accounts 0 0 := ⟨fun _ => rfl, nofun⟩

theorem unbounded_iff (n : UInt64) : n = Demand.unbounded ↔ n.toNat + 1 = UInt64.size := by
  rw [← UInt64.toNat_inj, show Demand.unbounded.toNat = UInt64.size - 1 by decide]
  have := n.toNat_lt_size
  omega

namespace Accounts

variable {taken total : Nat}

theorem request (h : l.Accounts taken total) (n : UInt64) :
    (l.request n).Accounts taken (total + n.toNat) := by
  have hexact := h.exact
  have hatLeast := h.atLeast
  unfold Ledger.request
  split
  next hn =>
    subst hn
    exact ⟨hexact, hatLeast⟩
  next =>
    have hadd := Demand.toNat_add l.requested n
    constructor
    · intro hbounded
      rw [ne_eq, unbounded_iff] at hexact hbounded
      have := l.requested.toNat_lt_size
      dsimp only at hbounded ⊢
      omega
    · intro hunbounded
      rw [unbounded_iff] at hatLeast hunbounded
      rw [ne_eq, unbounded_iff] at hexact
      have := l.requested.toNat_lt_size
      dsimp only at hunbounded
      omega

theorem cancel (h : l.Accounts taken total) : l.cancel.Accounts taken total := ⟨h.exact, h.atLeast⟩

theorem take (h : l.Accounts taken total) (htake : l.take = (.emit, l')) :
    l'.Accounts (taken + 1) total := by
  obtain ⟨hpositive, rfl⟩ := of_take_emit htake
  split
  next hunbounded => exact ⟨fun hbounded => absurd hunbounded hbounded, h.atLeast⟩
  next hbounded =>
    have hexact := h.exact hbounded
    rw [UInt64.lt_iff_toNat_lt] at hpositive
    have hone : (l.requested - 1).toNat = l.requested.toNat - 1 :=
      UInt64.toNat_sub_of_le _ _ (UInt64.le_iff_toNat_le.mpr hpositive)
    change 0 < l.requested.toNat at hpositive
    constructor
    · intro _
      dsimp only
      omega
    · intro hunbounded
      rw [unbounded_iff] at hunbounded
      have := l.requested.toNat_lt_size
      dsimp only at hunbounded
      omega

end Accounts

end Ledger

/-! ### The course of an emitter -/

/-- An emitter of a range of `count` elements that has signalled `m` elements, and perhaps a
terminal signal, stands where it should. -/
structure Emitter.Course (count : UInt64) (m : Nat) (terminal : Option Output) (e : Emitter) :
    Prop where
  next : e.next = UInt64.ofNat m
  within : count ≠ Demand.unbounded → m ≤ count.toNat
  before : e.phase = .awaiting ∨ e.phase = .delivering → count ≠ Demand.unbounded → m < count.toNat
  completing : e.phase = .completing ∨ terminal = some .complete →
    count ≠ Demand.unbounded ∧ m = count.toNat
  isLast : terminal ≠ none → e.phase = .leaving ∨ e.phase = .ended ∨ e.phase = .unwound
  isTerminal : ∀ o ∈ terminal, o.number? = none

namespace Emitter.Course

variable {count : UInt64} {m : Nat} {terminal : Option Output} {e e' : Emitter} {l l' : Ledger}
  {o : Output}

theorem start (count : UInt64) : Emitter.start.Course count 0 none :=
  ⟨rfl, fun _ => Nat.zero_le _, nofun, nofun, nofun, nofun⟩

/-- Within a range that has an end the number that comes next is the number of elements. -/
theorem toNat_next (h : e.Course count m terminal) (hcount : count ≠ Demand.unbounded) :
    e.next.toNat = m := by
  have := h.within hcount
  have := count.toNat_lt_size
  rw [h.next, UInt64.toNat_ofNat_of_lt' (by omega)]

theorem terminal_eq_none (h : e.Course count m terminal)
    (hphase : ¬(e.phase = .leaving ∨ e.phase = .ended ∨ e.phase = .unwound)) : terminal = none :=
  Classical.not_not.mp fun hterminal => hphase (h.isLast hterminal)

theorem silent (h : e.Course count m terminal) (hstep : e.step count l = .silent e' l') :
    e'.Course count m terminal := by
  have hnext := h.next
  have hwithin := h.within
  rcases of_silent hstep with ⟨hphase, ⟨hcount, hend⟩, -, rfl⟩ | ⟨hphase, hend, -, rfl⟩ |
    ⟨hphase, -, rfl⟩ | ⟨hphase, -, rfl⟩ | ⟨hphase, -, rfl⟩
  all_goals obtain rfl := h.terminal_eq_none (by simp [hphase])
  · rw [UInt64.le_iff_toNat_le, h.toNat_next hcount] at hend
    exact ⟨hnext, hwithin, by simp, fun _ => ⟨hcount, by have := hwithin hcount; omega⟩, by simp,
      by simp⟩
  · refine ⟨hnext, hwithin, fun _ hcount => ?_, by simp, by simp, by simp⟩
    have hbefore : ¬count ≤ e.next := fun hle => hend ⟨hcount, hle⟩
    rw [UInt64.le_iff_toNat_le, h.toNat_next hcount] at hbefore
    omega
  · exact ⟨hnext, hwithin, fun _ => h.before (.inl hphase), by simp, by simp, by simp⟩
  · exact ⟨hnext, hwithin, by simp, by simp, by simp, by simp⟩
  · exact ⟨hnext, hwithin, by simp, by simp, by simp, by simp⟩

/-- A signal is the next element or a terminal signal, and none has come before it. -/
theorem signal (h : e.Course count m terminal) (hstep : e.step count l = .signal o e') :
    terminal = none ∧
      ((o = .next (UInt64.ofNat m) ∧ e.inFlight = 1 ∧ e'.Course count (m + 1) none) ∨
        e.inFlight = 0 ∧ e'.Course count m (some o)) := by
  rcases of_signal hstep with ⟨hphase, rfl, rfl⟩ | ⟨hphase, rfl, rfl⟩ | ⟨hphase, rfl, rfl⟩
  all_goals refine ⟨h.terminal_eq_none (by simp [hphase]), ?_⟩
  · refine .inl ⟨by rw [h.next], by simp [inFlight, hphase], ?_, fun hcount => ?_, by simp, by simp,
      by simp, by simp⟩
    · rw [h.next, UInt64.ofNat_add]
      rfl
    · exact h.before (.inr hphase) hcount
  · exact .inr ⟨by simp [inFlight, hphase], h.next, h.within, by simp,
      fun _ => h.completing (.inl hphase), by simp, by simp [Output.number?]⟩
  · exact .inr ⟨by simp [inFlight, hphase], h.next, h.within, by simp, by simp, by simp,
      by simp [Output.number?]⟩

/-- Leaving and being unwound change nothing but where the emitter stands. -/
theorem of_over (h : e.Course count m terminal) {phase : Phase}
    (hphase : phase = .ended ∨ phase = .unwound) :
    Emitter.Course count m terminal { e with phase } :=
  ⟨h.next, h.within, by rcases hphase with rfl | rfl <;> simp,
    fun hcompleting =>
      h.completing (.inr (by rcases hphase with rfl | rfl <;> simpa using hcompleting)),
    fun _ => .inr hphase, h.isTerminal⟩

end Emitter.Course

/-! ### Emitters and their ledgers -/

/-- An emitter of a range of `count` elements has signalled what it should have signalled where it
stands, and has taken from the ledger, on which `total` elements have been requested, what it needed
for that. -/
def Emitter.Sound (count : UInt64) (total : Nat) (signals : List Output) (l : Ledger)
    (e : Emitter) : Prop :=
  ∃ m terminal, signals = outputs m terminal ∧ e.Course count m terminal ∧
    l.Accounts (m + e.inFlight) total

namespace Emitter.Sound

variable {count : UInt64} {total : Nat} {signals : List Output} {l l' : Ledger} {e e' : Emitter}
  {o : Output}

theorem request (h : e.Sound count total signals l) (n : UInt64) :
    e.Sound count (total + n.toNat) signals (l.request n) :=
  let ⟨m, terminal, hsignals, hcourse, haccounts⟩ := h
  ⟨m, terminal, hsignals, hcourse, haccounts.request n⟩

theorem cancel (h : e.Sound count total signals l) : e.Sound count total signals l.cancel :=
  let ⟨m, terminal, hsignals, hcourse, haccounts⟩ := h
  ⟨m, terminal, hsignals, hcourse, haccounts.cancel⟩

/-- A step that nobody sees takes a unit of demand only to signal an element. -/
theorem silent (h : e.Sound count total signals l) (hstep : e.step count l = .silent e' l') :
    e'.Sound count total signals l' := by
  obtain ⟨m, terminal, hsignals, hcourse, haccounts⟩ := h
  refine ⟨m, terminal, hsignals, hcourse.silent hstep, ?_⟩
  rcases of_silent hstep with ⟨hphase, -, rfl, rfl⟩ | ⟨hphase, -, rfl, rfl⟩ |
    ⟨hphase, htake, rfl⟩ | ⟨hphase, htake, rfl⟩ | ⟨hphase, htake, rfl⟩
  all_goals simp only [inFlight, hphase, reduceCtorEq, if_false, if_true, Nat.add_zero]
    at haccounts ⊢
  · exact haccounts
  · exact haccounts
  · exact haccounts.take htake
  · exact Ledger.eq_of_take htake nofun ▸ haccounts
  · exact Ledger.eq_of_take htake nofun ▸ haccounts

theorem signal (h : e.Sound count total signals l) (hstep : e.step count l = .signal o e') :
    e'.Sound count total (signals ++ [o]) l := by
  obtain ⟨m, terminal, hsignals, hcourse, haccounts⟩ := h
  have hflight' : e'.inFlight = 0 := by
    rcases of_signal hstep with ⟨-, -, rfl⟩ | ⟨-, -, rfl⟩ | ⟨-, -, rfl⟩ <;> simp [inFlight]
  obtain ⟨rfl, ⟨rfl, hflight, hcourse'⟩ | ⟨hflight, hcourse'⟩⟩ := hcourse.signal hstep
  · exact ⟨m + 1, none, by rw [outputs_succ, hsignals], hcourse',
      by rwa [hflight', Nat.add_zero, ← hflight]⟩
  · exact ⟨m, some o, by rw [outputs_some, hsignals], hcourse', by rwa [hflight', ← hflight]⟩

/-- Leaving and being unwound change nothing but where the emitter stands. -/
theorem of_over (h : e.Sound count total signals l) (hflight : e.inFlight = 0) {phase : Phase}
    (hphase : phase = .ended ∨ phase = .unwound) :
    Emitter.Sound count total signals l { e with phase } := by
  obtain ⟨m, terminal, hsignals, hcourse, haccounts⟩ := h
  refine ⟨m, terminal, hsignals, hcourse.of_over hphase, ?_⟩
  have hflight' : Emitter.inFlight { e with phase } = 0 := by
    rcases hphase with rfl | rfl <;> simp [inFlight]
  rwa [hflight', ← hflight]

end Emitter.Sound

/-! ### Subscriptions -/

/-- The emitter of a subscription is sound. -/
def Subscription.Sound (count : UInt64) (total : Nat) (s : Subscription ι) : Prop :=
  s.worker.emitter.Sound count total s.signals s.ledger

/-- What is required of the place of a subscription: nothing has been requested there as long as
there is none. -/
def SoundPlace (count : UInt64) (total : Nat) : Option (Subscription ι) → Prop
  | none => total = 0
  | some s => s.Sound count total

/-- Only a label that acts on a subscription requests something there. -/
theorem Label.demand?_of_target? {k : Nat} {l : Label ι} (h : l.target? ≠ some k) :
    l.demand? k = none := by
  cases l <;> simp_all [demand?, target?]

/-- The demand on a subscription grows by what the last label requests there. -/
theorem demanded_concat (k : Nat) (labels : List (Label ι)) (l : Label ι) :
    demanded k (labels ++ [l]) = demanded k labels + Demand.total (l.demand? k).toList := by
  rw [demanded, List.filterMap_append, Demand.total_append, demanded]
  cases h : l.demand? k <;> simp [h]

/-- A turn keeps a subscription sound. -/
theorem Turn.sound {count : UInt64} {k total : Nat} {l : Label ι} {o o' : Option (Subscription ι)}
    (hturn : Turn count k l o o') (h : SoundPlace count total o) :
    SoundPlace count (total + Demand.total (l.demand? k).toList) o' := by
  cases hturn with
  | idle hl => rwa [Label.demand?_of_target? hl]
  | opened i =>
    obtain rfl : total = 0 := h
    exact ⟨0, none, rfl, .start count, Ledger.accounts_empty⟩
  | requested n =>
    have htotal : Demand.total (Label.demand? k (.request k n : Label ι)).toList = n.toNat := by
      simp [Label.demand?, Demand.total]
    exact htotal ▸ Emitter.Sound.request h n
  | cancelled => exact Emitter.Sound.cancel h
  | born hw | lost hw | aborted hw | returned hw =>
    rw [SoundPlace, Subscription.Sound, hw] at h
    exact h
  | advanced hw hstep =>
    rw [SoundPlace, Subscription.Sound, hw] at h
    exact h.silent hstep
  | signalled hw hstep =>
    rw [SoundPlace, Subscription.Sound, hw] at h
    exact h.signal hstep
  | left hw hstep =>
    rw [SoundPlace, Subscription.Sound, hw] at h
    obtain ⟨hphase, rfl⟩ := Emitter.of_leave hstep
    exact h.of_over (by simp [Emitter.inFlight, Worker.emitter, hphase]) (.inl rfl)
  | unwound hw hphase =>
    rw [SoundPlace, Subscription.Sound, hw] at h
    exact h.of_over (by rcases hphase with h | h <;> simp [Emitter.inFlight, Worker.emitter, h])
      (.inr rfl)

namespace Publisher

variable [DecidableEq ι] {count : UInt64} {labels : List (Label ι)} {p : Publisher ι}

theorem soundPlace_of_run (hrun : (start count).run labels = some p) (k : Nat) :
    SoundPlace count (demanded k labels) p.subscriptions[k]? := by
  refine run_induction (motive := fun labels q =>
    SoundPlace count (demanded k labels) q.subscriptions[k]?) (start count) rfl ?_ hrun
  intro labels q l q' hq hsound hstep
  have hturn := (coherent_of_run hq).turn hstep k
  rw [count_of_run hq] at hturn
  rw [demanded_concat]
  exact hturn.sound hsound

/-- What the emitter of a subscription signals in a run. The elements, each signalled once and in
order, come before at most one terminal signal, which is the last; as long as they are fewer than
there are words they are the numbers from zero on, the emitter goes on with their number, and there
are no more of them than have been requested. A range that has an end is never exceeded and is
completed only when all of it has been signalled; a range without an end is never completed. As long
as the demand is not unbounded the elements that have been signalled or are about to be signalled
and the demand that is left add up to the sum of all requests. -/
theorem emission_safety (hrun : (start count).run labels = some p) {k : Nat} {s : Subscription ι}
    (hs : p.subscriptions[k]? = some s) :
    (∃ terminal : Option Output, s.signals = s.elements.map .next ++ terminal.toList ∧
      ∀ o ∈ terminal, o.number? = none) ∧
    (s.elements.length < UInt64.size →
      s.elements.map UInt64.toNat = List.range s.elements.length ∧
        s.worker.emitter.next.toNat = s.elements.length ∧
          s.elements.length ≤ demanded k labels) ∧
    (count ≠ Demand.unbounded → s.elements.length ≤ count.toNat ∧
      (.complete ∈ s.signals → s.elements.length = count.toNat)) ∧
    (count = Demand.unbounded → .complete ∉ s.signals) ∧
    (s.ledger.requested ≠ Demand.unbounded →
      s.elements.length + s.inFlight + s.ledger.requested.toNat = demanded k labels) := by
  have hplace := soundPlace_of_run hrun k
  rw [hs] at hplace
  obtain ⟨m, terminal, hsignals, hcourse, haccounts⟩ := hplace
  have helements : s.elements = (List.range m).map UInt64.ofNat := by
    rw [Subscription.elements, hsignals, filterMap_number?_outputs m hcourse.isTerminal]
  have hlength : s.elements.length = m := by simp [helements]
  have hcompleted (hmem : .complete ∈ s.signals) : count ≠ Demand.unbounded ∧ m = count.toNat := by
    refine hcourse.completing (.inr ?_)
    simpa [hsignals, outputs] using hmem
  have hexact := haccounts.exact
  have hatLeast := haccounts.atLeast
  change _ → m + s.inFlight + _ = _ at hexact
  rw [hlength]
  refine ⟨⟨terminal, ?_, hcourse.isTerminal⟩, fun hfew => ⟨?_, ?_, ?_⟩,
    fun hcount => ⟨hcourse.within hcount, fun hmem => (hcompleted hmem).2⟩,
    fun hcount hmem => (hcompleted hmem).1 hcount, hexact⟩
  · rw [hsignals, helements, outputs, List.map_map]
    rfl
  · rw [helements, map_toNat_range (Nat.le_of_lt hfew)]
  · rw [hcourse.next, UInt64.toNat_ofNat_of_lt' hfew]
  · by_cases hunbounded : s.ledger.requested = Demand.unbounded
    · have := hatLeast hunbounded
      omega
    · have := hexact hunbounded
      omega

/-- A subscriber that requests two elements while it is offered its subscription and another one
while it receives the first gets all of a range of two, and one of the three is left over. -/
theorem emission_safety_two :
    let labels : List (Label Nat) := [.subscribe 7, .request 0 2, .resume 0 false, .work 0, .work 0,
      .work 0, .request 0 1, .finish 0 false, .work 0, .work 0, .work 0, .finish 0 false, .work 0,
      .work 0]
    ∃ p s, (start 2).run labels = some p ∧ p.subscriptions[0]? = some s ∧
      s.signals = [.next 0, .next 1, .complete] ∧ s.elements.length < UInt64.size ∧
      s.elements.map UInt64.toNat = List.range 2 ∧ s.elements.length = 2 ∧
      s.ledger.requested ≠ Demand.unbounded ∧
      s.elements.length + s.inFlight + s.ledger.requested.toNat = demanded 0 labels ∧
      demanded 0 labels = 3 := by
  intro labels
  let s : Subscription Nat :=
    ⟨7, ⟨1, false, false⟩, .signalling .complete ⟨2, .leaving⟩, [.next 0, .next 1, .complete]⟩
  let p : Publisher Nat := ⟨2, ⟨[7]⟩, [s], [⟨7, .returned, [.onSubscribe 0]⟩]⟩
  have hrun : (start 2).run labels = some p := by decide
  have hs : p.subscriptions[0]? = some s := rfl
  obtain ⟨-, hfew, hend, -, hexact⟩ := emission_safety hrun hs
  have hbounded : s.ledger.requested ≠ Demand.unbounded := by decide
  have hsize : s.elements.length < UInt64.size := by decide
  exact ⟨p, s, hrun, hs, rfl, hsize, (hfew hsize).1, (hend (by decide)).2 (by decide), hbounded,
    hexact hbounded, by decide⟩

end Publisher

end Range

end StreamConformance
