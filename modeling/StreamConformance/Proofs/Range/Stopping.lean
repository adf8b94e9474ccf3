import StreamConformance.Proofs.Range.Admission
import StreamConformance.Proofs.Range.Unheeded

/-!
# How an emitter stops

After a cancellation, and after a request for no element at all, an emitter finds no demand any
more. Where it stands at that moment says what it can still signal: the element for which it has
taken a unit of demand, and then at most one terminal signal. Each step, whoever takes it, spends
what is due or leaves it as it is, so what comes in the end is a first part of what was due when the
subscription was closed.

A subscribe call signals an error itself, in place of an emitter, whether or not its subscription
has been cancelled: where the subscriber is listed already, or no thread can be started.

## Main definitions

* `Emitter.due` — what an emitter can still signal when it finds no demand any more.
* `Ledger.Closed` — nothing on the ledger makes an emitter take demand.
* `Subscription.Spends` — the emitter of a subscription signals something of what is due.
* `Subscription.Stops`, `Subscription.Fails` — what comes after a cancellation, and after a request
  for no element.
* `SubscribeCall.Concludes` — what a subscribe call signals besides.

## Main results

* `Turn.spends`, `Publisher.spends_of_run` — a turn, and so a run, spends what is due.
* `Publisher.emission_stops` — how an emitter stops, in every run.
* `Publisher.not_silentAfterCancel` — a subscriber that has cancelled may be signalled an error.
-/

namespace StreamConformance.Range

variable {ι : Type}

/-! ### What is due -/

namespace Emitter

/-- The number for which a unit of demand has been taken. -/
def pending? (e : Emitter) : Option UInt64 := if e.phase = .delivering then some e.next else none

/-- The terminal signal to come if every look at the demand finds `found`, which is a terminal
signal or nothing to signal. -/
def last? (count : UInt64) (found : Option Output) (e : Emitter) : Option Output :=
  match e.phase with
  | .testing => if count ≠ Demand.unbounded ∧ count ≤ e.next then some .complete else found
  | .awaiting => found
  | .delivering => if count ≠ Demand.unbounded ∧ count ≤ e.next + 1 then some .complete else found
  | .completing => some .complete
  | .failing => some .invalid
  | .leaving | .ended | .unwound => none

/-- What is still to be signalled if every look at the demand finds `found`. -/
def due (count : UInt64) (found : Option Output) (e : Emitter) : List Output :=
  e.pending?.toList.map .next ++ (e.last? count found).toList

end Emitter

/-- No look at the ledger finds demand: it finds the cancellation, or, where `found` is the error
for it, the invalid request. -/
def Ledger.Closed (found : Option Output) (l : Ledger) : Prop :=
  l.isCancelled = true ∨ l.isInvalid = true ∧ found = some .invalid

variable {found : Option Output}

namespace Ledger.Closed

variable {l l' : Ledger}

theorem request (h : l.Closed found) (n : UInt64) : (l.request n).Closed found := by
  unfold Ledger.request
  split
  · exact h.imp_right fun hinvalid => ⟨rfl, hinvalid.2⟩
  · exact h

theorem cancel (l : Ledger) : l.cancel.Closed found := .inl rfl

theorem request_zero (l : Ledger) : (l.request 0).Closed (some .invalid) :=
  .inr ⟨by rw [Ledger.request, if_pos rfl], rfl⟩

theorem take_eq (h : l.Closed found) :
    l.take = (.cancelled, l) ∨ l.take = (.invalid, l) ∧ found = some .invalid := by
  unfold take
  by_cases hcancelled : l.isCancelled = true
  · exact .inl (if_pos hcancelled)
  · obtain ⟨hinvalid, hfound⟩ := h.resolve_left hcancelled
    exact .inr ⟨by rw [if_neg hcancelled, if_pos hinvalid], hfound⟩

end Ledger.Closed

namespace Emitter

variable {count : UInt64} {e e' : Emitter} {l l' : Ledger} {o : Output}

/-- A step that nobody sees adds nothing to what is due, and leaves a closed ledger as it is. -/
theorem due_of_silent (h : e.step count l = .silent e' l') (hclosed : l.Closed found) :
    l' = l ∧ e'.due count found <+: e.due count found := by
  have hnothing {e' : Emitter} (hnone : e'.due count found = []) :
      e'.due count found <+: e.due count found := hnone ▸ List.nil_prefix
  have hsame {e' : Emitter} (heq : e'.due count found = e.due count found) :
      e'.due count found <+: e.due count found := heq ▸ List.prefix_refl _
  rcases of_silent h with ⟨hphase, hend, hl, rfl⟩ | ⟨hphase, hend, hl, rfl⟩ |
    ⟨-, htake, -⟩ | ⟨-, htake, rfl⟩ | ⟨hphase, htake, rfl⟩
  · exact ⟨hl, hsame (by simp [due, pending?, last?, hphase, hend])⟩
  · exact ⟨hl, hsame (by simp only [due, pending?, last?, hphase, if_neg hend, reduceCtorEq])⟩
  · obtain hfound | ⟨hfound, -⟩ := hclosed.take_eq <;> simp [hfound] at htake
  · exact ⟨Ledger.eq_of_take htake nofun, hnothing rfl⟩
  · obtain hfound | ⟨hfound, rfl⟩ := hclosed.take_eq
    · simp [hfound] at htake
    · exact ⟨Ledger.eq_of_take htake nofun, hsame (by simp [due, pending?, last?, hphase])⟩

theorem due_of_signal (h : e.step count l = .signal o e') :
    e.due count found = o :: e'.due count found := by
  rcases of_signal h with ⟨hphase, rfl, rfl⟩ | ⟨hphase, rfl, rfl⟩ | ⟨hphase, rfl, rfl⟩ <;>
    simp [due, pending?, last?, hphase]

/-- Nothing is due from an emitter that leaves, or has left. -/
theorem due_of_leave (h : e.step count l = .leave e') : e'.due count found = [] := by
  obtain ⟨-, rfl⟩ := of_leave h
  rfl

end Emitter

/-! ### Turns -/

/-- What the emitter of a subscription has still to signal. -/
def Subscription.due (count : UInt64) (found : Option Output) (s : Subscription ι) : List Output :=
  s.worker.emitter.due count found

/-- From where a subscription is `s` to where it is `t` its emitter signals `late`: the ledger stays
closed, and what is signalled and what is due afterwards has been due before. -/
structure Subscription.Spends (count : UInt64) (found : Option Output) (s t : Subscription ι)
    (late : List Output) : Prop where
  closed : t.ledger.Closed found
  signals : t.signals = s.signals ++ late
  due : late ++ t.due count found <+: s.due count found

namespace Subscription.Spends

variable {count : UInt64} {s t u : Subscription ι} {late late' : List Output}

theorem of_silent (closed : t.ledger.Closed found) (signals : t.signals = s.signals)
    (due : t.due count found <+: s.due count found) : s.Spends count found t [] :=
  ⟨closed, by rw [signals, List.append_nil], due⟩

protected theorem refl (closed : s.ledger.Closed found) : s.Spends count found s [] :=
  .of_silent closed rfl (List.prefix_refl _)

protected theorem trans (h : s.Spends count found t late) (h' : t.Spends count found u late') :
    s.Spends count found u (late ++ late') where
  closed := h'.closed
  signals := by rw [h'.signals, h.signals, List.append_assoc]
  due := by
    rw [List.append_assoc]
    exact ((List.prefix_append_right_inj late).mpr h'.due).trans h.due

end Subscription.Spends

/-- A turn of a subscription whose ledger is closed spends what is due, or leaves it as it is. -/
theorem Turn.spends {count : UInt64} {k : Nat} {l : Label ι} {s : Subscription ι}
    {o : Option (Subscription ι)} (hturn : Turn count k l (some s) o)
    (hclosed : s.ledger.Closed found) :
    ∃ t late, o = some t ∧ s.Spends count found t late := by
  cases hturn with
  | idle => exact ⟨s, [], rfl, .refl hclosed⟩
  | requested n => exact ⟨_, [], rfl, .of_silent (hclosed.request n) rfl (List.prefix_refl _)⟩
  | cancelled => exact ⟨_, [], rfl, .of_silent (.cancel _) rfl (List.prefix_refl _)⟩
  | born hw | lost hw | aborted hw | returned hw =>
    refine ⟨_, [], rfl, .of_silent hclosed rfl ?_⟩
    rw [Subscription.due, Subscription.due, hw]
    exact List.prefix_refl _
  | advanced hw hstep =>
    obtain ⟨rfl, hdue⟩ := Emitter.due_of_silent hstep hclosed
    refine ⟨_, [], rfl, .of_silent hclosed rfl ?_⟩
    rw [Subscription.due, Subscription.due, hw]
    exact hdue
  | signalled hw hstep =>
    refine ⟨_, _, rfl, hclosed, rfl, ?_⟩
    rw [Subscription.due, Subscription.due, hw, Worker.emitter, Emitter.due_of_signal hstep]
    exact List.prefix_refl _
  | left hw hstep =>
    refine ⟨_, [], rfl, .of_silent hclosed rfl ?_⟩
    rw [Subscription.due, Worker.emitter, Emitter.due_of_leave hstep]
    exact List.nil_prefix
  | unwound => exact ⟨_, [], rfl, .of_silent hclosed rfl List.nil_prefix⟩

/-! ### What comes of what is due -/

namespace Emitter

variable {count : UInt64} {e : Emitter}

/-- An element that is pending is in flight, and it is the next one. -/
theorem of_pending? {n : UInt64} (h : e.pending? = some n) : e.inFlight = 1 ∧ n = e.next := by
  unfold pending? at h
  split at h
  next hphase => exact ⟨if_pos hphase, (Option.some.inj h).symm⟩
  next => cases h

theorem number?_of_last? (hfound : ∀ o ∈ found, o.number? = none) {o : Output}
    (h : e.last? count found = some o) : o.number? = none := by
  have of_ite {c : Prop} [Decidable c] (h : (if c then some .complete else found) = some o) :
      o.number? = none := by
    split at h
    · rw [← Option.some.inj h, Output.number?]
    · exact hfound o h
  unfold last? at h
  split at h
  · exact of_ite h
  · exact hfound o h
  · exact of_ite h
  · rw [← Option.some.inj h, Output.number?]
  · rw [← Option.some.inj h, Output.number?]
  all_goals cases h

/-- The error for an invalid request comes after a cancellation only if the emitter has found the
request before. -/
theorem failing_of_last? (h : e.last? count none = some .invalid) : e.phase = .failing := by
  cases hphase : e.phase with
  | failing => rfl
  | _ => simp [last?, hphase] at h

/-- A first part of what is due: the pending element or none, and behind it the last signal or
none. -/
theorem exists_of_due {late : List Output} (h : late <+: e.due count found) :
    ∃ (element : Option UInt64) (terminal : Option Output),
      late = element.toList.map .next ++ terminal.toList ∧ (∀ n ∈ element, e.pending? = some n) ∧
        ∀ o ∈ terminal, e.last? count found = some o := by
  have of_toList {l : List Output} {x : Option Output} (h : l <+: x.toList) :
      ∃ y : Option Output, l = y.toList ∧ ∀ o ∈ y, x = some o := by
    cases x with
    | none => exact ⟨none, List.prefix_nil.mp h, nofun⟩
    | some o =>
      rcases List.prefix_cons_iff.mp h with rfl | ⟨rest, rfl, hrest⟩
      · exact ⟨none, rfl, nofun⟩
      · exact ⟨some o, by rw [List.prefix_nil.mp hrest]; rfl, fun _ ho => ho⟩
  rw [due] at h
  cases hpending : e.pending? with
  | none =>
    rw [hpending] at h
    obtain ⟨terminal, rfl, hterminal⟩ := of_toList h
    exact ⟨none, terminal, rfl, nofun, hterminal⟩
  | some n =>
    rw [hpending] at h
    rcases List.prefix_cons_iff.mp h with rfl | ⟨rest, rfl, hrest⟩
    · exact ⟨none, none, rfl, nofun, nofun⟩
    · obtain ⟨terminal, rfl, hterminal⟩ := of_toList hrest
      exact ⟨some n, terminal, rfl, fun _ hn => hn, hterminal⟩

end Emitter

/-- A range is completed only where it has an end and all of it has been signalled. -/
theorem Subscription.Sound.of_complete {count : UInt64} {total : Nat} {s : Subscription ι}
    (h : s.Sound count total) (hcomplete : .complete ∈ s.signals) :
    count ≠ Demand.unbounded ∧ s.elements.length = count.toNat := by
  obtain ⟨m, terminal, hsignals, hcourse, -⟩ := h
  have hterminal : terminal = some .complete := by
    simpa [hsignals, outputs] using hcomplete
  have hlength : s.elements.length = m := by
    rw [Subscription.elements, hsignals, filterMap_number?_outputs m hcourse.isTerminal,
      List.length_map, List.length_range]
  rw [hlength]
  exact hcourse.completing (.inr hterminal)

namespace Subscription

/-- What the emitter of a subscription signals from where it is `s` and its ledger is closed to
where it is `t`: perhaps an element, and then perhaps a terminal signal. -/
structure Ceases (count : UInt64) (s t : Subscription ι) (element : Option UInt64)
    (terminal : Option Output) : Prop where
  signals : t.signals = s.signals ++ (element.toList.map .next ++ terminal.toList)
  isTerminal : ∀ o ∈ terminal, o.number? = none
  /-- The element is the one for which a unit of demand had been taken. -/
  inFlight : ∀ n ∈ element, s.inFlight = 1 ∧ n = s.worker.emitter.next
  /-- The completion comes only where all elements have been signalled. -/
  complete : terminal = some .complete →
    count ≠ Demand.unbounded ∧ t.elements.length = count.toNat

/-- What is signalled after a cancellation. -/
structure Stops (count : UInt64) (s t : Subscription ι) (element : Option UInt64)
    (terminal : Option Output) : Prop extends s.Ceases count t element terminal where
  /-- The error comes only if the emitter had found an invalid request before. -/
  invalid : terminal = some .invalid → s.worker.emitter.phase = .failing

/-- What is signalled after a request for no element. -/
structure Fails (count : UInt64) (s t : Subscription ι) (element : Option UInt64)
    (terminal : Option Output) : Prop extends s.Ceases count t element terminal where
  /-- As long as not all elements have been signalled, which is always so in a range without an end,
  the terminal signal is the error. -/
  invalid : count = Demand.unbounded ∨ t.elements.length < count.toNat →
    ∀ o ∈ terminal, o = .invalid

end Subscription

/-! ### What subscribe calls signal -/

/-- What a subscribe call signals from where it is `c` to where it is `d`, the publisher then being
`q`: nothing, or one error. -/
inductive SubscribeCall.Concludes (q : Publisher ι) (c d : SubscribeCall ι) : Prop
  | silent (signals : d.signals = c.signals)
  /-- The subscriber was listed; its subscription has no emitter, and no number. -/
  | refused (phase : c.phase = .refusing) (signals : d.signals = c.signals ++ [.onDuplicate])
  /-- No thread could be started for the subscription that was being offered, so that nothing is
  signalled on it. -/
  | unstarted (number : Nat) (s : Subscription ι) (phase : c.phase = .offering number)
      (signals : d.signals = c.signals ++ [.onUnstarted])
      (place : q.subscriptions[number]? = some s) (worker : s.worker = .unstarted)
      (silent : s.signals = [])

namespace SubscribeCall

variable {c d : SubscribeCall ι}

/-- A call that signals something more is offering a subscription or refused. -/
theorem Proper.of_prefix (hc : c.Proper) (hd : d.Proper) (h : c.signals <+: d.signals) :
    d.signals = c.signals ∨
      (c.signals = [.onSubscribeInert] ∧ d.signals = [.onSubscribeInert, .onDuplicate]) ∨
      ∃ number, c.signals = [.onSubscribe number] ∧
        d.signals = [.onSubscribe number, .onUnstarted] := by
  rcases hc.signals_cases with ⟨number, hcs⟩ | hcs | hcs | ⟨number, hcs⟩ <;>
    rcases hd.signals_cases with ⟨number', hds⟩ | hds | hds | ⟨number', hds⟩ <;>
    simp_all

end SubscribeCall

/-! ### Runs -/

namespace Publisher

variable [DecidableEq ι] {count : UInt64} {labels more : List (Label ι)} {p q : Publisher ι}
  {k : Nat} {s : Subscription ι}

/-- A run spends what is due on a subscription with a closed ledger. -/
theorem spends_of_run (hp : p.Coherent) (hrun : p.run more = some q)
    (hs : p.subscriptions[k]? = some s) (hclosed : s.ledger.Closed found) :
    ∃ t late, q.subscriptions[k]? = some t ∧ s.Spends p.count found t late := by
  refine (run_induction (motive := fun _ q => q.Coherent ∧ q.count = p.count ∧ ∃ t late,
    q.subscriptions[k]? = some t ∧ s.Spends p.count found t late) p
      ⟨hp, rfl, s, [], hs, .refl hclosed⟩ ?_ hrun).2.2
  rintro _ q l q' - ⟨hq, hcount, t, late, ht, hspends⟩ hstep
  have hturn := hq.turn hstep k
  rw [ht, hcount] at hturn
  obtain ⟨t', late', ht', hspends'⟩ := hturn.spends hspends.closed
  exact ⟨hq.step hstep, (count_step hstep).trans hcount, t', late ++ late', ht',
    hspends.trans hspends'⟩

/-- What is signalled in a run that begins with the change `f` of a ledger, which closes it. -/
theorem ceases_of_run (hrun : (start count).run labels = some p)
    (hs : p.subscriptions[k]? = some s) {f : Ledger → Ledger} (hclosed : (f s.ledger).Closed found)
    (hfound : ∀ o ∈ found, o.number? = none) {l : Label ι}
    (hl : p.step l = p.updateLedger k f) (hq : p.run (l :: more) = some q) :
    ∃ t element terminal, q.subscriptions[k]? = some t ∧ s.Ceases count t element terminal ∧
      ∀ o ∈ terminal, s.worker.emitter.last? count found = some o := by
  let s₁ : Subscription ι := { s with ledger := f s.ledger }
  have hupdate : p.step l = some (p.setSubscription k s₁) := by
    rw [hl, updateLedger, hs, Option.map_some]
  have hmore : (p.setSubscription k s₁).run more = some q := by
    rwa [run_cons, hupdate, Option.bind_some] at hq
  have hs₁ : (p.setSubscription k s₁).subscriptions[k]? = some s₁ := by
    rw [getElem?_setSubscription hs, if_pos rfl]
  have hall : (start count).run (labels ++ l :: more) = some q := by
    rw [run_append, hrun, Option.bind_some, hq]
  obtain ⟨t, late, ht, hspends⟩ := spends_of_run ((coherent_of_run hrun).step hupdate) hmore hs₁
    hclosed
  have hcount : p.count = count := count_of_run hrun
  rw [show (p.setSubscription k s₁).count = count from hcount] at hspends
  obtain ⟨element, terminal, hlate, helement, hterminal⟩ :=
    Emitter.exists_of_due ((List.prefix_append _ _).trans hspends.due)
  have hsignals : t.signals = s.signals ++ (element.toList.map .next ++ terminal.toList) :=
    hspends.signals.trans (by rw [hlate])
  refine ⟨t, element, terminal, ht, ⟨hsignals, fun o ho => ?_, fun n hn => ?_, ?_⟩, hterminal⟩
  · exact Emitter.number?_of_last? hfound (hterminal o ho)
  · exact Emitter.of_pending? (helement n hn)
  · rintro rfl
    have hsound := soundPlace_of_run hall k
    rw [ht] at hsound
    exact Subscription.Sound.of_complete hsound (by simp [hsignals])

/-- However a run goes on, a subscribe call signals one error at most. -/
theorem Coherent.concludes (hp : p.Coherent) (hrun : p.run more = some q) {j : Nat}
    {c : SubscribeCall ι} (hc : p.calls[j]? = some c) :
    ∃ d, q.calls[j]? = some d ∧ c.Concludes q d := by
  obtain ⟨d, hd, hgoes⟩ := hp.call_run hrun hc
  have hq := hp.run hrun
  have hproper := hp.proper c (List.mem_of_getElem? hc)
  have hproper' := hq.proper d (List.mem_of_getElem? hd)
  refine ⟨d, hd, ?_⟩
  by_cases hopen : c.isOpen = true
  · rcases hproper.of_prefix hproper' hgoes.signals with hsame | ⟨hcs, hds⟩ | ⟨number, hcs, hds⟩
    · exact .silent hsame
    · exact .refused ((hproper.isOpen_iff_refusing hcs).mp hopen) (by rw [hds, hcs]; rfl)
    · obtain ⟨s, hs, hmade⟩ := hq.made d (List.mem_of_getElem? hd) number
        (by rw [SubscribeCall.number?, hds])
      have hworker := hmade.unstarted.mpr hds
      exact .unstarted number s ((hproper.isOpen_iff hcs).mp hopen) (by rw [hds, hcs]; rfl) hs
        hworker
        ((hq.subscriptions s (List.mem_of_getElem? hs)).silent (.inr (.inr hworker)))
  · rw [hgoes.still (by simpa using hopen)]
    exact .silent rfl

/-- How an emitter stops, whatever the other threads do meanwhile. After a cancellation it signals
at most the element for which it has taken a unit of demand before, and then at most one terminal
signal: the completion, where all elements have been signalled, or the error, if it has found an
invalid request before. Requests that follow the cancellation can be left out of the run, and
nothing that is signalled changes. After a request for no element it signals at most such an element
as well, and then, as long as not all elements have been signalled, at most the error. Cancelled or
not, a subscribe call signals no more than the one error for a subscriber that is listed, or for an
emitter that cannot be started. -/
theorem emission_stops (hrun : (start count).run labels = some p)
    (hs : p.subscriptions[k]? = some s) :
    (∀ more q, p.run (.cancel k :: more) = some q →
      (∃ t element terminal, q.subscriptions[k]? = some t ∧ s.Stops count t element terminal) ∧
      ∃ q', p.run (.cancel k :: more.filter fun l => (l.demand? k).isNone) = some q' ∧
        q'.subscriptions.map Subscription.signals = q.subscriptions.map Subscription.signals ∧
          q'.calls = q.calls) ∧
    (∀ more q, p.run (.request k 0 :: more) = some q →
      ∃ t element terminal, q.subscriptions[k]? = some t ∧ s.Fails count t element terminal) ∧
    ∀ more q, p.run more = some q → ∀ (j : Nat) (c : SubscribeCall ι), p.calls[j]? = some c →
      ∃ d, q.calls[j]? = some d ∧ c.Concludes q d := by
  have hp := coherent_of_run hrun
  refine ⟨fun more q hq => ⟨?_, ?_⟩, fun more q hq => ?_, fun more q hq j c => hp.concludes hq⟩
  · have hclosed : s.ledger.cancel.Closed none := .cancel s.ledger
    obtain ⟨t, element, terminal, ht, hceases, hlast⟩ :=
      ceases_of_run hrun hs (f := .cancel) hclosed nofun rfl hq
    refine ⟨t, element, terminal, ht, hceases, ?_⟩
    rintro rfl
    exact Emitter.failing_of_last? (hlast _ rfl)
  · obtain ⟨q', hq', hvisible⟩ := run_unheeded hp hq
    have hcalls : q'.visible.calls = q.visible.calls := congrArg Publisher.calls hvisible
    exact ⟨q', hq', signals_of_visible hvisible, hcalls⟩
  · obtain ⟨t, element, terminal, ht, hceases, -⟩ :=
      ceases_of_run hrun hs (f := .request 0) (.request_zero s.ledger) (by simp [Output.number?])
        rfl hq
    refine ⟨t, element, terminal, ht, hceases, fun hopen o ho => ?_⟩
    cases o with
    | next n => cases hceases.isTerminal _ ho
    | invalid => rfl
    | complete =>
      obtain ⟨hcount, hall⟩ := hceases.complete ho
      exact absurd hopen (not_or.mpr ⟨hcount, by omega⟩)

/-- The emitter of a range of five has taken a unit of demand for its first element. A cancellation
lets it signal that element only, whatever is requested behind it; a request for no element lets it
signal the error behind that element. Meanwhile another subscriber is offered a subscription, and no
thread can be started for that. -/
theorem emission_stops_five :
    let labels : List (Label Nat) :=
      [.subscribe 7, .request 0 2, .resume 0 false, .work 0, .work 0, .subscribe 8]
    let afterCancel : List (Label Nat) :=
      [.request 0 3, .work 0, .request 0 0, .abort 1, .finish 0 false, .work 0, .work 0, .work 0]
    let afterZero : List (Label Nat) :=
      [.request 0 3, .work 0, .finish 0 false, .work 0, .work 0, .work 0]
    ∃ p s c q r, (start 5).run labels = some p ∧ p.subscriptions[0]? = some s ∧
      p.calls[1]? = some c ∧
      p.run (.cancel 0 :: afterCancel) = some q ∧ p.run (.request 0 0 :: afterZero) = some r ∧
      (∃ t element terminal, q.subscriptions[0]? = some t ∧ t.signals = [.next 0] ∧
        s.Stops 5 t element terminal) ∧
      (∃ q', p.run [.cancel 0, .work 0, .abort 1, .finish 0 false, .work 0, .work 0, .work 0] =
          some q' ∧
        q'.subscriptions.map Subscription.signals = [[.next 0], []]) ∧
      (∃ t element terminal, r.subscriptions[0]? = some t ∧ t.signals = [.next 0, .invalid] ∧
        s.Fails 5 t element terminal) ∧
      ∃ d, q.calls[1]? = some d ∧ d.signals = [.onSubscribe 1, .onUnstarted] ∧ c.Concludes q d := by
  intro labels afterCancel afterZero
  let call : SubscribeCall Nat := ⟨7, .returned, [.onSubscribe 0]⟩
  let offer : SubscribeCall Nat := ⟨8, .offering 1, [.onSubscribe 1]⟩
  let s : Subscription Nat := ⟨7, ⟨1, false, false⟩, .running ⟨0, .delivering⟩, []⟩
  let p : Publisher Nat := ⟨5, ⟨[7, 8]⟩, [s, ⟨8, .empty, .unborn, []⟩], [call, offer]⟩
  let q : Publisher Nat :=
    ⟨5, ⟨[]⟩, [⟨7, ⟨4, true, true⟩, .running ⟨1, .ended⟩, [.next 0]⟩,
      ⟨8, .empty, .unstarted, []⟩], [call, ⟨8, .failing, [.onSubscribe 1, .onUnstarted]⟩]⟩
  let r : Publisher Nat :=
    ⟨5, ⟨[7, 8]⟩, [⟨7, ⟨4, false, true⟩, .signalling .invalid ⟨1, .leaving⟩, [.next 0, .invalid]⟩,
      ⟨8, .empty, .unborn, []⟩], [call, offer]⟩
  have hrun : (start 5).run labels = some p := by decide
  have hs : p.subscriptions[0]? = some s := rfl
  have hq : p.run (.cancel 0 :: afterCancel) = some q := by decide
  have hr : p.run (.request 0 0 :: afterZero) = some r := by decide
  obtain ⟨hcancel, hzero, hcalls⟩ := emission_stops hrun hs
  obtain ⟨⟨t, element, terminal, ht, hstops⟩, q', hq', hsignals, -⟩ := hcancel _ _ hq
  obtain ⟨u, element', terminal', hu, hfails⟩ := hzero _ _ hr
  obtain ⟨d, hd, hconcludes⟩ := hcalls _ _ hq 1 offer rfl
  refine ⟨p, s, offer, q, r, hrun, hs, rfl, hq, hr, ⟨t, element, terminal, ht, ?_, hstops⟩,
    ⟨q', hq', hsignals⟩, ⟨u, element', terminal', hu, ?_, hfails⟩, d, hd, ?_, hconcludes⟩
  · rw [← Option.some.inj ht]
  · rw [← Option.some.inj hu]
  · rw [← Option.some.inj hd]

/-- No subscribe call signals the error `e` to a subscriber that has cancelled, unless the emitter
has found an invalid request before. -/
def SilentAfterCancel (e : CallSignal) : Prop :=
  ∀ (count : UInt64) (labels more : List (Label Nat)) (p q : Publisher Nat) (k : Nat)
    (s : Subscription Nat), (start count).run labels = some p → p.subscriptions[k]? = some s →
    s.worker.emitter.phase ≠ .failing → p.run (.cancel k :: more) = some q →
    ∀ (j : Nat) (c d : SubscribeCall Nat), p.calls[j]? = some c → q.calls[j]? = some d →
      c.subscriber = s.subscriber → e ∈ d.signals → e ∈ c.signals

/-- A subscriber that cancels while it is offered its subscription is signalled the error if no
thread can be started. One that subscribes once more, and cancels while it is offered a subscription
that does nothing, is signalled the error for that call. -/
theorem not_silentAfterCancel :
    ¬SilentAfterCancel .onUnstarted ∧ ¬SilentAfterCancel .onDuplicate := by
  constructor
  · intro h
    have hsilent := h 3 [.subscribe 7] [.abort 0] _ _ 0 _ rfl rfl (by decide) rfl 0 _ _ rfl rfl rfl
    exact absurd (hsilent (by decide)) (by decide)
  · intro h
    have hsilent := h 3 [.subscribe 7, .resume 0 false, .subscribe 7] [.resume 1 false] _ _ 0 _ rfl
      rfl (by decide) rfl 1 _ _ rfl rfl rfl
    exact absurd (hsilent (by decide)) (by decide)

end Publisher

end StreamConformance.Range
