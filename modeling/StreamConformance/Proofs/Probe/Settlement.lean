import Mathlib.Data.List.Basic
import StreamConformance.Proofs.Probe.Accounting

/-!
# A shared probe when all calls have returned

When all calls on a probe have returned, each of them has been accepted or has recorded one
violation of its own kind. If a terminal signal has been reported, one report has been accepted, and
if a puppet has been offered, one offer has been accepted. An element whose report began after that
of a terminal signal had returned has been refused.

## Main definitions

* `SharedProbe.Settled` — what holds when all calls have returned.

## Main results

* `SharedProbe.exists_settled` — after every run the calls can return, and then the probe is
  settled.
* `SharedProbe.settled_of_trace` — a probe is settled after every run in which all calls return.
-/

namespace StreamConformance

variable {α π : Type}

/-! ### Elements that come too late -/

/-- The report of an element cannot be accepted any more: it has not looked for an error yet, or the
queue has ended, or it has been refused. -/
def CallProgress.IsLate (w : WhiteboxProbe α π) : CallProgress → Prop
  | begun | objecting .. | refused _ => True
  | cleared => w.blackbox.elements.isCompleted = true
  | holding | accepted => False

namespace CallStep

variable [Element α] {subject : String} {isUnlocked : Bool} {c : ReportCall α π}
  {progress point : CallProgress} {w w' : WhiteboxProbe α π} {v : Option Violation}

theorem isLate_mono (h : CallStep subject isUnlocked c progress w point w' v) {other : CallProgress}
    (hother : other.IsLate w) : other.IsLate w' := by
  cases other with
  | begun | objecting | refused => trivial
  | cleared => exact h.isCompleted_iff.mpr (.inl hother)
  | holding | accepted => exact hother

theorem isLate {a : α} (h : CallStep subject isUnlocked (.next a) progress w point w' v)
    (hclosed : w.isClosed = true) (hlate : progress.IsLate w) : point.IsLate w' := by
  cases h with
  | cleared hopen =>
    simpa [WhiteboxProbe.isClosed, Promise.isCompleted, hopen, CallProgress.IsLate] using hclosed
  | queued hadd =>
    have hended : w.blackbox.elements.isCompleted = true := hlate
    simp [Queue.add, hended] at hadd
  | concluded => exact hlate.elim
  | first hc | second hc => simp [ReportCall.terminal?] at hc
  | barred | unqueued | recorded => trivial

end CallStep

namespace SharedProbe

variable [Element α] {p q : SharedProbe α π} {labels more : List (String × ProbeLabel α π)}

theorem puppet_of_trace (hrun : p.trace labels = some q) {x : π}
    (hx : p.probe.puppet.value = some x) : q.probe.puppet.value = some x := by
  refine trace_induction (motive := fun r => r.probe.puppet.value = some x) hx ?_ hrun
  intro r subject l r' hr hstep
  cases l with
  | begin c =>
    obtain rfl := Option.some.inj hstep
    exact hr
  | advance call =>
    obtain ⟨c, progress, point, w, v, -, hmove, rfl⟩ := of_advance hstep
    exact hmove.puppet_mono hr

theorem isLate_of_trace (hrun : p.trace labels = some q) (hclosed : p.probe.isClosed = true)
    {j : Nat} {a : α} {progress : CallProgress} (hj : p.calls[j]? = some (.next a, progress))
    (hlate : progress.IsLate p.probe) :
    ∃ point, q.calls[j]? = some (.next a, point) ∧ point.IsLate q.probe := by
  refine (trace_induction (motive := fun r => r.probe.isClosed = true ∧
    ∃ point, r.calls[j]? = some (.next a, point) ∧ point.IsLate r.probe)
    ⟨hclosed, progress, hj, hlate⟩ ?_ hrun).2
  rintro r subject l r' ⟨hclosed, point, hj, hlate⟩ hstep
  have hlt : j < r.calls.length := (List.getElem?_eq_some_iff.mp hj).1
  cases l with
  | begin c =>
    obtain rfl := Option.some.inj hstep
    exact ⟨hclosed, point, by rw [List.getElem?_append_left hlt, hj], hlate⟩
  | advance call =>
    obtain ⟨c, progress, point', w, v, hc, hmove, rfl⟩ := of_advance hstep
    refine ⟨hmove.isClosed_mono hclosed, ?_⟩
    by_cases hcall : call = j
    · subst hcall
      obtain ⟨rfl, rfl⟩ := Prod.mk.inj (Option.some.inj (hc.symm.trans hj))
      exact ⟨point', List.getElem?_set_self hlt, hmove.isLate hclosed hlate⟩
    · exact ⟨point, (List.getElem?_set_ne hcall).trans hj, hmove.isLate_mono hlate⟩

/-! ### Counting -/

omit [Element α] in
/-- Every call reports an element or a terminal signal, or offers a puppet. -/
theorem length_eq_of_calls (cs : List (ReportCall α π)) :
    (cs.filterMap ReportCall.element?).length + (cs.filterMap ReportCall.terminal?).length +
      (cs.filterMap ReportCall.puppet?).length = cs.length := by
  induction cs with
  | nil => rfl
  | cons c cs ih =>
    cases c <;> simp only [List.filterMap_cons, ReportCall.element?, ReportCall.terminal?,
      ReportCall.puppet?, List.length_cons] <;> omega

omit [Element α] in
theorem length_eq_of_isOver (p : SharedProbe α π) (hover : ∀ e ∈ p.calls, e.2.isOver = true) :
    p.accepted.length + p.refusals.length = p.calls.length := by
  rw [accepted, refusals]
  generalize p.calls = calls at hover
  induction calls with
  | nil => rfl
  | cons e calls ih =>
    obtain ⟨he, hcalls⟩ := List.forall_mem_cons.mp hover
    have hlength := ih hcalls
    obtain ⟨c, progress⟩ := e
    cases progress with
    | begun | cleared | holding | objecting => simp [CallProgress.isOver] at he
    | accepted | refused =>
      simp only [List.filterMap_cons, accepted?, refusal?, List.length_cons]
      omega

/-! ### Settlement -/

/-- What holds of a probe whose log held `entries` at first, when all calls on it have returned. -/
structure Settled (entries : List Violation) (p : SharedProbe α π) : Prop where
  /-- Every call has been accepted, or has recorded a violation of its own kind. -/
  outcome : ∀ e ∈ p.calls, e.2 = .accepted ∨ ∃ v, e.2 = .refused v ∧ e.1.Fits v
  /-- The new entries of the log are the violations of the calls; all calls are accounted for. -/
  log : ∃ new, p.log.entries = entries ++ new ∧ new.Perm p.refusals ∧
    (p.accepted.filterMap ReportCall.element?).length +
      (p.accepted.filterMap ReportCall.terminal?).length +
        (p.accepted.filterMap ReportCall.puppet?).length + new.length = p.calls.length
  elements : p.probe.blackbox.elements.elements.Perm (p.accepted.filterMap ReportCall.element?)
  /-- If a terminal signal has been reported, one report has been accepted. -/
  terminal : (∃ e ∈ p.calls, e.1.terminal? ≠ none) →
    ∃ t, p.accepted.filterMap ReportCall.terminal? = [t]
  completed : p.probe.blackbox.elements.isCompleted = true ↔ .complete ∈ p.accepted
  failed : ∀ x, p.probe.blackbox.error.value = some x ↔ .error x ∈ p.accepted
  exclusive : ¬(p.probe.blackbox.elements.isCompleted = true ∧
    p.probe.blackbox.error.isCompleted = true)
  /-- If a puppet has been offered, one offer has been accepted, and the probe holds it. -/
  puppet : (∃ e ∈ p.calls, e.1.puppet? ≠ none) →
    ∃ x, p.accepted.filterMap ReportCall.puppet? = [x] ∧ p.probe.puppet.value = some x

namespace Accounted

omit [Element α]

variable {entries : List Violation}

/-- When all calls have returned the terminal signal that is marked has been accepted. -/
theorem terminal_perm (hp : p.Accounted entries) (hover : ∀ e ∈ p.calls, e.2.isOver = true) :
    p.probe.blackbox.terminal.toList.Perm (p.accepted.filterMap ReportCall.terminal?) := by
  have hclaimed : p.accepted.filterMap ReportCall.terminal? = p.calls.filterMap claimed? := by
    rw [accepted, List.filterMap_filterMap]
    refine List.filterMap_congr fun e he => ?_
    have hreturned := hover e he
    obtain ⟨c, progress⟩ := e
    cases progress with
    | begun | cleared | holding | objecting => simp [CallProgress.isOver] at hreturned
    | accepted | refused => rfl
  exact hclaimed ▸ hp.terminal

theorem settled (hp : p.Accounted entries) (hover : ∀ e ∈ p.calls, e.2.isOver = true) :
    p.Settled entries where
  outcome e he := by
    have hreturned := hover e he
    have hstands := hp.stands e he
    obtain ⟨c, progress⟩ := e
    cases progress with
    | begun | cleared | holding | objecting => simp [CallProgress.isOver] at hreturned
    | accepted => exact .inl rfl
    | refused v => exact .inr ⟨v, rfl, hstands.1⟩
  log := by
    obtain ⟨new, hentries, hperm⟩ := hp.log
    refine ⟨new, hentries, hperm, ?_⟩
    rw [length_eq_of_calls, hperm.length_eq, p.length_eq_of_isOver hover]
  elements := hp.elements
  terminal := by
    rintro ⟨e, he, hterminal⟩
    have hclosed := hp.isClosed_of_isOver he hterminal (hover e he)
    obtain ⟨t, ht⟩ : ∃ t, p.probe.blackbox.terminal = some t := by
      rw [WhiteboxProbe.isClosed, Bool.or_eq_true] at hclosed
      rcases hclosed with hcompleted | hfailed
      · exact ⟨_, hp.terminal_of_mem (hp.completed.mp hcompleted) rfl⟩
      · obtain ⟨x, hx⟩ := Option.isSome_iff_exists.mp hfailed
        exact ⟨_, hp.terminal_of_mem ((hp.error_iff x).mp hx) rfl⟩
    have hperm := hp.terminal_perm hover
    rw [ht, Option.toList_some, List.singleton_perm] at hperm
    exact ⟨t, hperm.symm⟩
  completed := hp.completed
  failed := hp.error_iff
  exclusive := by
    rintro ⟨hcompleted, hfailed⟩
    obtain ⟨x, hx⟩ := Option.isSome_iff_exists.mp hfailed
    have hcomplete := hp.terminal_of_mem (hp.completed.mp hcompleted) rfl
    have herror := hp.terminal_of_mem ((hp.error_iff x).mp hx) rfl
    cases hcomplete.symm.trans herror
  puppet := by
    rintro ⟨⟨c, progress⟩, he, hpuppet⟩
    have htaken := hp.taken_of_isOver he (hover _ he)
    cases c with
    | next | complete | error => exact absurd rfl hpuppet
    | puppet =>
      obtain ⟨x, hx⟩ := Option.isSome_iff_exists.mp htaken
      have hperm := hp.puppet
      rw [hx, Option.toList_some, List.singleton_perm] at hperm
      exact ⟨x, hperm.symm, hx⟩

end Accounted

/-- However the calls on a probe have interleaved so far, all of them can return, and then the probe
is settled. -/
theorem exists_settled {capacity : Nat} {log : Log}
    (hrun : (⟨.empty capacity, log, []⟩ : SharedProbe α π).trace labels = some p)
    (subject : String) : ∃ more q, p.trace more = some q ∧
      q.calls.map Prod.fst = p.calls.map Prod.fst ∧ q.Settled log.entries := by
  obtain ⟨more, q, hmore, hover, hcalls⟩ := (Accounted.of_trace hrun).exists_over subject
  have hall : (⟨.empty capacity, log, []⟩ : SharedProbe α π).trace (labels ++ more) = some q := by
    rw [trace_append, hrun, Option.bind_some, hmore]
  exact ⟨more, q, hmore, hcalls, (Accounted.of_trace hall).settled hover⟩

/-- A probe on which all calls have returned, in whatever order they took their steps, is settled. A
puppet that it holds at some time is held from then on. An element whose report begins when that of
a terminal signal has returned is refused. -/
theorem settled_of_trace {capacity : Nat} {log : Log}
    (hrun : (⟨.empty capacity, log, []⟩ : SharedProbe α π).trace labels = some p)
    (hover : ∀ e ∈ p.calls, e.2.isOver = true) :
    p.Settled log.entries ∧
    (∀ (q r : SharedProbe α π) (more : List (String × ProbeLabel α π)) (x : π),
      q.trace more = some r → q.probe.puppet.value = some x → r.probe.puppet.value = some x) ∧
    ∀ before subject a after q, labels = before ++ (subject, .begin (.next a)) :: after →
      (⟨.empty capacity, log, []⟩ : SharedProbe α π).trace before = some q →
        (∃ e ∈ q.calls, e.1.terminal? ≠ none ∧ e.2.isOver = true) →
          ∃ v, p.calls[q.calls.length]? = some (.next a, .refused v) := by
  refine ⟨(Accounted.of_trace hrun).settled hover, fun q r more x hmore => puppet_of_trace hmore,
    ?_⟩
  rintro before subject a after q hlabels hq ⟨e, he, hterminal, hreturned⟩
  have hclosed := (Accounted.of_trace hq).isClosed_of_isOver he hterminal hreturned
  rw [hlabels, trace_append, hq] at hrun
  obtain ⟨r, hr, hafter⟩ : ∃ r, q.step subject (.begin (.next a)) = some r ∧
      r.trace after = some p := Option.bind_eq_some_iff.mp hrun
  obtain rfl := Option.some.inj hr
  obtain ⟨point, hpoint, hlate⟩ := isLate_of_trace hafter hclosed
    (List.getElem?_concat_length ..) trivial
  have hsettled := hover _ (List.mem_of_getElem? hpoint)
  cases point with
  | begun | cleared | objecting => simp [CallProgress.isOver] at hsettled
  | holding | accepted => exact hlate.elim
  | refused v => exact ⟨v, hpoint⟩

/-- A completion and an error are reported at the same time, and an element before the error that
comes first has taken effect; then come another element and two puppets. -/
theorem settled_of_trace_race :
    let x : StreamError := ⟨⟨.harness, 0⟩, .testException⟩
    let labels : List (String × ProbeLabel UInt64 Nat) := [.begin .complete, .begin (.error x),
      .begin (.next 5), .advance 1, .advance 2, .advance 1, .advance 2, .advance 0, .advance 0,
      .begin (.next 6), .advance 3, .advance 3, .begin (.puppet 8), .begin (.puppet 9), .advance 5,
      .advance 4, .advance 4].map fun l => ("subject", l)
    ∃ p, (⟨.empty 4, .empty, []⟩ : SharedProbe UInt64 Nat).trace labels = some p ∧
      (∀ e ∈ p.calls, e.2.isOver = true) ∧ p.Settled [] ∧ p.probe.puppet.value = some 9 ∧
      p.probe.blackbox.elements.elements = [5] ∧ p.probe.blackbox.error.value = some x ∧
      p.log.entries.length = 3 ∧ p.calls.length = 6 := by
  intro x labels
  obtain ⟨p, hrun, hover, hfacts⟩ :
      ∃ p ∈ (⟨.empty 4, .empty, []⟩ : SharedProbe UInt64 Nat).trace labels,
        (∀ e ∈ p.calls, e.2.isOver = true) ∧ p.probe.puppet.value = some 9 ∧
          p.probe.blackbox.elements.elements = [5] ∧ p.probe.blackbox.error.value = some x ∧
            p.log.entries.length = 3 ∧ p.calls.length = 6 := by decide
  exact ⟨p, hrun, hover, (settled_of_trace hrun hover).1, hfacts⟩

end SharedProbe

end StreamConformance
