import StreamConformance.Proofs.Cell.Queue
import StreamConformance.Proofs.Probe.Calls

/-!
# The account of a shared probe

However the calls on a probe interleave, each of them is either accepted or recorded as one
violation of its own kind. The probe holds what it has accepted: the elements in its queue, one
terminal signal and one puppet at most. The report of a terminal signal that acquires the lock finds
that the first one has taken effect, so that an element whose report begins after that is refused.

## Main definitions

* `SharedProbe.accepted`, `SharedProbe.refusals` — what has come of the calls.
* `ReportCall.Stands` — what is known of a call where it stands.
* `SharedProbe.Accounted` — the probe holds what it has accepted, and the log what it has refused.

## Main results

* `SharedProbe.Accounted.of_trace` — the account is right after every run.
* `SharedProbe.Accounted.exists_over` — from every state the calls can go on until all have
  returned.
-/

namespace StreamConformance

variable {α π : Type}

/-! ### What has come of the calls -/

/-- Whether a terminal signal has taken effect. -/
def WhiteboxProbe.isClosed (w : WhiteboxProbe α π) : Bool :=
  w.blackbox.elements.isCompleted || w.blackbox.error.isCompleted

/-- The number of steps that a call may still take. -/
def CallProgress.remaining : CallProgress → Nat
  | begun => 3
  | cleared => 2
  | holding | objecting .. => 1
  | accepted | refused _ => 0

theorem CallStep.remaining_lt [Element α] {subject : String} {isUnlocked : Bool}
    {c : ReportCall α π} {progress point : CallProgress} {w w' : WhiteboxProbe α π}
    {v : Option Violation} (h : CallStep subject isUnlocked c progress w point w' v) :
    point.remaining < progress.remaining := by
  cases h <;> simp [CallProgress.remaining]

namespace SharedProbe

/-- The call, if it has been accepted. -/
def accepted? (e : ReportCall α π × CallProgress) : Option (ReportCall α π) :=
  match e.2 with
  | .accepted => some e.1
  | .begun | .cleared | .holding | .objecting .. | .refused _ => none

/-- The terminal signal with which the call has come first. -/
def claimed? (e : ReportCall α π × CallProgress) : Option Terminal :=
  match e.2 with
  | .holding | .accepted => e.1.terminal?
  | .begun | .cleared | .objecting .. | .refused _ => none

/-- The violation that the call has recorded. -/
def refusal? (e : ReportCall α π × CallProgress) : Option Violation :=
  match e.2 with
  | .refused v => some v
  | .begun | .cleared | .holding | .objecting .. | .accepted => none

/-- The calls that have been accepted, in the order of their beginning. -/
def accepted (s : SharedProbe α π) : List (ReportCall α π) := s.calls.filterMap accepted?

/-- The violations that have been recorded, in the order in which the calls began. -/
def refusals (s : SharedProbe α π) : List Violation := s.calls.filterMap refusal?

end SharedProbe

namespace ReportCall

/-- The place for what the call reports is taken. An element may always find one. -/
def Taken (w : WhiteboxProbe α π) : ReportCall α π → Prop
  | next _ => True
  | complete | error _ => w.isClosed = true
  | puppet _ => w.puppet.isCompleted = true

/-- What is known of a call where it stands. -/
def Stands (w : WhiteboxProbe α π) (c : ReportCall α π) : CallProgress → Prop
  | .begun => True
  | .cleared => c.element? ≠ none
  | .holding => c.terminal? ≠ none
  | .objecting v _ | .refused v => c.Fits v ∧ c.Taken w
  | .accepted => c.Taken w

end ReportCall

/-! ### What a step adds -/

namespace CallStep

open SharedProbe

variable [Element α] {subject : String} {isUnlocked : Bool} {c : ReportCall α π}
  {progress point : CallProgress} {w w' : WhiteboxProbe α π} {v : Option Violation}

/-- A call that takes a step has been neither accepted nor refused. -/
theorem accepted?_eq_none (h : CallStep subject isUnlocked c progress w point w' v) :
    accepted? (c, progress) = none ∧ refusal? (c, progress) = none := by
  cases h <;> exact ⟨rfl, rfl⟩

theorem refusal?_eq (h : CallStep subject isUnlocked c progress w point w' v) :
    refusal? (c, point) = v := by
  cases h <;> rfl

theorem elements_eq (h : CallStep subject isUnlocked c progress w point w' v)
    (hstands : c.Stands w progress) : w'.blackbox.elements.elements =
      w.blackbox.elements.elements ++
        (accepted? (c, point)).toList.filterMap ReportCall.element? := by
  cases h with
  | queued h => simp [accepted?, ReportCall.element?, Queue.elements_add h]
  | concluded =>
    cases c <;>
      simp_all [accepted?, ReportCall.element?, ReportCall.Stands, ReportCall.terminal?, conclude]
  | cleared | barred | unqueued | first | second | registered | rejected | recorded =>
    simp [accepted?, ReportCall.element?]

theorem puppet_eq (h : CallStep subject isUnlocked c progress w point w' v)
    (hstands : c.Stands w progress) : w'.puppet.value.toList = w.puppet.value.toList ++
      (accepted? (c, point)).toList.filterMap ReportCall.puppet? := by
  cases h with
  | registered h => simp [accepted?, ReportCall.puppet?, Promise.completed, h]
  | concluded =>
    cases c <;> simp_all [accepted?, ReportCall.puppet?, ReportCall.Stands, ReportCall.terminal?]
  | queued | cleared | barred | unqueued | first | second | rejected | recorded =>
    simp [accepted?, ReportCall.puppet?]

/-- An error is held from when it is accepted, as no terminal signal has taken effect before. -/
theorem error_eq (h : CallStep subject isUnlocked c progress w point w' v)
    (hopen : progress = .holding → w.isClosed = false) : w'.blackbox.error.value.toList =
      w.blackbox.error.value.toList ++
        (accepted? (c, point)).toList.filterMap ReportCall.error? := by
  cases h with
  | concluded =>
    have hempty : w.blackbox.error.value = none := by
      simpa [WhiteboxProbe.isClosed, Promise.isCompleted] using
        (Bool.or_eq_false_iff.mp (hopen rfl)).2
    cases c <;> simp [accepted?, ReportCall.error?, conclude, Promise.complete, Promise.isCompleted,
      Promise.completed, hempty]
  | queued | cleared | barred | unqueued | first | second | registered | rejected | recorded =>
    simp [accepted?, ReportCall.error?]

theorem isCompleted_iff (h : CallStep subject isUnlocked c progress w point w' v) :
    w'.blackbox.elements.isCompleted = true ↔
      w.blackbox.elements.isCompleted = true ∨ accepted? (c, point) = some .complete := by
  cases h with
  | @queued a _ q h =>
    have hcompleted : q.isCompleted = w.blackbox.elements.isCompleted := by
      simpa [h] using Queue.isCompleted_add a w.blackbox.elements
    simp [accepted?, hcompleted]
  | concluded => cases c <;> simp [accepted?, conclude]
  | cleared | barred | unqueued | first | second | registered | rejected | recorded =>
    simp [accepted?]

/-- A terminal signal is marked by the call that comes first. -/
theorem terminal_eq (h : CallStep subject isUnlocked c progress w point w' v) :
    (claimed? (c, point) = claimed? (c, progress) ∧
        w'.blackbox.terminal = w.blackbox.terminal) ∨
      claimed? (c, progress) = none ∧ w.blackbox.terminal = none ∧
        w'.blackbox.terminal = claimed? (c, point) := by
  cases h with
  | first hc _ h => exact .inr ⟨rfl, h, hc.symm⟩
  | concluded => cases c <;> exact .inl ⟨rfl, rfl⟩
  | queued | cleared | barred | unqueued | second | registered | rejected | recorded =>
    exact .inl ⟨rfl, rfl⟩

theorem isClosed_mono (h : CallStep subject isUnlocked c progress w point w' v)
    (hclosed : w.isClosed = true) : w'.isClosed = true := by
  rw [WhiteboxProbe.isClosed, Bool.or_eq_true] at hclosed ⊢
  refine hclosed.imp (fun hcompleted => h.isCompleted_iff.mpr (.inl hcompleted)) fun hfailed => ?_
  cases h with
  | concluded =>
    cases c <;> simp_all [conclude, Promise.complete]
  | queued | cleared | barred | unqueued | first | second | registered | rejected | recorded =>
    exact hfailed

theorem puppet_mono (h : CallStep subject isUnlocked c progress w point w' v) {p : π}
    (hp : w.puppet.value = some p) : w'.puppet.value = some p := by
  cases h with
  | registered h => simp [h] at hp
  | concluded | queued | cleared | barred | unqueued | first | second | rejected | recorded =>
    exact hp

theorem taken_mono (h : CallStep subject isUnlocked c progress w point w' v) {d : ReportCall α π}
    (hd : d.Taken w) : d.Taken w' := by
  cases d with
  | next => trivial
  | complete | error => exact h.isClosed_mono hd
  | puppet =>
    obtain ⟨p, hp⟩ := Option.isSome_iff_exists.mp hd
    exact Option.isSome_iff_exists.mpr ⟨p, h.puppet_mono hp⟩

theorem stands_mono (h : CallStep subject isUnlocked c progress w point w' v) {d : ReportCall α π}
    {other : CallProgress} (hd : d.Stands w other) : d.Stands w' other := by
  cases other with
  | begun | cleared | holding => exact hd
  | objecting | refused => exact ⟨hd.1, h.taken_mono hd.2⟩
  | accepted => exact h.taken_mono hd

/-- A call that takes a step comes to stand where it should. Who acquires the lock and finds a
terminal signal finds that it has taken effect. -/
theorem stands (h : CallStep subject isUnlocked c progress w point w' v)
    (hstands : c.Stands w progress)
    (hclosed : isUnlocked = true → w.blackbox.terminal ≠ none → w.isClosed = true) :
    c.Stands w' point := by
  cases h with
  | cleared => exact nofun
  | barred => exact ⟨⟨_, .head _, _, rfl⟩, trivial⟩
  | queued => exact trivial
  | @unqueued a _ r _ h =>
    cases r with
    | alreadyCompleted => exact ⟨⟨_, .head _, _, rfl⟩, trivial⟩
    | overflow => exact ⟨⟨_, .tail _ (.head _), _, rfl⟩, trivial⟩
  | first hc =>
    intro hnone
    simp [hnone] at hc
  | second hc hunlocked h hv =>
    have hw := hclosed hunlocked (by simp [h])
    cases c with
    | next | puppet => exact absurd rfl hc
    | complete | error => exact ⟨hv, hw⟩
  | concluded =>
    cases c with
    | next | puppet => exact absurd rfl hstands
    | complete => simp [ReportCall.Stands, ReportCall.Taken, WhiteboxProbe.isClosed, conclude]
    | error e =>
      simp only [ReportCall.Stands, ReportCall.Taken, WhiteboxProbe.isClosed, conclude,
        Promise.complete]
      split <;> simp_all [Promise.isCompleted, Promise.completed]
  | registered => exact rfl
  | rejected h => exact ⟨⟨_, .head _, _, rfl⟩, h⟩
  | recorded => exact hstands

end CallStep

/-! ### The account -/

namespace SharedProbe

/-- The account of a probe whose log held `entries` at first. -/
structure Accounted (entries : List Violation) (s : SharedProbe α π) : Prop where
  /-- Every call stands where it should. -/
  stands : ∀ e ∈ s.calls, e.1.Stands s.probe e.2
  elements : s.probe.blackbox.elements.elements.Perm (s.accepted.filterMap ReportCall.element?)
  /-- The mark of the first terminal signal is that of the call that has come first. -/
  terminal : s.probe.blackbox.terminal.toList.Perm (s.calls.filterMap claimed?)
  completed : s.probe.blackbox.elements.isCompleted = true ↔ .complete ∈ s.accepted
  failed : s.probe.blackbox.error.value.toList.Perm (s.accepted.filterMap ReportCall.error?)
  puppet : s.probe.puppet.value.toList.Perm (s.accepted.filterMap ReportCall.puppet?)
  log : ∃ new, s.log.entries = entries ++ new ∧ new.Perm s.refusals

namespace Accounted

variable {entries : List Violation} {s s' : SharedProbe α π} {call : Nat} {c : ReportCall α π}
  {progress point : CallProgress} {v : Option Violation} {w : WhiteboxProbe α π}

/-- At most one call has come first with a terminal signal. -/
theorem eq_of_claimed (hs : s.Accounted entries) {i j : Nat} {e f : ReportCall α π × CallProgress}
    (he : s.calls[i]? = some e) (hf : s.calls[j]? = some f) (hce : claimed? e ≠ none)
    (hcf : claimed? f ≠ none) : i = j := by
  have hlength : (s.calls.filterMap claimed?).length ≤ 1 := by
    rw [← hs.terminal.length_eq]
    cases s.probe.blackbox.terminal <;> simp
  exact Places.eq_of_length_le_one hlength he hf hce hcf

/-- A call that has been accepted has come first, if it reports a terminal signal. -/
theorem claimed?_of_accepted? {e : ReportCall α π × CallProgress} (h : accepted? e = some c) :
    claimed? e = c.terminal? := by
  unfold accepted? at h
  unfold claimed?
  split at h <;> simp_all

/-- As long as the effect of a terminal signal is outstanding none has taken effect. -/
theorem isClosed_of_holding (hs : s.Accounted entries) (hc : s.calls[call]? = some (c, .holding)) :
    s.probe.isClosed = false := by
  have hclaimed : claimed? (c, .holding) ≠ none := hs.stands _ (List.mem_of_getElem? hc)
  have hnone {d : ReportCall α π} (hd : d ∈ s.accepted) : d.terminal? = none := by
    by_contra hterminal
    obtain ⟨e, he, haccepted⟩ := List.mem_filterMap.mp hd
    obtain ⟨j, hj⟩ := List.mem_iff_getElem?.mp he
    rw [← claimed?_of_accepted? haccepted] at hterminal
    obtain rfl := hs.eq_of_claimed hc hj hclaimed hterminal
    obtain rfl := Option.some.inj (hc.symm.trans hj)
    simp [accepted?] at haccepted
  rw [WhiteboxProbe.isClosed, Bool.or_eq_false_iff]
  constructor
  · rw [← Bool.not_eq_true, hs.completed]
    exact fun hmem => nomatch hnone hmem
  · have hempty : s.accepted.filterMap ReportCall.error? = [] := by
      refine List.filterMap_eq_nil_iff.mpr fun d hd => ?_
      have hterminal := hnone hd
      cases d <;> simp_all [ReportCall.terminal?, ReportCall.error?]
    have hnoerror := hs.failed
    rw [hempty, List.perm_nil, Option.toList_eq_nil_iff] at hnoerror
    simp [Promise.isCompleted, hnoerror]

/-- When nobody holds the lock the first terminal signal has taken effect. -/
theorem isClosed_of_isUnlocked (hs : s.Accounted entries) (hunlocked : s.isUnlocked = true)
    (h : s.probe.blackbox.terminal ≠ none) : s.probe.isClosed = true := by
  obtain ⟨t, ht⟩ := Option.ne_none_iff_exists'.mp h
  have hmem : t ∈ s.calls.filterMap claimed? := by
    rw [← hs.terminal.mem_iff, ht]
    exact List.mem_singleton_self t
  obtain ⟨⟨c, progress⟩, he, hclaimed⟩ := List.mem_filterMap.mp hmem
  have hlock := List.all_eq_true.mp hunlocked _ he
  have hstands := hs.stands _ he
  cases progress with
  | begun | cleared | objecting | refused => simp [claimed?] at hclaimed
  | holding => simp [CallProgress.holdsLock] at hlock
  | accepted =>
    cases c with
    | next | puppet => simp [claimed?, ReportCall.terminal?] at hclaimed
    | complete | error => exact hstands

theorem advance [Element α] {subject : String} (hs : s.Accounted entries)
    (hc : s.calls[call]? = some (c, progress))
    (hstep : CallStep subject s.isUnlocked c progress s.probe point w v) :
    Accounted entries ⟨w, s.log.recordAny v, s.calls.set call (c, point)⟩ := by
  have hstands := hs.stands _ (List.mem_of_getElem? hc)
  have hopen (h : progress = .holding) : s.probe.isClosed = false :=
    hs.isClosed_of_holding (h ▸ hc)
  obtain ⟨haccepted, hrefused⟩ := hstep.accepted?_eq_none
  have hgain := Places.filterMap_set_perm hc haccepted (c, point)
  have hselect {β : Type} (g : ReportCall α π → Option β) :
      (((s.calls.set call (c, point)).filterMap accepted?).filterMap g).Perm
        (s.accepted.filterMap g ++ (accepted? (c, point)).toList.filterMap g) := by
    rw [← List.filterMap_append]
    exact hgain.filterMap g
  refine ⟨fun e he => ?_, ?_, ?_, ?_, ?_, ?_, ?_⟩
  · rcases List.mem_or_eq_of_mem_set he with he | rfl
    · exact hstep.stands_mono (hs.stands e he)
    · exact hstep.stands hstands hs.isClosed_of_isUnlocked
  · rw [hstep.elements_eq hstands]
    exact (hs.elements.append_right _).trans (hselect _).symm
  · rcases hstep.terminal_eq with ⟨hsame, hterminal⟩ | ⟨hnone, hterminal, hterminal'⟩
    · rw [hterminal, Places.filterMap_set_of_eq hc hsame]
      exact hs.terminal
    · have hfirst := hs.terminal
      rw [hterminal, Option.toList_none, List.nil_perm] at hfirst
      have hclaim := Places.filterMap_set_perm hc hnone (c, point)
      rw [hfirst, List.nil_append] at hclaim
      exact hterminal' ▸ hclaim.symm
  · have hmem := hgain.mem_iff (a := .complete)
    rw [List.mem_append, Option.mem_toList] at hmem
    rw [hstep.isCompleted_iff, hs.completed]
    exact hmem.symm
  · rw [hstep.error_eq hopen]
    exact (hs.failed.append_right _).trans (hselect _).symm
  · rw [hstep.puppet_eq hstands]
    exact (hs.puppet.append_right _).trans (hselect _).symm
  · obtain ⟨new, hentries, hperm⟩ := hs.log
    refine ⟨new ++ v.toList, by rw [Log.entries_recordAny, hentries, List.append_assoc], ?_⟩
    have hrefusals := Places.filterMap_set_perm hc hrefused (c, point)
    rw [hstep.refusal?_eq] at hrefusals
    exact (hperm.append_right _).trans hrefusals.symm

theorem begin (hs : s.Accounted entries) (c : ReportCall α π) :
    Accounted entries { s with calls := s.calls ++ [(c, .begun)] } := by
  have hselect {β : Type} {f : ReportCall α π × CallProgress → Option β}
      (hf : f (c, .begun) = none) :
      (s.calls ++ [(c, CallProgress.begun)]).filterMap f = s.calls.filterMap f := by
    simp [List.filterMap_append, hf]
  refine ⟨fun e he => ?_, ?_, ?_, ?_, ?_, ?_, ?_⟩
  · rcases List.mem_append.mp he with he | he
    · exact hs.stands e he
    · rw [List.mem_singleton.mp he]
      exact trivial
  · rw [accepted, hselect rfl]
    exact hs.elements
  · rw [hselect rfl]
    exact hs.terminal
  · rw [accepted, hselect rfl]
    exact hs.completed
  · rw [accepted, hselect rfl]
    exact hs.failed
  · rw [accepted, hselect rfl]
    exact hs.puppet
  · rw [refusals, hselect (f := refusal?) rfl]
    exact hs.log

/-- Every step keeps the account. -/
theorem step [Element α] {subject : String} {l : ProbeLabel α π} (hs : s.Accounted entries)
    (h : s.step subject l = some s') : s'.Accounted entries := by
  cases l with
  | begin c =>
    obtain rfl := Option.some.inj h
    exact hs.begin c
  | advance call =>
    obtain ⟨c, progress, point, w, v, hc, hstep, rfl⟩ := of_advance h
    exact hs.advance hc hstep

/-- The account is right after every run. -/
theorem of_trace [Element α] {capacity : Nat} {log : Log}
    {labels : List (String × ProbeLabel α π)}
    (hrun : (⟨.empty capacity, log, []⟩ : SharedProbe α π).trace labels = some s) :
    s.Accounted log.entries := by
  refine trace_induction (motive := fun q => q.Accounted log.entries) ?_
    (fun _ _ _ _ hq hstep => hq.step hstep) hrun
  exact ⟨nofun, .nil, .nil, iff_of_false nofun nofun, .nil, .nil, [], by simp, .nil⟩

/-- When a call has returned the place for what it reports is taken. -/
theorem taken_of_isOver (hs : s.Accounted entries) {e : ReportCall α π × CallProgress}
    (he : e ∈ s.calls) (hover : e.2.isOver = true) : e.1.Taken s.probe := by
  obtain ⟨c, progress⟩ := e
  have hstands := hs.stands _ he
  cases progress with
  | begun | cleared | holding | objecting => simp [CallProgress.isOver] at hover
  | accepted => exact hstands
  | refused => exact hstands.2

/-- When the report of a terminal signal has returned a terminal signal has taken effect. -/
theorem isClosed_of_isOver (hs : s.Accounted entries) {e : ReportCall α π × CallProgress}
    (he : e ∈ s.calls) (hterminal : e.1.terminal? ≠ none) (hover : e.2.isOver = true) :
    s.probe.isClosed = true := by
  have htaken := hs.taken_of_isOver he hover
  obtain ⟨c, progress⟩ := e
  cases c with
  | next | puppet => exact absurd rfl hterminal
  | complete | error => exact htaken

theorem terminal_of_mem (hs : s.Accounted entries) (hc : c ∈ s.accepted) {t : Terminal}
    (ht : c.terminal? = some t) : s.probe.blackbox.terminal = some t := by
  obtain ⟨e, he, haccepted⟩ := List.mem_filterMap.mp hc
  have hmem : t ∈ s.calls.filterMap claimed? :=
    List.mem_filterMap.mpr ⟨e, he, (claimed?_of_accepted? haccepted).trans ht⟩
  exact Option.mem_toList.mp (hs.terminal.mem_iff.mpr hmem)

theorem error_iff (hs : s.Accounted entries) (x : StreamError) :
    s.probe.blackbox.error.value = some x ↔ .error x ∈ s.accepted := by
  refine (Option.mem_toList.symm.trans (hs.failed.mem_iff.trans List.mem_filterMap)).trans ?_
  constructor
  · rintro ⟨d, hd, herror⟩
    cases d with
    | error => exact Option.some.inj herror ▸ hd
    | next | complete | puppet => simp [ReportCall.error?] at herror
  · exact fun hmem => ⟨_, hmem, rfl⟩

end Accounted

/-! ### Progress -/

/-- The number of steps that all calls together may still take. -/
def remaining (s : SharedProbe α π) : Nat := Places.sum (fun e => e.2.remaining) s.calls

section Progress

variable [Element α] {s s' : SharedProbe α π} {call : Nat} {c : ReportCall α π}
  {progress : CallProgress}

theorem isSome_advance (subject : String) (hc : s.calls[call]? = some (c, progress))
    (hstands : c.Stands s.probe progress) (hover : progress.isOver = false)
    (hfree : progress = .begun → s.isUnlocked = true) :
    (s.advance subject call).isSome = true := by
  cases progress with
  | begun =>
    cases c with
    | next | puppet => simp [advance, hc]
    | complete | error =>
      simp only [advance, hc, acquire, hfree rfl, if_true]
      split <;> rfl
  | cleared => cases c <;> simp_all [advance, ReportCall.Stands, ReportCall.element?]
  | holding | objecting => simp [advance, hc]
  | accepted | refused => simp [CallProgress.isOver] at hover

/-- As long as a call is in progress, one of them can go on: who holds the lock never waits. -/
theorem Accounted.exists_advance {entries : List Violation} (hs : s.Accounted entries)
    (subject : String) (h : ∃ e ∈ s.calls, e.2.isOver = false) :
    ∃ call, (s.advance subject call).isSome = true := by
  by_cases hunlocked : s.isUnlocked = true
  · obtain ⟨⟨c, progress⟩, he, hover⟩ := h
    obtain ⟨call, hc⟩ := List.mem_iff_getElem?.mp he
    exact ⟨call, isSome_advance subject hc (hs.stands _ he) hover fun _ => hunlocked⟩
  · obtain ⟨⟨c, progress⟩, he, hlock⟩ : ∃ e ∈ s.calls, e.2.holdsLock = true := by
      simpa [isUnlocked] using hunlocked
    obtain ⟨call, hc⟩ := List.mem_iff_getElem?.mp he
    refine ⟨call, isSome_advance subject hc (hs.stands _ he) ?_ ?_⟩
    · cases progress <;> simp_all [CallProgress.holdsLock, CallProgress.isOver]
    · rintro rfl
      simp [CallProgress.holdsLock] at hlock

theorem remaining_advance {subject : String} (h : s.advance subject call = some s') :
    s'.remaining < s.remaining ∧ s'.calls.map Prod.fst = s.calls.map Prod.fst := by
  obtain ⟨c, progress, point, w, v, hc, hstep, rfl⟩ := of_advance h
  have hsum := Places.sum_set hc (fun e => e.2.remaining) (c, point)
  have hlt := hstep.remaining_lt
  refine ⟨?_, ?_⟩
  · dsimp only [remaining] at hsum ⊢
    omega
  · obtain ⟨hlt, hget⟩ := List.getElem?_eq_some_iff.mp hc
    have hself : s.calls.set call (c, progress) = s.calls := hget ▸ List.set_getElem_self hlt
    conv_rhs => rw [← hself]
    rw [List.map_set, List.map_set]

/-- From every state the calls can go on until all have returned. -/
theorem Accounted.exists_over {entries : List Violation} (hs : s.Accounted entries)
    (subject : String) : ∃ more q, s.trace more = some q ∧ (∀ e ∈ q.calls, e.2.isOver = true) ∧
      q.calls.map Prod.fst = s.calls.map Prod.fst := by
  induction hn : s.remaining using Nat.strongRecOn generalizing s with
  | ind n ih =>
    by_cases hover : ∀ e ∈ s.calls, e.2.isOver = true
    · exact ⟨[], s, rfl, hover, rfl⟩
    · obtain ⟨call, hcall⟩ := hs.exists_advance subject (by simpa using hover)
      obtain ⟨r, hr⟩ := Option.isSome_iff_exists.mp hcall
      have hstep : s.step subject (.advance call) = some r := hr
      obtain ⟨hlt, hcalls⟩ := remaining_advance hr
      obtain ⟨more, q, hmore, hq, hcalls'⟩ := ih r.remaining (hn ▸ hlt) (hs.step hstep) rfl
      refine ⟨(subject, .advance call) :: more, q, ?_, hq, hcalls'.trans hcalls⟩
      exact Option.bind_eq_some_iff.mpr ⟨r, hstep, hmore⟩

end Progress

end SharedProbe

end StreamConformance
