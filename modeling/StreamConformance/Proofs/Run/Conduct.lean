import StreamConformance.Proofs.Manual.SignalRecord
import StreamConformance.Proofs.Run.Attestation

/-!
# The conduct of a subject

Besides reporting the signals that it receives a subject may request and cancel on the subscriptions
that it has been offered, register puppets, and panic. These are its deeds, and the history keeps
them in their order.

## Main definitions

* `Event.isDeed`, `Run.deeds` — what a subject has done besides reporting signals.
* `Run.resubscriptions` — what has been recorded against accepting more than one subscription.
* `Run.ActsBy` — what has become of a run by some calls of the subject.
* `Run.hear`, `Run.hearAll` — the subject receives signals.

## Main results

* `Run.deeds_perform`, `Run.puppet_perform`, `Run.resubscriptions_perform` — what one call does to
  the deeds, the puppet and the resubscriptions.
* `Run.actsBy_hear` — what a subject does in a signal is what its calls do.
-/

namespace StreamConformance

variable {α ι : Type}

/-- Whether the event is something that a subject has done besides reporting signals. -/
def Event.isDeed : Event α → Bool
  | .requested .. | .cancelled .. | .reported (.registerPuppet _) _ | .panicked => true
  | _ => false

/-- The puppet that the call registers, if it registers one. -/
def Call.puppet? : Call α → Option Nat
  | .registerPuppet puppet => some puppet
  | _ => none

/-- The deed that the call is, if it is one, of a subject that has been offered `offers` and has
registered `puppet`. -/
def Call.deed? (offers : List Target) (puppet : Option Nat) (lane : Lane) :
    Call α → Option (Event α)
  | .request offer n => offers[offer]?.map (.requested · lane n)
  | .cancel offer => offers[offer]?.map (.cancelled · lane)
  | .registerPuppet p => some (.reported (.registerPuppet p) puppet.isNone)
  | _ => none

/-- The deeds that calls are. -/
def Call.deeds (offers : List Target) : Option Nat → List (Lane × Call α) → List (Event α)
  | _, [] => []
  | puppet, c :: calls =>
    (c.2.deed? offers puppet c.1).toList ++ deeds offers (puppet.or c.2.puppet?) calls

/-- Whether the call tells the probe something. -/
def Call.isReport : Call α → Bool
  | .registerPuppet _ | .registerNext _ | .registerComplete | .registerError _ => true
  | .request .. | .cancel _ | .record _ => false

/-- The subscription that is offered, if one is. -/
def Incoming.offer? : Incoming α ι → Option ι
  | offer s => some s
  | next _ | error _ | complete => none

/-- The stimulus that the signal is to a subject to which a number of subscriptions have been
offered before. -/
def Incoming.stimulus (offers : Nat) : Incoming α ι → Stimulus α
  | offer _ => .onSubscribe offers
  | next a => .onNext a
  | error e => .onError e
  | complete => .onComplete

/-! ### Signals that the probe refuses -/

namespace BlackboxProbe

variable {p : BlackboxProbe α}

theorem filter_registerNext [Element α] (subject : String) (a : α) :
    (p.registerNext subject a).1.toList.filter (Violation.isOf .illegalResubscription) = [] := by
  unfold registerNext queueElement
  split
  · rfl
  · split
    next => rfl
    next e _ _ => cases e <;> rfl

theorem filter_registerComplete :
    p.registerComplete.1.toList.filter (Violation.isOf .illegalResubscription) = [] := by
  unfold registerComplete
  split
  next t _ => cases t <;> rfl
  next => rfl

theorem filter_registerError (e : StreamError) :
    (p.registerError e).1.toList.filter (Violation.isOf .illegalResubscription) = [] := by
  unfold registerError
  split
  next t _ => cases t <;> rfl
  next => rfl

end BlackboxProbe

namespace WhiteboxProbe

variable (subject : String) (puppet : Nat) (p : WhiteboxProbe α Nat)

theorem registerPuppet_fst : (p.registerPuppet subject puppet).1 =
    if p.puppet.value.isSome then some (secondPuppet subject) else none := by
  cases hvalue : p.puppet.value <;>
    simp [registerPuppet, Promise.complete, Promise.isCompleted, hvalue]

theorem value_registerPuppet : (p.registerPuppet subject puppet).2.puppet.value =
    p.puppet.value.or (some puppet) := by
  cases hvalue : p.puppet.value <;>
    simp [registerPuppet, Promise.complete, Promise.isCompleted, Promise.completed, hvalue]

end WhiteboxProbe

namespace Run

variable {σ η : Type}

/-- What the subject has done besides reporting signals. -/
def deeds (r : Run α σ η) : List (Event α) := r.history.filter Event.isDeed

/-- What has been recorded against accepting more than one subscription. -/
def resubscriptions (r : Run α σ η) : List Violation :=
  r.log.entries.filter (Violation.isOf .illegalResubscription)

theorem deeds_note (e : Event α) (r : Run α σ η) :
    (r.note e).deeds = r.deeds ++ if e.isDeed then [e] else [] := by
  rw [deeds, history_note, List.filter_append, List.filter_cons, List.filter_nil, deeds]

theorem deeds_record (x : Option Violation) (r : Run α σ η) : (r.record x).deeds = r.deeds := by
  cases x with
  | none => rfl
  | some x => exact (deeds_note _ _).trans (List.append_nil _)

@[simp] theorem subject_note (e : Event α) (r : Run α σ η) : (r.note e).subject = r.subject := rfl

@[simp] theorem subject_record (x : Option Violation) (r : Run α σ η) :
    (r.record x).subject = r.subject := by
  cases x <;> rfl

theorem resubscriptions_record (x : Option Violation) (r : Run α σ η) :
    (r.record x).resubscriptions =
      r.resubscriptions ++ x.toList.filter (Violation.isOf .illegalResubscription) := by
  rw [resubscriptions, log_record, List.filter_append, resubscriptions]

/-! ### Calls -/

section Calls

variable (v : Verification α σ η) (r : Run α σ η) (t : Target) (lane : Lane) (n : UInt64)

/-- A request is noted, and changes nothing besides but the publisher and the log. -/
theorem requestOn_eq : ∃ (p : ManualPublisher Nat) (x : Option Violation),
    r.requestOn v t lane n =
      (({ r with publisher := p } : Run α σ η).note (.requested t lane n)).record x := by
  cases t with
  | publisher => exact ⟨(r.publisher.request n).2, (r.publisher.request n).1, rfl⟩
  | second => exact ⟨r.publisher, some (secondRequest v.subject.name n), rfl⟩
  | sentinel s => exact ⟨r.publisher, s.request (r.marksOn lane), rfl⟩
  | recording k => exact ⟨r.publisher, none, rfl⟩

/-- A cancellation is noted, and changes nothing besides but the publisher, the second subscription
and the log. -/
theorem cancelOn_eq : ∃ (p : ManualPublisher Nat) (second : Latch) (x : Option Violation),
    r.cancelOn t lane =
      (({ r with publisher := p, second } : Run α σ η).note (.cancelled t lane)).record x := by
  cases t with
  | publisher => exact ⟨r.publisher.cancel, r.second, none, rfl⟩
  | second => exact ⟨r.publisher, r.second.close, none, rfl⟩
  | sentinel s => exact ⟨r.publisher, r.second, s.cancel (r.marksOn lane), rfl⟩
  | recording k => exact ⟨r.publisher, r.second, none, rfl⟩

theorem deeds_reportBy (c : Call α)
    (f : WhiteboxProbe α Nat → Option Violation × WhiteboxProbe α Nat) :
    (r.reportBy c f).deeds = r.deeds ++
      if (Event.reported c (f r.probe).1.isNone).isDeed then
        [.reported c (f r.probe).1.isNone] else [] :=
  (deeds_record _ _).trans (deeds_note _ _)

theorem resubscriptions_reportBy (c : Call α)
    (f : WhiteboxProbe α Nat → Option Violation × WhiteboxProbe α Nat) :
    (r.reportBy c f).resubscriptions = r.resubscriptions ++
      (f r.probe).1.toList.filter (Violation.isOf .illegalResubscription) :=
  resubscriptions_record _ _

variable [Element α] (c : Call α)

@[simp] theorem offers_perform : (r.perform v lane c).offers = r.offers := by
  obtain ⟨es, -, -, -, h⟩ := perform_extends v r lane c
  exact h.sameOffers

@[simp] theorem subject_perform : (r.perform v lane c).subject = r.subject := by
  cases c with
  | request offer n =>
    simp only [perform]
    split
    next t _ =>
      obtain ⟨p, x, h⟩ := requestOn_eq v r t lane n
      rw [h, subject_record, subject_note]
    next => rfl
  | cancel offer =>
    simp only [perform]
    split
    next t _ =>
      obtain ⟨p, second, x, h⟩ := cancelOn_eq r t lane
      rw [h, subject_record, subject_note]
    next => rfl
  | _ => exact subject_record _ _

@[simp] theorem subjectName_perform : (r.perform v lane c).subjectName v = r.subjectName v := by
  rw [subjectName, subjectName?, subscriber_perform]
  rfl

/-- The first puppet that is registered stays. -/
@[simp] theorem puppet_perform :
    (r.perform v lane c).probe.puppet.value = r.probe.puppet.value.or c.puppet? := by
  cases c with
  | request offer n =>
    simp only [perform, Call.puppet?, Option.or_none]
    split
    next t _ =>
      obtain ⟨p, x, h⟩ := requestOn_eq v r t lane n
      rw [h, probe_record, probe_note]
    next => rfl
  | cancel offer =>
    simp only [perform, Call.puppet?, Option.or_none]
    split
    next t _ =>
      obtain ⟨p, second, x, h⟩ := cancelOn_eq r t lane
      rw [h, probe_record, probe_note]
    next => rfl
  | registerPuppet puppet =>
    simp only [perform, reportBy, probe_record, probe_note]
    exact WhiteboxProbe.value_registerPuppet _ _ _
  | _ => simp [perform, reportBy, WhiteboxProbe.report, Call.puppet?]

/-- A call adds the deed that it is to the history. -/
theorem deeds_perform : (r.perform v lane c).deeds =
    r.deeds ++ (c.deed? r.offers r.probe.puppet.value lane).toList := by
  cases c with
  | request offer n =>
    simp only [perform, Call.deed?]
    split
    next t ht =>
      obtain ⟨p, x, h⟩ := requestOn_eq v r t lane n
      rw [ht, h, deeds_record]
      exact deeds_note _ _
    next ht => simp [ht]
  | cancel offer =>
    simp only [perform, Call.deed?]
    split
    next t ht =>
      obtain ⟨p, second, x, h⟩ := cancelOn_eq r t lane
      rw [ht, h, deeds_record]
      exact deeds_note _ _
    next ht => simp [ht]
  | registerPuppet puppet =>
    rw [perform, deeds_reportBy, WhiteboxProbe.registerPuppet_fst, Call.deed?]
    cases r.probe.puppet.value <;> rfl
  | record x => exact (deeds_record _ _).trans (List.append_nil _).symm
  | _ => exact deeds_reportBy ..

variable {c}

/-- Of the reports only that of a second puppet is recorded as a resubscription. -/
theorem resubscriptions_perform (hc : c.isReport = true) :
    (r.perform v lane c).resubscriptions = r.resubscriptions ++
      if c.puppet?.isSome && r.probe.puppet.value.isSome then
        [WhiteboxProbe.secondPuppet (r.subjectName v)] else [] := by
  cases c with
  | request | cancel | record => simp [Call.isReport] at hc
  | registerPuppet puppet =>
    rw [perform, resubscriptions_reportBy, WhiteboxProbe.registerPuppet_fst]
    cases r.probe.puppet.value <;> rfl
  | registerNext a =>
    rw [perform, resubscriptions_reportBy]
    exact congrArg _ (BlackboxProbe.filter_registerNext _ a)
  | registerComplete =>
    rw [perform, resubscriptions_reportBy]
    exact congrArg _ BlackboxProbe.filter_registerComplete
  | registerError e =>
    rw [perform, resubscriptions_reportBy]
    exact congrArg _ (BlackboxProbe.filter_registerError e)

end Calls

/-! ### Callbacks -/

section Callbacks

variable [Element α] {v : Verification α σ η} {r : Run α σ η}

/-- From `r` the run has become `r'` by these calls of the subject, which has been offered `targets`
and is then in the state `state`. -/
structure ActsBy (v : Verification α σ η) (targets : List Target) (calls : List (Lane × Call α))
    (state : σ) (r r' : Run α σ η) : Prop where
  subject : r'.subject = state
  offers : r'.offers = targets
  subjectName : r'.subjectName v = r.subjectName v
  /-- The first puppet stays. -/
  puppet : r'.probe.puppet.value =
    (r.probe.puppet.value.toList ++ calls.filterMap (·.2.puppet?)).head?
  deeds : r'.deeds = r.deeds ++ Call.deeds targets r.probe.puppet.value calls
  /-- Each other puppet is recorded once. -/
  resubscriptions : (∀ c ∈ calls, c.2.isReport = true) →
    r'.resubscriptions = r.resubscriptions ++ List.replicate
      ((r.probe.puppet.value.toList ++ calls.filterMap (·.2.puppet?)).length - 1)
      (WhiteboxProbe.secondPuppet (r.subjectName v))

theorem actsBy_foldl_perform (calls : List (Lane × Call α)) (r : Run α σ η) :
    r.ActsBy v r.offers calls r.subject (calls.foldl (fun r c => r.perform v c.1 c.2) r) := by
  induction calls generalizing r with
  | nil => constructor <;> cases hpuppet : r.probe.puppet.value <;> simp [Call.deeds, hpuppet]
  | cons c calls ih =>
    have hrest := ih (r.perform v c.1 c.2)
    constructor
    case subject => exact hrest.subject.trans (subject_perform v r c.1 c.2)
    case offers => exact hrest.offers.trans (offers_perform v r c.1 c.2)
    case subjectName => exact hrest.subjectName.trans (subjectName_perform v r c.1 c.2)
    case puppet =>
      rw [List.foldl_cons, hrest.puppet, puppet_perform]
      cases r.probe.puppet.value <;> cases hc : c.2.puppet? <;> simp [hc]
    case deeds =>
      rw [List.foldl_cons, hrest.deeds, deeds_perform, offers_perform, puppet_perform,
        List.append_assoc, Call.deeds]
    case resubscriptions =>
      intro hreports
      rw [List.forall_mem_cons] at hreports
      rw [List.foldl_cons, hrest.resubscriptions hreports.2,
        resubscriptions_perform v r c.1 hreports.1, puppet_perform, subjectName_perform,
        List.append_assoc]
      cases r.probe.puppet.value <;> cases hc : c.2.puppet? <;> simp [hc, List.replicate_succ]

theorem actsBy_deliver {s : Stimulus α} (h : (v.subject.react r.subject s).panic = none) :
    ∃ r', r.deliver v s = (.ok (), r') ∧ r.ActsBy v r.offers (v.subject.react r.subject s).calls
      (v.subject.react r.subject s).state r' := by
  let start (marks : Marks) : Run α σ η :=
    ({ r with marks, subject := (v.subject.react r.subject s).state } : Run α σ η).note
      (.stimulated s)
  have hstimulate (marks : Marks) : ({ r with marks } : Run α σ η).stimulate v s =
      (.ok (), (v.subject.react r.subject s).calls.foldl (fun r c => r.perform v c.1 c.2)
        (start marks)) := by
    simp only [stimulate, h, start]
  have hacts (marks : Marks) := actsBy_foldl_perform (v := v) (v.subject.react r.subject s).calls
    (start marks)
  -- To receive a stimulus is no deed.
  have hdeeds (marks : Marks) : (start marks).deeds = r.deeds :=
    (deeds_note _ _).trans (List.append_nil _)
  rw [deliver_eq]
  split
  · exact ⟨_, hstimulate r.marks, { hacts r.marks with
      deeds := by rw [(hacts r.marks).deeds, hdeeds]; rfl }⟩
  next signal _ =>
    rw [hstimulate (Marks.enter signal r.marks)]
    exact ⟨_, rfl, { hacts (Marks.enter signal r.marks) with
      deeds := (hacts _).deeds.trans (by rw [hdeeds]; rfl) }⟩

end Callbacks

/-! ### Signals -/

section Signals

variable [Element α] (v : Verification α σ η)

/-- The subject receives a signal. -/
def hear (s : Incoming α Target) (r : Run α σ η) : Except Panic Unit × Run α σ η :=
  match s with
  | .offer t => r.offer v t
  | .next a => r.deliver v (.onNext a)
  | .error e => r.deliver v (.onError e)
  | .complete => r.deliver v .onComplete

/-- The subject receives signals, one after the other. -/
def hearAll (signals : List (Incoming α Target)) (r : Run α σ η) : Run α σ η :=
  signals.foldl (fun r s => (r.hear v s).2) r

/-- What a subject does in a signal in which it does not panic. -/
theorem actsBy_hear {v : Verification α σ η} {r : Run α σ η} {s : Incoming α Target}
    (h : (v.subject.react r.subject (s.stimulus r.offers.length)).panic = none) :
    ∃ r', r.hear v s = (.ok (), r') ∧ r.ActsBy v (r.offers ++ s.offer?.toList)
      (v.subject.react r.subject (s.stimulus r.offers.length)).calls
      (v.subject.react r.subject (s.stimulus r.offers.length)).state r' := by
  cases s with
  | offer t =>
    obtain ⟨r', hdeliver, hacts⟩ := actsBy_deliver (r := { r with offers := r.offers ++ [t] }) h
    exact ⟨r', hdeliver, { hacts with }⟩
  | next a | error e | complete =>
    simp only [Incoming.offer?, Option.toList_none, List.append_nil]
    exact actsBy_deliver h

end Signals

end Run

end StreamConformance
