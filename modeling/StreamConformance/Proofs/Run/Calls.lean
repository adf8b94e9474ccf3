import StreamConformance.Proofs.Manual.Publisher
import StreamConformance.Proofs.Probe.Reports
import StreamConformance.Proofs.Run.Extension

/-!
# Calls of the subject

A callback of the subject is a sequence of calls. Each call adds its event and at most one violation
to the run, and queues what it carries behind all that has been queued before.

## Main definitions

* `Run.SubjectExtends` — the extensions of a run by calls of the subject.
* `Run.objection` — the violation that a call records, if any.

## Main results

* `Run.perform_extends` — what one call does.
* `Run.deliver_extends` — what the delivery of a stimulus does.
-/

namespace StreamConformance

namespace Run

variable {α σ η : Type}

/-- The run `r'` comes from `r` by events of which the subject is the only cause: besides what any
extension says, requests and elements are queued in the order of the calls, and everything else is
left alone. -/
structure SubjectExtends (r : Run α σ η) (es : List (Event α)) (r' : Run α σ η) : Prop
    extends r.Extends es r' where
  sameOffers : r'.offers = r.offers
  sameTees : r'.tees = r.tees
  isOpen : r'.publisher.requests.isCompleted = r.publisher.requests.isCompleted
  requests : r.publisher.requests.isCompleted = false → es.filterMap Event.recorded? = [] →
    r'.publisher.requests.elements =
      r.publisher.requests.elements ++ es.filterMap Event.demand?
  elements : r'.probe.blackbox.elements.elements =
    r.probe.blackbox.elements.elements ++ es.filterMap Event.accepted?
  completed : r'.probe.blackbox.elements.isCompleted =
    (r.probe.blackbox.elements.isCompleted || es.any Event.acceptsCompletion)

namespace SubjectExtends

variable {r r' r'' : Run α σ η} {es es' : List (Event α)}

protected theorem refl (r : Run α σ η) : r.SubjectExtends [] r where
  toExtends := .refl r
  sameOffers := rfl
  sameTees := rfl
  isOpen := rfl
  requests _ _ := by simp
  elements := by simp
  completed := by simp

protected theorem trans (h : r.SubjectExtends es r') (h' : r'.SubjectExtends es' r'') :
    r.SubjectExtends (es ++ es') r'' where
  toExtends := h.toExtends.trans h'.toExtends
  sameOffers := h'.sameOffers.trans h.sameOffers
  sameTees := h'.sameTees.trans h.sameTees
  isOpen := h'.isOpen.trans h.isOpen
  requests ho hes := by
    rw [List.filterMap_append, List.append_eq_nil_iff] at hes
    rw [h'.requests (h.isOpen.trans ho) hes.2, h.requests ho hes.1, List.filterMap_append,
      List.append_assoc]
  elements := by rw [h'.elements, h.elements, List.filterMap_append, List.append_assoc]
  completed := by rw [h'.completed, h.completed, List.any_append, Bool.or_assoc]

/-- A run that differs in nothing that calls can change comes from the other by no call. -/
theorem of_untouched {r r' : Run α σ η} (past : r'.past = r.past) (log : r'.log = r.log)
    (marks : r'.marks = r.marks) (offers : r'.offers = r.offers) (second : r'.second = r.second)
    (publisher : r'.publisher = r.publisher) (probe : r'.probe = r.probe)
    (tees : r'.tees = r.tees) : r.SubjectExtends [] r' where
  toExtends := .of_untouched past log marks offers second (by rw [probe]) (by rw [tees])
  sameOffers := offers
  sameTees := tees
  isOpen := by rw [publisher]
  requests _ _ := by simp [publisher]
  elements := by simp [probe]
  completed := by simp [probe]

/-- An event that is no call and offers the tees nothing that it keeps changes the history only. -/
theorem note (r : Run α σ η) {e : Event α} (call : e.isCall = false) (kept : e.kept? = none) :
    r.SubjectExtends [e] (r.note e) where
  toExtends := .note r call kept
  sameOffers := rfl
  sameTees := rfl
  isOpen := rfl
  requests _ _ := by simp [Event.demand?_of_isCall call]
  elements := by simp [Event.accepted?_of_isCall call]
  completed := by simp [Event.acceptsCompletion_of_isCall call]

theorem pass (r : Run α σ η) (d : Duration) : r.SubjectExtends [.awaited] (r.pass d) := by
  have htime : r.SubjectExtends [] { r with elapsed := r.elapsed.add d } :=
    .of_untouched rfl rfl rfl rfl rfl rfl rfl rfl
  exact htime.trans (.note _ rfl rfl)

theorem of_record (r : Run α σ η) (x : Option Violation) :
    r.SubjectExtends (x.toList.map Event.recorded) (r.record x) where
  toExtends := .record r x
  sameOffers := by simp
  sameTees := by simp
  isOpen := by simp
  requests _ _ := by simp [Event.filterMap_records (f := Event.demand?) fun _ => rfl]
  elements := by simp [Event.filterMap_records (f := Event.accepted?) fun _ => rfl]
  completed := by cases x <;> simp [Event.acceptsCompletion]

/-- The run after a call that has the event `e` and records `x`, when the publisher, the second
subscription and the probe are what `e` says. -/
theorem of_event (r : Run α σ η) {publisher : ManualPublisher Nat} {second : Latch}
    {probe : WhiteboxProbe α Nat} {e : Event α} {x : Option Violation}
    (recorded : e.recorded? = none) (kept : e.kept? = none)
    (target : ∀ t, e.target? = some t → t ∈ r.offers)
    (closed : second.isClosed = (r.second.isClosed || e.cancelsSecond))
    (puppet : probe.puppet.value.toList = r.probe.puppet.value.toList ++ e.puppet?.toList)
    (blameless : x = none → e.isBlameless = true)
    (isOpen : publisher.requests.isCompleted = r.publisher.requests.isCompleted)
    (requests : r.publisher.requests.isCompleted = false → x = none →
      publisher.requests.elements = r.publisher.requests.elements ++ e.demand?.toList)
    (elements : probe.blackbox.elements.elements =
      r.probe.blackbox.elements.elements ++ e.accepted?.toList)
    (completed : probe.blackbox.elements.isCompleted =
      (r.probe.blackbox.elements.isCompleted || e.acceptsCompletion)) :
    r.SubjectExtends (e :: x.toList.map Event.recorded)
      ((({ r with publisher, second, probe } : Run α σ η).note e).record x) where
  history := by
    rw [history_record, history_note, List.append_assoc]
    rfl
  log := by
    rw [Event.filterMap_cons_eq, recorded]
    cases x <;> simp [Event.recorded?]
  marks := by simp
  offers := by simp
  targets e' he' t ht := by
    rcases List.mem_cons.mp he' with rfl | he'
    · simpa using target t ht
    · obtain ⟨y, -, rfl⟩ := List.mem_map.mp he'
      simp [Event.target?] at ht
  second := by cases x <;> simp [closed, Event.cancelsSecond]
  puppet := by
    rw [Event.filterMap_cons_eq, Event.filterMap_records fun _ => rfl]
    simp [puppet]
  subscription := by
    rw [Event.filterMap_cons_eq, Event.filterMap_records fun _ => rfl]
    simp [kept]
  blameless hx e' he' := by
    cases x with
    | none => simp_all
    | some x => simp [Event.filterMap_cons_eq, Event.recorded?] at hx
  sameOffers := by simp
  sameTees := by simp
  isOpen := by simp [isOpen]
  requests ho hx := by
    rw [Event.filterMap_cons_eq, Event.filterMap_records fun _ => rfl]
    cases x with
    | none => simpa using requests ho rfl
    | some x => simp [Event.filterMap_cons_eq, Event.recorded?] at hx
  elements := by
    rw [Event.filterMap_cons_eq, Event.filterMap_records fun _ => rfl]
    simp [elements]
  completed := by cases x <;> simp [completed, Event.acceptsCompletion]

end SubjectExtends

/-! ### One call -/

theorem requestOn_extends (v : Verification α σ η) {t : Target} {r : Run α σ η}
    (ht : t ∈ r.offers) (lane : Lane) (n : UInt64) :
    ∃ x : Option Violation, r.SubjectExtends
      (.requested t lane n :: x.toList.map Event.recorded) (r.requestOn v t lane n) := by
  have target : ∀ t', (Event.requested t lane n : Event α).target? = some t' → t' ∈ r.offers := by
    intro t' h
    rwa [← Option.some.inj h]
  cases t with
  | publisher =>
    refine ⟨(r.publisher.request n).1, .of_event r rfl rfl target (by simp [Event.cancelsSecond])
      (by simp [Event.puppet?]) ?_ (ManualPublisher.isCompleted_request n r.publisher) ?_
      (by simp [Event.accepted?]) (by simp [Event.acceptsCompletion])⟩
    · intro hx
      simpa [Event.isBlameless] using ManualPublisher.ne_zero_of_request hx
    · exact fun ho hx => ManualPublisher.elements_request ho hx
  | second =>
    exact ⟨some (secondRequest v.subject.name n), .of_event r rfl rfl target
      (by simp [Event.cancelsSecond]) (by simp [Event.puppet?]) (by simp) rfl (by simp)
      (by simp [Event.accepted?]) (by simp [Event.acceptsCompletion])⟩
  | sentinel s =>
    exact ⟨s.request (r.marksOn lane), .of_event r rfl rfl target
      (by simp [Event.cancelsSecond]) (by simp [Event.puppet?]) (fun _ => rfl) rfl
      (by simp [Event.demand?]) (by simp [Event.accepted?]) (by simp [Event.acceptsCompletion])⟩
  | recording k =>
    exact ⟨none, .of_event r rfl rfl target (by simp [Event.cancelsSecond])
      (by simp [Event.puppet?]) (fun _ => rfl) rfl (by simp [Event.demand?])
      (by simp [Event.accepted?]) (by simp [Event.acceptsCompletion])⟩

theorem cancelOn_extends {t : Target} {r : Run α σ η} (ht : t ∈ r.offers) (lane : Lane) :
    ∃ x : Option Violation, r.SubjectExtends
      (.cancelled t lane :: x.toList.map Event.recorded) (r.cancelOn t lane) := by
  have target : ∀ t', (Event.cancelled t lane : Event α).target? = some t' → t' ∈ r.offers := by
    intro t' h
    rwa [← Option.some.inj h]
  have extends_of (publisher : ManualPublisher Nat) (second : Latch) (x : Option Violation)
      (hp : publisher.requests = r.publisher.requests)
      (hs : second.isClosed =
        (r.second.isClosed || (Event.cancelled t lane : Event α).cancelsSecond)) :
      r.SubjectExtends (.cancelled t lane :: x.toList.map Event.recorded)
        ((({ r with publisher, second } : Run α σ η).note (.cancelled t lane)).record x) :=
    .of_event r rfl rfl target hs (by simp [Event.puppet?]) (fun _ => rfl) (by rw [hp])
      (by simp [hp, Event.demand?]) (by simp [Event.accepted?]) (by simp [Event.acceptsCompletion])
  cases t with
  | publisher =>
    exact ⟨none, extends_of r.publisher.cancel r.second none rfl (by simp [Event.cancelsSecond])⟩
  | second =>
    exact ⟨none, extends_of r.publisher r.second.close none rfl
      (by simp [Event.cancelsSecond, Latch.close])⟩
  | sentinel s =>
    exact ⟨s.cancel (r.marksOn lane), extends_of r.publisher r.second _ rfl
      (by simp [Event.cancelsSecond])⟩
  | recording k =>
    exact ⟨none, extends_of r.publisher r.second none rfl (by simp [Event.cancelsSecond])⟩

theorem reportBy_extends {c : Call α}
    {f : WhiteboxProbe α Nat → Option Violation × WhiteboxProbe α Nat} {r : Run α σ η}
    (puppet : (f r.probe).2.puppet.value.toList = r.probe.puppet.value.toList ++
      (Event.reported c (f r.probe).1.isNone).puppet?.toList)
    (elements : (f r.probe).2.blackbox.elements.elements = r.probe.blackbox.elements.elements ++
      (Event.reported c (f r.probe).1.isNone).accepted?.toList)
    (completed : (f r.probe).2.blackbox.elements.isCompleted =
      (r.probe.blackbox.elements.isCompleted ||
        (Event.reported c (f r.probe).1.isNone).acceptsCompletion)) :
    r.SubjectExtends
      (.reported c (f r.probe).1.isNone :: (f r.probe).1.toList.map Event.recorded)
      (r.reportBy c f) := by
  refine .of_event r rfl rfl nofun (by simp [Event.cancelsSecond]) puppet ?_ rfl
    (by simp [Event.demand?]) elements completed
  intro hx
  simp [Event.isBlameless, hx]

/-- What one call does: it adds events of calls, with at most one record among them. -/
theorem perform_extends [Element α] (v : Verification α σ η) (r : Run α σ η) (lane : Lane)
    (c : Call α) : ∃ (es : List (Event α)) (x : Option Violation),
      es.filterMap Event.recorded? = x.toList ∧ (∀ e ∈ es, e.isCall = true) ∧
        r.SubjectExtends es (r.perform v lane c) := by
  have of_one {e : Event α} {x : Option Violation} {r' : Run α σ η} (he : e.recorded? = none)
      (hc : e.isCall = true) (h : r.SubjectExtends (e :: x.toList.map Event.recorded) r') :
      ∃ (es : List (Event α)) (x : Option Violation), es.filterMap Event.recorded? = x.toList ∧
        (∀ e ∈ es, e.isCall = true) ∧ r.SubjectExtends es r' := by
    refine ⟨_, x, ?_, ?_, h⟩
    · rw [Event.filterMap_cons_eq, he]
      cases x <;> rfl
    · intro e' he'
      rcases List.mem_cons.mp he' with rfl | he'
      · exact hc
      · obtain ⟨y, -, rfl⟩ := List.mem_map.mp he'
        rfl
  have idle : ∃ (es : List (Event α)) (x : Option Violation),
      es.filterMap Event.recorded? = x.toList ∧ (∀ e ∈ es, e.isCall = true) ∧
        r.SubjectExtends es r := ⟨[], none, rfl, nofun, .refl r⟩
  cases c with
  | request offer n =>
    simp only [perform]
    split
    next t ht =>
      obtain ⟨x, h⟩ := requestOn_extends v (List.mem_of_getElem? ht) lane n
      exact of_one rfl rfl h
    next => exact idle
  | cancel offer =>
    simp only [perform]
    split
    next t ht =>
      obtain ⟨x, h⟩ := cancelOn_extends (List.mem_of_getElem? ht) lane
      exact of_one rfl rfl h
    next => exact idle
  | registerPuppet k =>
    refine of_one rfl rfl (reportBy_extends ?_ ?_ ?_)
    · rw [WhiteboxProbe.puppet_registerPuppet]
      congr 1
      cases (r.probe.registerPuppet (r.subjectName v) k).1 <;> rfl
    · simp [WhiteboxProbe.blackbox_registerPuppet, Event.accepted?]
    · simp [WhiteboxProbe.blackbox_registerPuppet, Event.acceptsCompletion]
  | registerNext a =>
    refine of_one rfl rfl (reportBy_extends ?_ ?_ ?_)
    · simp [WhiteboxProbe.report, Event.puppet?]
    · simp only [WhiteboxProbe.report]
      rw [BlackboxProbe.elements_registerNext]
      congr 1
      cases (r.probe.blackbox.registerNext (r.subjectName v) a).1 <;> rfl
    · simp [WhiteboxProbe.report, BlackboxProbe.isCompleted_registerNext,
        Event.acceptsCompletion]
  | registerComplete =>
    refine of_one rfl rfl (reportBy_extends ?_ ?_ ?_)
    · simp [WhiteboxProbe.report, Event.puppet?]
    · simp [WhiteboxProbe.report, BlackboxProbe.elements_registerComplete, Event.accepted?]
    · simp only [WhiteboxProbe.report]
      rw [BlackboxProbe.isCompleted_registerComplete]
      congr 1
      cases r.probe.blackbox.registerComplete.1 <;> rfl
  | registerError e =>
    refine of_one rfl rfl (reportBy_extends ?_ ?_ ?_) <;>
      simp [WhiteboxProbe.report, BlackboxProbe.elements_registerError, Event.puppet?,
        Event.accepted?, Event.acceptsCompletion]
  | record x =>
    exact ⟨[.recorded x], some x, rfl, by simp [Event.isCall], .of_record r (some x)⟩

/-! ### Callbacks -/

theorem foldl_perform_extends [Element α] (v : Verification α σ η) (calls : List (Lane × Call α))
    (r : Run α σ η) : ∃ es : List (Event α), (∀ e ∈ es, e.isCall = true) ∧
      r.SubjectExtends es (calls.foldl (fun r c => r.perform v c.1 c.2) r) := by
  induction calls generalizing r with
  | nil => exact ⟨[], nofun, .refl r⟩
  | cons c calls ih =>
    obtain ⟨es, -, -, hes, h⟩ := perform_extends v r c.1 c.2
    obtain ⟨es', hes', h'⟩ := ih (r.perform v c.1 c.2)
    refine ⟨es ++ es', fun e he => ?_, h.trans h'⟩
    rcases List.mem_append.mp he with he | he
    · exact hes e he
    · exact hes' e he

/-- The event of a callback that ends in a certain way: a panic is one, a return is none. -/
def panicEvents : Except Panic Unit → List (Event α)
  | .ok () => []
  | .error _ => [.panicked]

theorem eq_panicked_of_mem {e : Event α} {d : Except Panic Unit} (h : e ∈ panicEvents d) :
    e = .panicked := by
  cases d with
  | ok => simp [panicEvents] at h
  | error => simpa [panicEvents] using h

/-- A projection of the history that looks neither at calls of the subject nor at its panics does
not see what a callback does. -/
theorem filterMap_calls {β : Type} {f : Event α → Option β}
    (hcall : ∀ e, e.isCall = true → f e = none) (hpanic : f .panicked = none)
    {es : List (Event α)} (hes : ∀ e ∈ es, e.isCall = true) (d : Except Panic Unit) :
    (es ++ panicEvents d).filterMap f = [] := by
  refine List.filterMap_eq_nil_iff.mpr fun e he => ?_
  rcases List.mem_append.mp he with he | he
  · exact hcall e (hes e he)
  · rw [eq_panicked_of_mem he, hpanic]

/-- What a stimulus brings about: its event, events of calls, and perhaps a panic. -/
theorem stimulate_extends [Element α] (v : Verification α σ η) (s : Stimulus α)
    (r : Run α σ η) : ∃ es : List (Event α), (∀ e ∈ es, e.isCall = true) ∧
      r.SubjectExtends (.stimulated s :: es ++ panicEvents (r.stimulate v s).1)
        (r.stimulate v s).2 := by
  let r₀ : Run α σ η := { r with subject := (v.subject.react r.subject s).state }
  have hset : r.SubjectExtends [] r₀ := .of_untouched rfl rfl rfl rfl rfl rfl rfl rfl
  have hnote : r₀.SubjectExtends [.stimulated s] (r₀.note (.stimulated s)) := .note r₀ rfl rfl
  have hstart : r.SubjectExtends [.stimulated s] (r₀.note (.stimulated s)) := hset.trans hnote
  obtain ⟨es, hcalls, hes⟩ :=
    foldl_perform_extends v (v.subject.react r.subject s).calls (r₀.note (.stimulated s))
  refine ⟨es, hcalls, ?_⟩
  simp only [stimulate]
  cases (v.subject.react r.subject s).panic with
  | none => simpa [panicEvents] using hstart.trans hes
  | some p => exact (hstart.trans hes).trans (.note _ rfl rfl)

/-- The marks of a delivery are gone when it ends. -/
theorem deliver_extends [Element α] (v : Verification α σ η) (s : Stimulus α) (r : Run α σ η) :
    ∃ es : List (Event α), (∀ e ∈ es, e.isCall = true) ∧
      r.SubjectExtends (.stimulated s :: es ++ panicEvents (r.deliver v s).1)
        (r.deliver v s).2 := by
  cases hs : signalOf s with
  | none => simpa only [deliver_eq, hs] using stimulate_extends v s r
  | some signal =>
    simp only [deliver_eq, hs]
    obtain ⟨es, hcalls, h⟩ :=
      stimulate_extends v s ({ r with marks := Marks.enter signal r.marks } : Run α σ η)
    refine ⟨es, hcalls, ?_⟩
    exact {
      h with
      marks := by simp [h.marks] }

/-- A projection of the history that looks neither at calls of the subject nor at its panics sees
of a delivery the stimulus only. -/
theorem filterMap_deliver [Element α] {β : Type} {f : Event α → Option β}
    (hcall : ∀ e, e.isCall = true → f e = none) (hpanic : f .panicked = none)
    (v : Verification α σ η) (s : Stimulus α) (r : Run α σ η) :
    (r.deliver v s).2.history.filterMap f =
      r.history.filterMap f ++ (f (.stimulated s)).toList := by
  obtain ⟨es, hcalls, hes⟩ := deliver_extends v s r
  rw [hes.history, List.filterMap_append, List.cons_append, Event.filterMap_cons_eq,
    filterMap_calls hcall hpanic hcalls, List.append_nil]

/-- An offer is the delivery of its number on a run with one more subscription. -/
theorem offer_extends [Element α] (v : Verification α σ η) (t : Target) (r : Run α σ η) :
    ∃ es : List (Event α), (∀ e ∈ es, e.isCall = true) ∧
      ({ r with offers := r.offers ++ [t] } : Run α σ η).SubjectExtends
        (.stimulated (.onSubscribe r.offers.length) :: es ++ panicEvents (r.offer v t).1)
        (r.offer v t).2 :=
  deliver_extends v _ _

/-- A delivery leaves the event of a panic if and only if it ends by one, or one was left before. -/
theorem panicked_mem_deliver [Element α] (v : Verification α σ η) (s : Stimulus α)
    (r : Run α σ η) : .panicked ∈ (r.deliver v s).2.history ↔
      .panicked ∈ r.history ∨ ∃ p, (r.deliver v s).1 = .error p := by
  obtain ⟨es, hcalls, h⟩ := deliver_extends v s r
  have hes : .panicked ∉ es := fun hp => by simpa [Event.isCall] using hcalls _ hp
  rw [h.history]
  rcases (r.deliver v s).1 with p | ⟨⟩ <;> simp [panicEvents, hes]

end Run

end StreamConformance
