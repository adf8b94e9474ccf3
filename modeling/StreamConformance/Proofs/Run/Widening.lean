import StreamConformance.Proofs.Cell.Widening
import StreamConformance.Proofs.Run.Calls
import StreamConformance.Proofs.Run.Relay

/-!
# Wider runs

A run is widened by widening its queues. Whatever leaves nothing in the log has met no full queue,
so it happens to the wider run just as it happens to the run itself.

## Main definitions

* `Run.widen` — the run with wider queues.
* `Verification.withLimits` — the verification within other limits.

## Main results

* `Run.deliver_widen`, `Run.relay_widen` — deliveries to the subject, and calls of the helper.
* `Run.start_withLimits` — a fresh run within wider limits is a wider run.
-/

namespace StreamConformance

variable {α σ η ρ : Type} (d : Nat)

/-! ### The parts of a run -/

namespace ManualPublisher

/-- The publisher with room for `d` more requests. -/
def widen {ι : Type} (p : ManualPublisher ι) : ManualPublisher ι :=
  { p with requests := p.requests.widen d }

variable {d} {p : ManualPublisher Nat}

/-- A request to which nobody objects is received in the same way by the wider publisher. -/
theorem request_widen {n : UInt64} (h : (p.request n).1 = none) :
    (p.widen d).request n = (p.request n).map id (widen d) := by
  have hn : n ≠ 0 := ne_zero_of_request h
  have hadd : ∀ c, (p.requests.add n).1 ≠ .error (.overflow c) := by
    intro c hc
    rcases hq : p.requests.add n with ⟨e | ⟨⟩, q⟩ <;> simp_all [request]
  have hwide : (p.widen d).requests.add n = (p.requests.add n).map id (Queue.widen d) :=
    Queue.add_widen d n hadd
  simp only [request, if_neg hn, hwide]
  rcases p.requests.add n with ⟨(_ | c) | ⟨⟩, q⟩ <;> rfl

theorem onRequests_commutes {e : Expectation (Queue UInt64) ρ} (he : e.Commutes (Queue.widen d)) :
    (onRequests e : Expectation (ManualPublisher Nat) ρ).Commutes (widen d) :=
  he.onPart (fun _ => rfl) fun _ _ => rfl

theorem expectNoRequest_commutes (timeout : Duration) :
    (expectNoRequest timeout : Expectation (ManualPublisher Nat) Unit).Commutes (widen d) :=
  onRequests_commutes (Queue.silence_commutes timeout _ d)

theorem expectCancelling_commutes (timeout : Duration) :
    (expectCancelling timeout : Expectation (ManualPublisher Nat) Unit).Commutes (widen d) :=
  (Expectation.Commutes.id _).onPart (fun _ => rfl) fun _ _ => rfl

theorem expectRequest_commutes (timeout : Duration) :
    (expectRequest timeout : Expectation (ManualPublisher Nat) UInt64).Commutes (widen d) := by
  have he := onRequests_commutes (d := d)
    (Queue.next_commutes timeout "Did not receive expected `request` call" d)
  refine ⟨he.ready, fun found p => ?_⟩
  simp only [expectRequest, he.finish]
  rcases (onRequests (Queue.next timeout "Did not receive expected `request` call")).finish
    found p with ⟨_ | n, p'⟩ <;> rfl

theorem takeDemand_widen (timeout : Duration) (expected : UInt64) (rounds : Nat) (total : UInt64)
    (p : ManualPublisher Nat) : takeDemand timeout expected rounds total (p.widen d) =
      (takeDemand timeout expected rounds total p).map id (widen d) := by
  have hnow (total : UInt64) (p : ManualPublisher Nat) :=
    (onRequests_commutes (d := d)
      (Queue.next_commutes timeout (missingDemand expected total) d)).now p
  induction rounds generalizing total p with
  | zero =>
    rw [takeDemand, takeDemand, hnow]
    split
    · rfl
    · rcases (onRequests (Queue.next timeout (missingDemand expected total))).now p
        with ⟨_ | n, p'⟩ <;> rfl
  | succ rounds ih =>
    rw [takeDemand, takeDemand, hnow]
    split
    · rfl
    · rcases (onRequests (Queue.next timeout (missingDemand expected total))).now p
        with ⟨_ | n, p'⟩
      · rfl
      · exact ih _ _

theorem expectDemand_widen (timeout : Duration) (expected : UInt64) (p : ManualPublisher Nat) :
    (p.widen d).expectDemand timeout expected =
      (p.expectDemand timeout expected).map id (widen d) := by
  have hrounds : (p.widen d).requests.entries.length = p.requests.entries.length := rfl
  rw [expectDemand, expectDemand, hrounds, takeDemand_widen]
  rcases takeDemand timeout expected p.requests.entries.length 0 p with ⟨_ | total, p'⟩
  · rfl
  · simp only [Prod.map, id]
    split <;> rfl

end ManualPublisher

namespace BlackboxProbe

/-- The record with room for `d` more elements. -/
def widen (p : BlackboxProbe α) : BlackboxProbe α := { p with elements := p.elements.widen d }

variable {d}

theorem onElements_commutes {e : Expectation (Queue α) ρ} (he : e.Commutes (Queue.widen d)) :
    (onElements e).Commutes (widen d) :=
  he.onPart (fun _ => rfl) fun _ _ => rfl

theorem expectElement_commutes [Element α] (subject : String) (expected : α)
    (timeout : Duration) : (expectElement subject expected timeout).Commutes (widen d) :=
  (onElements_commutes (Queue.next_commutes timeout _ d)).judge fun _ _ => rfl

theorem expectCompletion_commutes [Element α] (subject : String) (timeout : Duration) :
    (expectCompletion subject timeout : Expectation (BlackboxProbe α) Unit).Commutes
      (widen d) := by
  unfold expectCompletion expectCompletionWithin
  exact (onElements_commutes (Queue.completion_commutes timeout _ d)).judge fun _ _ => rfl

theorem expectError_commutes (subject : String) (expected : StreamError) (timeout : Duration) :
    (expectError subject expected timeout : Expectation (BlackboxProbe α) Unit).Commutes
      (widen d) := by
  have hcell {ρ : Type} (e : Expectation (Promise StreamError) ρ) :
      (onErrorCell e : Expectation (BlackboxProbe α) ρ).Commutes (widen d) :=
    (Expectation.Commutes.id e).onPart (fun _ => rfl) fun _ _ => rfl
  exact ((hcell _).judge fun _ _ => rfl).judge fun _ _ => rfl

theorem expectNone_commutes [Element α] (within : Duration) :
    (expectNone within : Expectation (BlackboxProbe α) Unit).Commutes (widen d) :=
  onElements_commutes (Queue.silence_commutes within _ d)

end BlackboxProbe

namespace WhiteboxProbe

/-- The probe with room for `d` more elements. -/
def widen (p : WhiteboxProbe α Nat) : WhiteboxProbe α Nat :=
  { p with blackbox := p.blackbox.widen d }

variable {d} {p : WhiteboxProbe α Nat}

theorem onBlackbox_commutes {e : Expectation (BlackboxProbe α) ρ}
    (he : e.Commutes (BlackboxProbe.widen d)) :
    (onBlackbox e : Expectation (WhiteboxProbe α Nat) ρ).Commutes (widen d) :=
  he.onPart (fun _ => rfl) fun _ _ => rfl

theorem expectRegistration_commutes (subject : String) (timeout : Duration) :
    (expectRegistration subject timeout : Expectation (WhiteboxProbe α Nat) Nat).Commutes
      (widen d) :=
  (Expectation.Commutes.id _).onPart (fun _ => rfl) fun _ _ => rfl

theorem registerPuppet_widen (subject : String) (puppet : Nat) (p : WhiteboxProbe α Nat) :
    (p.widen d).registerPuppet subject puppet =
      (p.registerPuppet subject puppet).map id (widen d) := by
  rcases p with ⟨b, ⟨_ | k⟩⟩ <;> rfl

/-- An element to whose report nobody objects is received in the same way by the wider probe. -/
theorem registerNext_widen [Element α] {subject : String} {a : α}
    (h : (p.report (BlackboxProbe.registerNext subject a)).1 = none) :
    (p.widen d).report (BlackboxProbe.registerNext subject a) =
      (p.report (BlackboxProbe.registerNext subject a)).map id (widen d) := by
  have hadd : ∀ c, (p.blackbox.elements.add a).1 ≠ .error (.overflow c) := by
    intro c hc
    rcases hq : p.blackbox.elements.add a with ⟨e | ⟨⟩, q⟩ <;>
      by_cases herror : p.blackbox.error.isCompleted = true <;>
        simp_all [report, BlackboxProbe.registerNext, BlackboxProbe.queueElement]
  have hwide : (p.widen d).blackbox.elements.add a =
      (p.blackbox.elements.add a).map id (Queue.widen d) := Queue.add_widen d a hadd
  have herror : (p.widen d).blackbox.error = p.blackbox.error := rfl
  simp only [report, BlackboxProbe.registerNext, herror, BlackboxProbe.queueElement, hwide]
  split
  · rfl
  · rcases p.blackbox.elements.add a with ⟨_ | ⟨⟩, q⟩ <;> rfl

theorem registerComplete_widen (p : WhiteboxProbe α Nat) :
    (p.widen d).report BlackboxProbe.registerComplete =
      (p.report BlackboxProbe.registerComplete).map id (widen d) := by
  have hterminal : (p.widen d).blackbox.terminal = p.blackbox.terminal := rfl
  have hwide : (p.widen d).blackbox.elements.complete =
      p.blackbox.elements.complete.map id (Queue.widen d) := Queue.complete_widen d _
  simp only [report, BlackboxProbe.registerComplete, hterminal, hwide]
  split <;> rfl

theorem registerError_widen (e : StreamError) (p : WhiteboxProbe α Nat) :
    (p.widen d).report (BlackboxProbe.registerError e) =
      (p.report (BlackboxProbe.registerError e)).map id (widen d) := by
  have hterminal : (p.widen d).blackbox.terminal = p.blackbox.terminal := rfl
  simp only [report, BlackboxProbe.registerError, hterminal]
  split <;> rfl

end WhiteboxProbe

namespace ManualSubscriber

/-- The tees with room for `d` more elements. -/
def widen (m : ManualSubscriber α Nat) : ManualSubscriber α Nat :=
  { m with received := m.received.widen d }

variable {d} {m : ManualSubscriber α Nat}

theorem onSubscribe_widen (k : Nat) (m : ManualSubscriber α Nat) :
    (m.widen d).onSubscribe k = (m.onSubscribe k).map id (widen d) := by
  rcases m with ⟨⟨_ | k'⟩, q, e⟩ <;> rfl

/-- An element to which nobody objects is received in the same way by the wider tees. -/
theorem onNext_widen {a : α} (h : (m.onNext a).1 = none) :
    (m.widen d).onNext a = (m.onNext a).map id (widen d) := by
  have hadd : ∀ c, (m.received.add a).1 ≠ .error (.overflow c) := by
    intro c hc
    rcases hq : m.received.add a with ⟨e | ⟨⟩, q⟩ <;> simp_all [onNext]
  have hwide : (m.widen d).received.add a = (m.received.add a).map id (Queue.widen d) :=
    Queue.add_widen d a hadd
  simp only [onNext, hwide]
  rcases m.received.add a with ⟨_ | ⟨⟩, q⟩ <;> rfl

theorem onError_widen (e : StreamError) (m : ManualSubscriber α Nat) :
    (m.widen d).onError e = (m.onError e).map id (widen d) := by
  rcases m with ⟨s, q, ⟨_ | e'⟩⟩ <;> rfl

theorem onComplete_widen (m : ManualSubscriber α Nat) :
    (m.widen d).onComplete = m.onComplete.map id (widen d) := by
  have hwide : (m.widen d).received.complete = m.received.complete.map id (Queue.widen d) :=
    Queue.complete_widen d _
  simp only [onComplete, hwide]
  rcases m.received.complete with ⟨_ | ⟨⟩, q⟩ <;> rfl

theorem onReceived_commutes {e : Expectation (Queue α) ρ} (he : e.Commutes (Queue.widen d)) :
    (onReceived e : Expectation (ManualSubscriber α Nat) ρ).Commutes (widen d) :=
  he.onPart (fun _ => rfl) fun _ _ => rfl

theorem expectSubscription_commutes (timeout : Duration) :
    (expectSubscription timeout : Expectation (ManualSubscriber α Nat) Nat).Commutes (widen d) :=
  (Expectation.Commutes.id _).onPart (fun _ => rfl) fun _ _ => rfl

theorem expectError_commutes (kind : Cause.Kind) (part : String) (timeout : Duration) :
    (expectError kind part timeout : Expectation (ManualSubscriber α Nat) StreamError).Commutes
      (widen d) := by
  have hcell {ρ : Type} (e : Expectation (Promise StreamError) ρ) :
      (e.onPart error fun m c => { m with error := c } :
        Expectation (ManualSubscriber α Nat) ρ).Commutes (widen d) :=
    (Expectation.Commutes.id e).onPart (fun _ => rfl) fun _ _ => rfl
  exact (hcell _).judge fun _ _ => rfl

end ManualSubscriber

/-- The verification within other limits. -/
def Verification.withLimits (v : Verification α σ η) (capacity : Nat) (maxSignals : UInt64) :
    Verification α σ η :=
  { v with config := v.config.withCapacity capacity, maxSignals := maxSignals }

namespace Run

/-- The run with room for `d` more entries in each of its queues. -/
def widen (r : Run α σ η) : Run α σ η :=
  { r with
    publisher := r.publisher.widen d
    probe := r.probe.widen d
    tees := r.tees.widen d }

/-- A fresh run within wider limits is a wider run. -/
theorem start_withLimits (v : Verification α σ η) (maxSignals : UInt64) (marks : Marks) :
    start (v.withLimits (v.config.capacity + d) maxSignals) marks = (start v marks).widen d := rfl

variable {d} {v : Verification α σ η}

theorem record_widen (x : Option Violation) (r : Run α σ η) :
    (r.widen d).record x = (r.record x).widen d := by
  cases x <;> rfl

/-! ### Calls of the subject -/

theorem eq_none_of_record {x : Option Violation} {r : Run α σ η}
    (h : (r.record x).log.entries = []) : x = none := by
  cases x <;> simp_all

theorem requestOn_widen {t : Target} {lane : Lane} {n : UInt64} {r : Run α σ η}
    (h : (r.requestOn v t lane n).log.entries = []) :
    (r.widen d).requestOn v t lane n = (r.requestOn v t lane n).widen d := by
  cases t with
  | publisher =>
    have hrequest : (r.publisher.request n).1 = none := eq_none_of_record h
    have hwide : (r.publisher.widen d).request n =
        (r.publisher.request n).map id (.widen d) := ManualPublisher.request_widen hrequest
    rw [requestOn, requestOn, ← record_widen]
    exact congrArg (fun p : Option Violation × ManualPublisher Nat =>
      record p.1 { (r.widen d).note (.requested .publisher lane n) with publisher := p.2 }) hwide
  | sentinel s =>
    exact record_widen (s.request (r.marksOn lane)) (r.note (.requested (.sentinel s) lane n))
  | second | recording => rfl

theorem cancelOn_widen (t : Target) (lane : Lane) (r : Run α σ η) :
    (r.widen d).cancelOn t lane = (r.cancelOn t lane).widen d := by
  cases t with
  | sentinel s =>
    exact record_widen (s.cancel (r.marksOn lane)) (r.note (.cancelled (.sentinel s) lane))
  | publisher | second | recording => rfl

/-- A report that the wider probe receives in the same way happens in the same way. -/
theorem reportBy_widen {c : Call α}
    {f : WhiteboxProbe α Nat → Option Violation × WhiteboxProbe α Nat} {r : Run α σ η}
    (hf : (f r.probe).1 = none → f (r.probe.widen d) = (f r.probe).map id (.widen d))
    (h : (r.reportBy c f).log.entries = []) :
    (r.widen d).reportBy c f = (r.reportBy c f).widen d := by
  have hwide := hf (eq_none_of_record h)
  rw [reportBy, reportBy, ← record_widen]
  exact congrArg (fun p : Option Violation × WhiteboxProbe α Nat =>
    record p.1 (({ r.widen d with probe := p.2 } : Run α σ η).note (.reported c p.1.isNone))) hwide

variable [Element α]

/-- A call that leaves nothing in the log does the same to the wider run. -/
theorem perform_widen {lane : Lane} {c : Call α} {r : Run α σ η}
    (h : (r.perform v lane c).log.entries = []) :
    (r.widen d).perform v lane c = (r.perform v lane c).widen d := by
  have hoffers : (r.widen d).offers = r.offers := rfl
  cases c with
  | request offer n =>
    simp only [perform, hoffers] at h ⊢
    cases ht : r.offers[offer]? with
    | none => rfl
    | some t => exact requestOn_widen (by simpa only [ht] using h)
  | cancel offer =>
    simp only [perform, hoffers]
    cases r.offers[offer]? with
    | none => rfl
    | some t => exact cancelOn_widen t lane r
  | registerPuppet k =>
    exact reportBy_widen (fun _ => WhiteboxProbe.registerPuppet_widen _ k _) h
  | registerNext a => exact reportBy_widen WhiteboxProbe.registerNext_widen h
  | registerComplete => exact reportBy_widen (fun _ => WhiteboxProbe.registerComplete_widen _) h
  | registerError e => exact reportBy_widen (fun _ => WhiteboxProbe.registerError_widen e _) h
  | record x => exact record_widen (some x) r

theorem foldl_perform_widen {calls : List (Lane × Call α)} {r : Run α σ η}
    (h : (calls.foldl (fun r c => r.perform v c.1 c.2) r).log.entries = []) :
    calls.foldl (fun r c => r.perform v c.1 c.2) (r.widen d) =
      (calls.foldl (fun r c => r.perform v c.1 c.2) r).widen d := by
  induction calls generalizing r with
  | nil => rfl
  | cons c calls ih =>
    obtain ⟨es, -, hes⟩ := foldl_perform_extends v calls (r.perform v c.1 c.2)
    rw [List.foldl_cons, perform_widen (hes.toExtends.log_eq_nil h), ih h]
    rfl

theorem stimulate_widen {s : Stimulus α} {r : Run α σ η}
    (h : (r.stimulate v s).2.log.entries = []) :
    (r.widen d).stimulate v s = (r.stimulate v s).map id (widen d) := by
  let reaction := v.subject.react r.subject s
  let r₀ : Run α σ η := ({ r with subject := reaction.state } : Run α σ η).note (.stimulated s)
  have hcalls : (reaction.calls.foldl (fun r c => r.perform v c.1 c.2) r₀).log.entries = [] := by
    simp only [stimulate] at h
    split at h <;> exact h
  have hwide := foldl_perform_widen (d := d) hcalls
  have hreaction : v.subject.react (r.widen d).subject s = reaction := rfl
  have hr₀ : ({ r.widen d with subject := reaction.state } : Run α σ η).note (.stimulated s) =
      r₀.widen d := rfl
  simp only [stimulate, hreaction, hr₀, hwide]
  cases reaction.panic <;> rfl

/-- A delivery that leaves nothing in the log does the same to the wider run. -/
theorem deliver_widen {s : Stimulus α} {r : Run α σ η} (h : (r.deliver v s).2.log.entries = []) :
    (r.widen d).deliver v s = (r.deliver v s).map id (widen d) := by
  cases hs : signalOf s with
  | none =>
    simp only [deliver_eq, hs] at h ⊢
    exact stimulate_widen h
  | some signal =>
    simp only [deliver_eq, hs] at h ⊢
    exact congrArg (fun p : Except Panic Unit × Run α σ η =>
      (p.1, { p.2 with marks := Marks.leave signal p.2.marks })) (stimulate_widen h)

/-- An offer that leaves nothing in the log does the same to the wider run. -/
theorem offer_widen {t : Target} {r : Run α σ η} (h : (r.offer v t).2.log.entries = []) :
    (r.widen d).offer v t = (r.offer v t).map id (widen d) :=
  deliver_widen h

/-- Subscribing the subject does the same to the wider run if it leaves nothing in the log. -/
theorem subscribeSubject_widen {number : Nat} {r : Run α σ η}
    (h : (r.subscribeSubject v number).2.log.entries = []) :
    (r.widen d).subscribeSubject v number =
      (r.subscribeSubject v number).map id (widen d) := by
  have haccept : (r.widen d).publisher.accept number =
      (r.publisher.accept number).map id (.widen d) := by
    simp only [ManualPublisher.accept]
    have hsame : (r.widen d).publisher.subscriber = r.publisher.subscriber := rfl
    rw [hsame]
    split <;> rfl
  simp only [subscribeSubject] at h ⊢
  rw [haccept]
  rcases hp : r.publisher.accept number with ⟨_ | x, p⟩
  · rw [hp] at h
    exact offer_widen h
  · rfl

/-! ### Calls of the helper -/

omit [Element α]

/-- A signal that the wider tees receives in the same way happens in the same way. -/
theorem receive_widen {e : Event α}
    {f : ManualSubscriber α Nat → Option Violation × ManualSubscriber α Nat} {r : Run α σ η}
    (hf : (f r.tees).1 = none → f (r.tees.widen d) = (f r.tees).map id (.widen d))
    (h : (r.receive e f).log.entries = []) :
    (r.widen d).receive e f = (r.receive e f).widen d := by
  have hwide := hf (eq_none_of_record h)
  rw [receive, receive, ← record_widen]
  exact congrArg (fun p : Option Violation × ManualSubscriber α Nat =>
    record p.1 (({ r.widen d with tees := p.2 } : Run α σ η).note e)) hwide

/-- A call of the helper that leaves nothing in the log does the same to the wider run. -/
theorem relay_widen {π : Type} {emission : Emission α η π} {r : Run α σ η}
    (h : (relay emission r).2.log.entries = []) :
    relay emission (r.widen d) = (relay emission r).map id (widen d) := by
  -- What the rest of the call leaves empty was empty before it.
  have before {rest : Emission α η π} {r : Run α σ η} (h : (relay rest r).2.log.entries = []) :
      r.log.entries = [] := by
    obtain ⟨es, -, hes⟩ := relay_extends rest r
    exact hes.toExtends.log_eq_nil h
  induction emission generalizing r with
  | done h => rfl
  | panic p h => rfl
  | next a rest ih =>
    rw [relay, relay, receive_widen ManualSubscriber.onNext_widen (before h)]
    exact ih h
  | error e rest ih =>
    rw [relay, relay, receive_widen (fun _ => ManualSubscriber.onError_widen e _) (before h)]
    exact ih h
  | complete rest ih =>
    rw [relay, relay, receive_widen (fun _ => ManualSubscriber.onComplete_widen _) (before h)]
    exact ih h
  | offer k rest ih =>
    have hwide : (r.widen d).tees.onSubscribe k = (r.tees.onSubscribe k).map id (.widen d) :=
      ManualSubscriber.onSubscribe_widen k _
    simp only [relay] at h ⊢
    rw [hwide]
    rcases hk : r.tees.onSubscribe k with ⟨_ | _, t⟩ <;> rw [hk] at h
    · exact ih false h
    · exact ih true h
  | record x rest ih =>
    rw [relay, relay, record_widen]
    exact ih h

/-- Cancelling the tees does the same to the wider run if it leaves nothing in the log. -/
theorem cancelTees_widen {h : Helper α η} {r : Run α σ η}
    (hr : (r.cancelTees h).log.entries = []) :
    (r.widen d).cancelTees h = (r.cancelTees h).widen d := by
  have hsubscription : (r.widen d).tees.subscription = r.tees.subscription := rfl
  simp only [cancelTees, hsubscription] at hr ⊢
  cases hk : r.tees.subscription.value with
  | none => rfl
  | some k =>
    rw [hk] at hr
    exact congrArg Prod.snd (relay_widen hr)

end Run

end StreamConformance
