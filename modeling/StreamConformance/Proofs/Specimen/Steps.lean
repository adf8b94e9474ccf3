import StreamConformance.Proofs.Specimen.Scene

/-!
# Steps of a specimen

What the steps of a scenario come to on a run that shows a scene: they end well and leave a run that
shows the scene after them, or they fail.
-/

namespace StreamConformance.Run.Shows

open Stream' (Seq)
open Play

variable {α η : Type} [Element α] {v : Verification α (Option Nat) η} {number : Nat}
  {Left : Seq α → η → Prop} {s : Scene α} {r : Run α (Option Nat) η} {k : Specimen}

/-! ### The subject -/

omit [Element α] in
theorem puppet_reaches (h : r.Shows v number Left s) {p : Nat} (hp : s.puppet = some p) :
    (Stage.puppet v).Reaches r fun q r' => q = p ∧ r'.Shows v number Left s := by
  refine .ask ?_ ⟨rfl, h⟩
  rw [h.puppet, hp]

theorem triggerRequest (h : r.Shows v number Left s) (hv : v.subject = k.subject) {n : UInt64}
    (hn : n ≠ 0) (hroom : s.requests.length < v.config.capacity) :
    (Stage.triggerRequest v 0 n).Reaches r fun _ r' =>
      r'.Shows v number Left { s with requests := s.requests ++ [n] } := by
  obtain ⟨r', hdeliver, hshows⟩ := h.deliver hv (x := .triggerRequest 0 n) rfl
    fun _ hr => hr.request .delivering hn hroom
  exact .orPanic hdeliver hshows

theorem triggerRequest_full (h : r.Shows v number Left s) (hv : v.subject = k.subject)
    {n : UInt64} (hn : n ≠ 0) (hfull : v.config.capacity ≤ s.requests.length) :
    (Stage.triggerRequest v 0 n).Reaches r fun _ r' =>
      r'.log.entries = [ManualPublisher.requestOverflow v.config.capacity] := by
  obtain ⟨m, m', hdeliver⟩ := Run.deliver_specimen hv (.triggerRequest 0 n) r
  have hstart : (({ r with marks := m, subject := r.subject } : Run α (Option Nat) η).note
      (.stimulated (.triggerRequest 0 n))).Shows v number Left s := { h with }
  exact .orPanic hdeliver (hstart.request_full .delivering hn hfull)

theorem signalCancel (h : r.Shows v number Left s) (hv : v.subject = k.subject) :
    (Stage.signalCancel v 0).Reaches r fun _ r' =>
      r'.Shows v number Left { s with isCancelled := true } := by
  obtain ⟨r', hdeliver, hshows⟩ := h.deliver hv (x := .signalCancel 0) rfl
    fun _ hr => hr.cancel .delivering
  exact .orPanic hdeliver hshows

omit [Element α] in
theorem subscriberFor (h : r.Shows v number Left s) (action : String) :
    ∃ i, r.publisher.subscriberFor action = .ok i := by
  obtain ⟨i, hi⟩ := h.publisher.subscribed
  exact ⟨i, by rw [ManualPublisher.subscriberFor, hi]⟩

/-- An element that is sent is reported, and the specimen requests its echo. -/
theorem sendNext (h : r.Shows v number Left s) (hv : v.subject = k.subject)
    (hs : s.terminals = []) (hreports : s.reports.length < v.config.capacity)
    (hrequests : s.requests.length + k.echo.length ≤ v.config.capacity) (a : α) :
    (Stage.sendNext v a).Reaches r fun _ r' => r'.Shows v number Left
      { s with reports := s.reports ++ [a], requests := s.requests ++ k.echo } := by
  obtain ⟨i, hi⟩ := h.subscriberFor "sendNext"
  obtain ⟨r', hdeliver, hshows⟩ := h.deliver hv (k.respond_onNext 0 a)
    fun _ hr => (hr.registerNext hs hreports .delivering a).requests k.zero_notMem_echo hrequests
  refine .bind (.ask (Q := fun _ r' => r' = r) hi rfl) ?_
  rintro _ _ rfl
  exact .orPanic hdeliver hshows

/-- The next value of the helper is pulled, and it is reported when it is sent. -/
theorem signalNext (h : r.Shows v number Left s) (hv : v.subject = k.subject)
    (hserves : (Stage.helper v).Serves number Left) {a : α} {values : Seq α}
    (hleft : s.left = .cons a values) (hs : s.terminals = [])
    (hreports : s.reports.length < v.config.capacity)
    (hrequests : s.requests.length + k.echo.length ≤ v.config.capacity) :
    (Stage.signalNext v).Reaches r fun b r' => b = a ∧ r'.Shows v number Left
      { s with left := values, reports := s.reports ++ [a], requests := s.requests ++ k.echo } := by
  have hfed : r.Fed v number Left (.cons a values) := hleft ▸ h.toFed
  refine (hfed.pull hserves (by omega)).bind ?_
  rintro b _ ⟨rfl, hpulled, tees, helper, past, elapsed, rfl⟩
  have hshows : Shows v number Left { s with left := values } _ := { h with toFed := hpulled }
  refine (hshows.sendNext hv hs hreports hrequests b).bind fun _ _ hsent => ?_
  exact .pure ⟨rfl, hsent⟩

/-! ### Requests -/

omit [Element α] in
theorem expectRequest (h : r.Shows v number Left s) {n : UInt64} {ns : List UInt64}
    (hs : s.requests = n :: ns) : (Stage.expectRequest v).Reaches r fun m r' =>
      m = n ∧ r'.Shows v number Left { s with requests := ns } := by
  have hpublisher := h.publisher
  rw [hs] at hpublisher
  obtain ⟨p, hnow, hp⟩ := hpublisher.expectRequest v.timeout
  exact .await hnow fun d => ⟨rfl, { h with publisher := hp }⟩

omit [Element α] in
theorem expectDemand (h : r.Shows v number Left s) {n : UInt64} {ns : List UInt64}
    (hs : s.requests = n :: ns) (hn : 0 < n) : (Stage.expectDemand v n).Reaches r fun _ r' =>
      r'.Shows v number Left { s with requests := ns } := by
  have hpublisher := h.publisher
  rw [hs] at hpublisher
  obtain ⟨p, hnow, hp⟩ := hpublisher.expectDemand v.timeout hn
  refine ⟨n, ({ r with publisher := p } : Run α (Option Nat) η).pass .zero,
    on_orViolation_eq_ok_iff.mpr ?_, { h with publisher := hp }⟩
  simp only [hnow]

omit [Element α] in
theorem expectDemand_fails (h : r.Shows v number Left s) {n expected : UInt64} {ns : List UInt64}
    (hs : s.requests = n :: ns) (hpos : 0 < expected) (hlt : expected < n) :
    (Stage.expectDemand v expected).Fails r := by
  have hpublisher := h.publisher
  rw [hs] at hpublisher
  obtain ⟨x, p, hnow⟩ := hpublisher.expectDemand_exceeded v.timeout hpos hlt
  rw [Fails, Stage.expectDemand, on_orViolation, hnow]
  exact ⟨_, _, rfl⟩

omit [Element α] in
theorem expectNoRequest (h : r.Shows v number Left s) (hs : s.requests = []) :
    (Stage.expectNoRequest v).Reaches r fun _ r' => r'.Shows v number Left s := by
  have hpublisher := h.publisher
  rw [hs] at hpublisher
  exact .await (hpublisher.expectNoRequest v.timeout) fun d => { h with }

omit [Element α] in
theorem expectNoRequest_fails (h : r.Shows v number Left s) (hs : s.requests ≠ []) :
    (Stage.expectNoRequest v).Fails r := by
  have hpublisher := h.publisher
  cases hrequests : s.requests with
  | nil => exact absurd hrequests hs
  | cons n ns =>
    rw [hrequests] at hpublisher
    obtain ⟨x, p, hnow⟩ := hpublisher.expectNoRequest_broken v.timeout
    exact .await hnow

omit [Element α] in
theorem expectCancelling (h : r.Shows v number Left s) (hs : s.isCancelled = true) :
    (Stage.expectCancelling v).Reaches r fun _ r' => r'.Shows v number Left s := by
  have hpublisher := h.publisher
  rw [hs] at hpublisher
  exact .await (hpublisher.expectCancelling v.timeout) fun d => { h with }

/-! ### Reports -/

theorem expectElement (h : r.Shows v number Left s) (hs : s.terminals = []) {a : α} {as : List α}
    (hreports : s.reports = a :: as) : (Stage.expectElement v a).Reaches r fun _ r' =>
      r'.Shows v number Left { s with reports := as } := by
  have hprobe := h.probe
  rw [hs, hreports] at hprobe
  obtain ⟨p, hnow, hp⟩ := hprobe.expectElement (r.subjectName v) v.timeout
  rw [← hs] at hp
  have hawait : (WhiteboxProbe.onBlackbox (BlackboxProbe.expectElement (r.subjectName v) a
      v.timeout)).now r.probe = (.ok (), { r.probe with blackbox := p }) := by
    rw [WhiteboxProbe.onBlackbox, Expectation.now_onPart, hnow]
  refine .bind (Q := fun name r' => name = r.subjectName v ∧ r' = r) ⟨_, _, rfl, rfl, rfl⟩ ?_
  rintro _ _ ⟨rfl, rfl⟩
  exact .await hawait fun d => { h with probe := hp }

/-- Where nothing waits to be looked at, nothing is expected with success. -/
theorem expectNone (h : r.Shows v number Left s) (hs : s.terminals = [])
    (hreports : s.reports = []) :
    (Stage.expectNone v).Reaches r fun _ r' => r'.Shows v number Left s := by
  have hprobe := h.probe
  rw [hs, hreports] at hprobe
  have hawait : (WhiteboxProbe.onBlackbox (BlackboxProbe.expectNone v.timeout)).now r.probe =
      (.ok (), r.probe) := by
    rw [WhiteboxProbe.onBlackbox, Expectation.now_onPart, hprobe.expectNone]
  exact .await hawait fun d => { h with }

/-- The elements that wait are taken one after the other if the rounds are more than they are. -/
theorem drain (h : r.Shows v number Left s) (hs : s.terminals = []) {rounds : Nat}
    (hrounds : s.reports.length < rounds) (drained : Nat) :
    (Stage.drain v rounds drained).Reaches r fun _ r' =>
      r'.Shows v number Left { s with reports := [] } := by
  induction rounds generalizing r s drained with
  | zero => exact absurd hrounds (Nat.not_lt_zero _)
  | succ rounds ih =>
    have hprobe := h.probe
    rw [hs] at hprobe
    cases hreports : s.reports with
    | nil =>
      rw [hreports] at hprobe
      have hquiet : (WhiteboxProbe.onBlackbox (BlackboxProbe.expectNone v.timeout)).now r.probe =
          (.ok (), r.probe) := by
        rw [WhiteboxProbe.onBlackbox, Expectation.now_onPart, hprobe.expectNone]
      refine .bind (.outcome (Q := fun x r' => x = .ok () ∧ r'.Shows v number Left s) hquiet
        fun d => ⟨rfl, { h with }⟩) ?_
      rintro _ r' ⟨rfl, hshows⟩
      rw [← hreports]
      exact .pure hshows
    | cons a as =>
      rw [hreports] at hprobe
      obtain ⟨text, p, hnow, hp⟩ := hprobe.expectNone_broken v.timeout
      rw [← hs] at hp
      have hquiet : (WhiteboxProbe.onBlackbox (BlackboxProbe.expectNone v.timeout)).now r.probe =
          (.error (.oversupply text), { r.probe with blackbox := p }) := by
        rw [WhiteboxProbe.onBlackbox, Expectation.now_onPart, hnow]
      refine .bind (.outcome (Q := fun x r' => x = .error (.oversupply text) ∧
        r'.Shows v number Left { s with reports := as }) hquiet
          fun d => ⟨rfl, { h with probe := hp }⟩) ?_
      rintro _ r' ⟨rfl, hshows⟩
      rw [hreports, List.length_cons] at hrounds
      exact ih hshows hs (Nat.lt_of_succ_lt_succ hrounds) _

/-- The subject is quiet after as many elements as are reported, which may be as many as the
limit. -/
theorem awaitQuiet (h : r.Shows v number Left s) (hs : s.terminals = [])
    (hlimit : s.reports.length ≤ v.maxSignals.toNat) : (Stage.awaitQuiet v).Reaches r fun _ r' =>
      r'.Shows v number Left { s with reports := [] } :=
  h.drain hs (Nat.lt_succ_of_le hlimit) 0

/-! ### Terminal signals -/

/-- A terminal signal is reported, whatever else the specimen does in it. -/
theorem deliver_terminal (h : r.Shows v number Left s) (hv : v.subject = k.subject)
    (hroom : s.requests.length + k.farewell.length ≤ v.config.capacity)
    {x : Stimulus α} {c : Call α}
    (hrespond : k.respond (some 0) x = ((.delivering, c) :: k.terminalCalls (some 0), some 0))
    (hreport : ∀ r : Run α (Option Nat) η, r.Shows v number Left s →
      (r.perform v .delivering c).Shows v number Left { s with terminals := [c] }) :
    ∃ r' requests isCancelled, r.deliver v x = (.ok (), r') ∧
      r'.Shows v number Left { s with terminals := [c], requests, isCancelled } := by
  obtain ⟨requests, isCancelled, hcalls⟩ :=
    terminalCalls number Left (s := { s with terminals := [c] }) k hroom
  obtain ⟨r', hdeliver, hshows⟩ := h.deliver hv hrespond fun r hr => hcalls _ (hreport r hr)
  exact ⟨r', requests, isCancelled, hdeliver, hshows⟩

theorem sendCompletion (h : r.Shows v number Left s) (hv : v.subject = k.subject)
    (hs : s.terminals = [])
    (hroom : s.requests.length + k.farewell.length ≤ v.config.capacity) :
    (Stage.sendCompletion v).Reaches r fun _ r' => ∃ requests isCancelled,
      r'.Shows v number Left
        { s with terminals := [.registerComplete], requests, isCancelled } := by
  obtain ⟨i, hi⟩ := h.subscriberFor "sendCompletion"
  obtain ⟨r', requests, isCancelled, hdeliver, hshows⟩ := h.deliver_terminal hv hroom
    (x := .onComplete) rfl fun r hr => hr.registerComplete hs .delivering
  refine .bind (.ask (Q := fun _ r' => r' = r) hi rfl) ?_
  rintro _ _ rfl
  exact .orPanic hdeliver ⟨requests, isCancelled, hshows⟩

theorem sendError (h : r.Shows v number Left s) (hv : v.subject = k.subject)
    (hs : s.terminals = [])
    (hroom : s.requests.length + k.farewell.length ≤ v.config.capacity) (e : StreamError) :
    (Stage.sendError v e).Reaches r fun _ r' => ∃ requests isCancelled,
      r'.Shows v number Left
        { s with terminals := [.registerError e], requests, isCancelled } := by
  obtain ⟨i, hi⟩ := h.subscriberFor "sendError"
  obtain ⟨r', requests, isCancelled, hdeliver, hshows⟩ := h.deliver_terminal hv hroom
    (x := .onError e) rfl fun r hr => hr.registerError hs .delivering e
  refine .bind (.ask (Q := fun _ r' => r' = r) hi rfl) ?_
  rintro _ _ rfl
  exact .orPanic hdeliver ⟨requests, isCancelled, hshows⟩

/-- A completion that has been reported behind no element is expected with success. -/
theorem expectCompletion (h : r.Shows v number Left s) (hs : s.terminals = [.registerComplete])
    (hreports : s.reports = []) :
    (Stage.expectCompletion v).Reaches r fun _ r' => r'.Fed v number Left s.left := by
  have hnow : ((BlackboxProbe.expectCompletion (r.subjectName v) v.timeout).now
      r.probe.blackbox).1 = .ok () := h.probe.consistent.expectCompletion_eq_ok_iff.mpr
    ⟨h.probe.elements_eq.trans hreports, h.probe.terminals_eq.trans hs⟩
  have hawait : ((WhiteboxProbe.onBlackbox (BlackboxProbe.expectCompletion (r.subjectName v)
      v.timeout)).now r.probe).1 = .ok () := hnow
  refine .bind (Q := fun name r' => name = r.subjectName v ∧ r' = r) ⟨_, _, rfl, rfl, rfl⟩ ?_
  rintro _ _ ⟨rfl, rfl⟩
  exact .await (Prod.ext hawait rfl) fun d => { h.toFed with }

omit [Element α] in
theorem expectError (h : r.Shows v number Left s) {e : StreamError}
    (hs : s.terminals = [.registerError e]) :
    (Stage.expectError v e).Reaches r fun _ r' => r'.Fed v number Left s.left := by
  have hnow : ((BlackboxProbe.expectError (r.subjectName v) e v.timeout).now
      r.probe.blackbox).1 = .ok () := h.probe.consistent.expectError_eq_ok_iff.mpr
    ⟨e, h.probe.terminals_eq.trans hs, by simp [StreamError.same]⟩
  have hawait : ((WhiteboxProbe.onBlackbox (BlackboxProbe.expectError (r.subjectName v) e
      v.timeout)).now r.probe).1 = .ok () := hnow
  refine .bind (Q := fun name r' => name = r.subjectName v ∧ r' = r) ⟨_, _, rfl, rfl, rfl⟩ ?_
  rintro _ _ ⟨rfl, rfl⟩
  exact .await (Prod.ext hawait rfl) fun d => { h.toFed with }

/-! ### A second subscription -/

/-- A second subscription is cancelled by any specimen but the greedy one, which leaves it open. -/
theorem offer_second (h : r.Shows v number Left s) (hv : v.subject = k.subject) :
    ∃ r', r.offer v .second = (.ok (), r') ∧ r'.second.isClosed = (k != .greedy) ∧
      (k ≠ .greedy → r'.Fed v number Left s.left) := by
  obtain ⟨m, m', hdeliver⟩ := Run.deliver_specimen hv (.onSubscribe r.offers.length)
    ({ r with offers := r.offers ++ [.second] } : Run α (Option Nat) η)
  refine ⟨_, hdeliver, ?_⟩
  simp only [h.subject, h.offers]
  by_cases hk : k = .greedy
  · have hrespond : (k.respond (some 0) (.onSubscribe 1) : List (Lane × Call α) × Option Nat) =
        ([(.delivering, .registerPuppet 1)], some 1) := by
      rw [hk]
      rfl
    refine ⟨?_, fun hne => absurd hk hne⟩
    rw [show ([Target.publisher] : List Target).length = 1 from rfl, hrespond, hk]
    simpa [Run.perform, Run.reportBy] using h.second
  · rw [show ([Target.publisher] : List Target).length = 1 from rfl,
      Specimen.respond_onSubscribe hk]
    refine ⟨?_, fun _ => { h.toFed with }⟩
    simp [Run.perform, Run.cancelOn, Latch.close, hk]

end StreamConformance.Run.Shows
