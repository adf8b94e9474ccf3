import StreamConformance.Manual.Publisher
import StreamConformance.Proofs.Cell.Queue

/-!
# Requests on the manual publisher

What a request does to the queue of requests, and which requests an assertion takes from it.

## Main definitions

* `ManualPublisher.Shows` — what can be seen of the subscription: the requests and a cancellation.

## Main results

* `ManualPublisher.expectDemand_spec` — the requests that make up the demand expected.
-/

namespace StreamConformance

namespace ManualPublisher

variable {ι : Type}

@[simp] theorem isCompleted_request (n : UInt64) (p : ManualPublisher ι) :
    (p.request n).2.requests.isCompleted = p.requests.isCompleted := by
  unfold request
  split
  · rfl
  · split
    next h => simpa [h] using Queue.isCompleted_add n p.requests
    all_goals rfl

theorem ne_zero_of_request {n : UInt64} {p : ManualPublisher ι} (h : (p.request n).1 = none) :
    n ≠ 0 := by
  intro hn
  simp [request, hn] at h

/-- A request to which nothing is objected comes behind all others. -/
theorem elements_request {n : UInt64} {p : ManualPublisher ι}
    (hp : p.requests.isCompleted = false) (h : (p.request n).1 = none) :
    (p.request n).2.requests.elements = p.requests.elements ++ [n] := by
  have hn := ne_zero_of_request h
  simp only [request, hn, ↓reduceIte] at h ⊢
  split at h
  next hadd => simp [Queue.elements_add hadd]
  · simp at h
  next hadd => simp [Queue.add, hp] at hadd; split at hadd <;> simp at hadd

/-! ### Demand -/

/-- A request that is expected with success is the first one, and it is taken. -/
theorem of_onRequests_next {timeout : Duration} {message : String} {n : UInt64}
    {p p' : ManualPublisher ι}
    (h : (onRequests (Queue.next timeout message)).now p = (.ok n, p')) :
    p.requests.entries = .element n :: p'.requests.entries ∧
      p'.requests.isCompleted = p.requests.isCompleted := by
  have hpart : (Queue.next timeout message).now p.requests = (.ok n, p'.requests) := by
    rw [onRequests, Expectation.now_onPart, Prod.mk.injEq] at h
    exact Prod.ext h.1 (by rw [← h.2])
  exact ⟨Queue.entries_of_next hpart, Queue.isCompleted_of_next hpart⟩

theorem expectRequest_now (timeout : Duration) (p : ManualPublisher ι) :
    (expectRequest timeout).now p =
      match (onRequests (Queue.next timeout "Did not receive expected `request` call")).now p with
      | (.ok n, p) => (.ok n, p.count n)
      | (.error v, p) => (.error v, p) := rfl

/-- A request that is expected and counted with success is the first one, and it is taken. -/
theorem of_expectRequest {timeout : Duration} {n : UInt64} {p p' : ManualPublisher ι}
    (h : (expectRequest timeout).now p = (.ok n, p')) :
    p.requests.elements = n :: p'.requests.elements ∧
      p'.requests.isCompleted = p.requests.isCompleted ∧ p'.cancelled = p.cancelled := by
  rw [expectRequest_now] at h
  rcases hnext : (onRequests (Queue.next timeout
    "Did not receive expected `request` call")).now p with ⟨v | m, q⟩ <;> rw [hnext] at h
  · simp at h
  · obtain ⟨hm, rfl⟩ := Prod.mk.inj h
    obtain rfl := Except.ok.inj hm
    obtain ⟨hentries, hcompleted⟩ := of_onRequests_next hnext
    refine ⟨by simp [Queue.elements, hentries, Queued.element?, count], hcompleted, ?_⟩
    rw [onRequests, Expectation.now_onPart] at hnext
    rw [← (Prod.mk.inj hnext).2]
    rfl

theorem of_expectCancelling {timeout : Duration} {p p' : ManualPublisher ι}
    (h : (expectCancelling timeout).now p = (.ok (), p')) :
    p.cancelled.isClosed = true ∧ p' = p := by
  rw [expectCancelling, Expectation.now_onPart, Prod.mk.injEq] at h
  obtain ⟨hok, rfl⟩ := h
  obtain ⟨hclosed, hsame⟩ := Latch.closing_eq_ok_iff.mp (Prod.ext hok rfl)
  exact ⟨hclosed, congrArg (fun l => { p with cancelled := l }) hsame⟩

/-- Demand that has been taken comes from requests at the front of the queue, and it is enough if
there were as many rounds as entries. -/
theorem takeDemand_spec {timeout : Duration} {expected total total' : UInt64} {rounds : Nat}
    {p p' : ManualPublisher ι} (hrounds : p.requests.entries.length ≤ rounds)
    (h : takeDemand timeout expected rounds total p = (.ok total', p')) :
    expected ≤ total' ∧ p'.requests.isCompleted = p.requests.isCompleted ∧
      ∃ taken, p.requests.elements = taken ++ p'.requests.elements ∧
        total' = taken.foldl Demand.add total := by
  induction rounds generalizing total p with
  | zero =>
    unfold takeDemand at h
    split at h
    next hle =>
      obtain ⟨rfl, rfl⟩ : total = total' ∧ p = p' := by simpa using h
      exact ⟨hle, rfl, [], rfl, rfl⟩
    next =>
      split at h
      · simp at h
      next hnext =>
        have := (of_onRequests_next hnext).1
        simp [this] at hrounds
  | succ rounds ih =>
    unfold takeDemand at h
    split at h
    next hle =>
      obtain ⟨rfl, rfl⟩ : total = total' ∧ p = p' := by simpa using h
      exact ⟨hle, rfl, [], rfl, rfl⟩
    next =>
      split at h
      · simp at h
      next n q hnext =>
        obtain ⟨hentries, hcompleted⟩ := of_onRequests_next hnext
        have hq : q.requests.entries.length ≤ rounds := by simpa [hentries] using hrounds
        obtain ⟨hle, hcompleted', taken, htaken, rfl⟩ := ih hq h
        refine ⟨hle, hcompleted'.trans hcompleted, n :: taken, ?_, rfl⟩
        simpa [Queue.elements, hentries, Queued.element?] using htaken

/-- If exactly as much demand is found as is expected, the requests that have been taken make it up.
The sum is exact, since it has not stopped at the largest word. -/
theorem expectDemand_spec {timeout : Duration} {expected total : UInt64}
    {p p' : ManualPublisher ι} (h : p.expectDemand timeout expected = (.ok total, p')) :
    p'.requests.isCompleted = p.requests.isCompleted ∧
      ∃ taken, p.requests.elements = taken ++ p'.requests.elements ∧
        (expected ≠ Demand.unbounded → Demand.total taken = expected.toNat) := by
  unfold expectDemand at h
  split at h
  · simp at h
  next sum q htake =>
    obtain ⟨hle, hcompleted, taken, htaken, hsum⟩ := takeDemand_spec (Nat.le_refl _) htake
    split at h
    · simp at h
    next hnot =>
      obtain ⟨-, rfl⟩ := Prod.mk.inj h
      refine ⟨hcompleted, taken, htaken, fun hexpected => ?_⟩
      have hnat := Demand.toNat_foldl_add taken 0
      rw [← hsum] at hnat
      have hbound : expected.toNat ≠ UInt64.size - 1 := fun he =>
        hexpected (UInt64.toNat_inj.mp he)
      have := expected.toNat_lt_size
      rw [UInt64.le_iff_toNat_le] at hle
      rw [UInt64.lt_iff_toNat_lt] at hnot
      simp only [UInt64.toNat_zero, Nat.zero_add] at hnat
      omega

theorem of_expectNoRequest {timeout : Duration} {p p' : ManualPublisher ι}
    (h : (expectNoRequest timeout).now p = (.ok (), p')) : p.requests.elements = [] ∧ p' = p := by
  rw [expectNoRequest, onRequests, Expectation.now_onPart, Prod.mk.injEq] at h
  obtain ⟨hok, rfl⟩ := h
  obtain ⟨hempty, -, hsame⟩ := Queue.of_silence (Prod.ext hok rfl)
  exact ⟨hempty, congrArg (fun q => { p with requests := q }) hsame⟩

/-! ### What can be seen of the subscription -/

/-- There is a subscriber, the requests `requests` wait in a queue with room for `capacity` of them,
and the subscription has been cancelled or not. -/
structure Shows (p : ManualPublisher ι) (capacity : Nat) (requests : List UInt64)
    (isCancelled : Bool) : Prop where
  subscribed : ∃ s, p.subscriber.value = some s
  holds : p.requests.Holds capacity requests
  cancelled : p.cancelled.isClosed = isCancelled

namespace Shows

variable {p : ManualPublisher ι} {capacity : Nat} {n expected : UInt64} {requests : List UInt64}
  {isCancelled : Bool}

/-- Nothing is objected to a positive request for which there is room. -/
theorem request (h : p.Shows capacity requests isCancelled) (hn : n ≠ 0)
    (hroom : requests.length < capacity) :
    ∃ p', p.request n = (none, p') ∧ p'.Shows capacity (requests ++ [n]) isCancelled := by
  obtain ⟨q, hadd, hq⟩ := h.holds.add hroom n
  refine ⟨{ p with requests := q }, ?_, h.subscribed, hq, h.cancelled⟩
  simp [ManualPublisher.request, hn, hadd]

theorem request_full (h : p.Shows capacity requests isCancelled) (hn : n ≠ 0)
    (hfull : capacity ≤ requests.length) : p.request n = (some (requestOverflow capacity), p) := by
  simp [ManualPublisher.request, hn, h.holds.add_full hfull]

theorem cancel (h : p.Shows capacity requests isCancelled) :
    p.cancel.Shows capacity requests true :=
  ⟨h.subscribed, h.holds, rfl⟩

theorem onRequests_next (h : p.Shows capacity (n :: requests) isCancelled) (timeout : Duration)
    (message : String) : ∃ p', (onRequests (Queue.next timeout message)).now p = (.ok n, p') ∧
      p'.Shows capacity requests isCancelled := by
  obtain ⟨q, hnext, hq⟩ := h.holds.next timeout message
  refine ⟨{ p with requests := q }, ?_, h.subscribed, hq, h.cancelled⟩
  rw [onRequests, Expectation.now_onPart, hnext]

theorem expectRequest (h : p.Shows capacity (n :: requests) isCancelled) (timeout : Duration) :
    ∃ p', (expectRequest timeout).now p = (.ok n, p') ∧
      p'.Shows capacity requests isCancelled := by
  obtain ⟨p', hnext, hp'⟩ := h.onRequests_next timeout "Did not receive expected `request` call"
  refine ⟨p'.count n, ?_, hp'.subscribed, hp'.holds, hp'.cancelled⟩
  rw [expectRequest_now, hnext]

theorem takeDemand (h : p.Shows capacity (n :: requests) isCancelled) (timeout : Duration)
    (hpos : 0 < expected) (hle : expected ≤ n) : ∃ p',
      takeDemand timeout expected p.requests.entries.length 0 p = (.ok n, p') ∧
        p'.Shows capacity requests isCancelled := by
  obtain ⟨p', hnext, hp'⟩ := h.onRequests_next timeout (missingDemand expected 0)
  refine ⟨p', ?_, hp'⟩
  have hzero : Demand.add 0 n = n := by
    apply UInt64.toNat_inj.mp
    have := n.toNat_lt_size
    rw [Demand.toNat_add, UInt64.toNat_zero]
    omega
  have hlength : p.requests.entries.length = requests.length + 1 := by
    rw [h.holds.entries_eq, List.length_map, List.length_cons]
  rw [hlength, ManualPublisher.takeDemand, if_neg (UInt64.not_le.mpr hpos), hnext]
  simp only [hzero]
  unfold ManualPublisher.takeDemand
  exact if_pos hle

theorem expectDemand (h : p.Shows capacity (n :: requests) isCancelled) (timeout : Duration)
    (hpos : 0 < n) : ∃ p', p.expectDemand timeout n = (.ok n, p') ∧
      p'.Shows capacity requests isCancelled := by
  obtain ⟨p', htake, hp'⟩ := h.takeDemand timeout hpos (UInt64.le_refl n)
  refine ⟨p'.count n, ?_, hp'.subscribed, hp'.holds, hp'.cancelled⟩
  rw [ManualPublisher.expectDemand, htake]
  exact if_neg (UInt64.lt_irrefl n)

theorem expectDemand_exceeded (h : p.Shows capacity (n :: requests) isCancelled)
    (timeout : Duration) (hpos : 0 < expected) (hlt : expected < n) :
    ∃ x p', p.expectDemand timeout expected = (.error x, p') := by
  obtain ⟨p', htake, -⟩ := h.takeDemand timeout hpos (UInt64.le_of_lt hlt)
  rw [ManualPublisher.expectDemand, htake]
  exact ⟨_, _, if_pos hlt⟩

theorem expectNoRequest (h : p.Shows capacity [] isCancelled) (timeout : Duration) :
    (expectNoRequest timeout).now p = (.ok (), p) := by
  rw [ManualPublisher.expectNoRequest, onRequests, Expectation.now_onPart, h.holds.silence]

theorem expectNoRequest_broken (h : p.Shows capacity (n :: requests) isCancelled)
    (timeout : Duration) :
    ∃ x p', (ManualPublisher.expectNoRequest timeout).now p = (.error x, p') := by
  obtain ⟨text, q, hnow, -⟩ := h.holds.silence_broken timeout
    "Received an unexpected call to `request`"
  rw [ManualPublisher.expectNoRequest, onRequests, Expectation.now_onPart, hnow]
  exact ⟨_, _, rfl⟩

theorem expectCancelling (h : p.Shows capacity requests true) (timeout : Duration) :
    (expectCancelling timeout).now p = (.ok (), p) := by
  rw [ManualPublisher.expectCancelling, Expectation.now_onPart,
    Latch.closing_eq_ok_iff.mpr ⟨h.cancelled, rfl⟩]

end Shows

end ManualPublisher

end StreamConformance
