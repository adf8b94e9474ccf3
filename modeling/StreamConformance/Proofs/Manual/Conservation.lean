import StreamConformance.Proofs.Manual.Publisher

/-!
# Where the demand goes

Requests on the subscription of a manual publisher are queued, assertions take them from the queue
in the order in which they have come, and the publisher counts the demand that has been taken. So
all demand is either queued or counted, with one exception: an assertion that expects more demand
than there is takes all requests, and when its time has passed it fails without counting them.

## Main definitions

* `Demand.split` — the requests that make up the demand expected, and the requests behind them.
* `DemandUse`, `Withdrawal` — requests and assertions, and what an assertion takes.
* `DemandAccount` — a publisher with all that has happened to its requests.
* `DemandAccount.Conserved` — where the requests have gone.

## Main results

* `ManualPublisher.expectDemand_of_holds` — what comes of an assertion on the demand.
* `DemandAccount.conserved_run` — where the requests go, whatever is requested and asserted.
-/

namespace StreamConformance

/-! ### Taking demand -/

namespace Demand

/-- The requests that are taken until their sum, which starts at `sum`, reaches `expected`, and the
requests behind them. -/
def split (expected : UInt64) : UInt64 → List UInt64 → List UInt64 × List UInt64
  | _, [] => ([], [])
  | sum, n :: ns =>
    if expected ≤ sum then ([], n :: ns) else (split expected (add sum n) ns).map (n :: ·) id

theorem split_append (expected sum : UInt64) (ns : List UInt64) :
    (split expected sum ns).1 ++ (split expected sum ns).2 = ns := by
  induction ns generalizing sum with
  | nil => rfl
  | cons n ns ih =>
    by_cases h : expected ≤ sum
    · simp [split, h]
    · simpa [split, h] using ih (add sum n)

end Demand

variable {ι : Type}

namespace ManualPublisher

variable {p : ManualPublisher ι} {capacity : Nat} {ns : List UInt64}

/-- What is found of a sum of requests, where `expected` is expected. -/
def demandVerdict (timeout : Duration) (expected sum : UInt64) : Except Violation UInt64 :=
  if sum < expected then .error (.timeout (missingDemand expected sum) timeout)
  else if expected < sum then
    .error (.oversupply ("Expected a total demand of " ++ toString expected.toNat ++
      " but the subscriber requested " ++ toString sum.toNat))
  else .ok sum

/-- Requests are taken until their sum is what is expected, or until there are none. -/
theorem takeDemand_of_holds (h : p.requests.Holds capacity ns) (timeout : Duration)
    (expected sum : UInt64) {rounds : Nat} (hrounds : ns.length ≤ rounds) :
    ∃ q : Queue UInt64, q.Holds capacity (Demand.split expected sum ns).2 ∧
      takeDemand timeout expected rounds sum p =
        (let reached := (Demand.split expected sum ns).1.foldl Demand.add sum
         if expected ≤ reached then .ok reached
         else .error (.timeout (missingDemand expected reached) timeout),
          { p with requests := q }) := by
  induction ns generalizing sum rounds p with
  | nil =>
    refine ⟨p.requests, h, ?_⟩
    unfold takeDemand
    by_cases hle : expected ≤ sum
    · simp [Demand.split, hle]
    · have hnext : (onRequests (Queue.next timeout (missingDemand expected sum))).now p =
          (.error (.timeout (missingDemand expected sum) timeout), p) := by
        rw [onRequests, Expectation.now_onPart, h.next_empty]
      simp [Demand.split, hle, hnext]
  | cons n ns ih =>
    unfold takeDemand
    by_cases hle : expected ≤ sum
    · exact ⟨p.requests, by simpa [Demand.split, hle] using h, by simp [Demand.split, hle]⟩
    · obtain ⟨q, hnow, hq⟩ := h.next timeout (missingDemand expected sum)
      have hnext : (onRequests (Queue.next timeout (missingDemand expected sum))).now p =
          (.ok n, { p with requests := q }) := by
        rw [onRequests, Expectation.now_onPart, hnow]
      obtain ⟨rounds, rfl⟩ : ∃ k, rounds = k + 1 :=
        Nat.exists_eq_add_one.mpr (Nat.lt_of_lt_of_le (Nat.succ_pos _) hrounds)
      obtain ⟨r, hr, htake⟩ := ih (p := { p with requests := q }) hq (Demand.add sum n)
        (Nat.le_of_succ_le_succ hrounds)
      refine ⟨r, by simpa [Demand.split, hle] using hr, ?_⟩
      simp [Demand.split, hle, hnext, htake]

/-- Demand is expected of the requests `ns`: those that make it up are taken, and they are counted
unless their sum is too small. -/
theorem expectDemand_of_holds (h : p.requests.Holds capacity ns) (timeout : Duration)
    (expected : UInt64) :
    let sum := Demand.clamp (Demand.total (Demand.split expected 0 ns).1)
    ∃ q : Queue UInt64, q.Holds capacity (Demand.split expected 0 ns).2 ∧
      p.expectDemand timeout expected = (demandVerdict timeout expected sum,
        if sum < expected then { p with requests := q }
        else ({ p with requests := q } : ManualPublisher ι).count sum) := by
  intro sum
  have hlength : ns.length = p.requests.entries.length := by
    rw [h.entries_eq, List.length_map]
  obtain ⟨q, hq, htake⟩ := takeDemand_of_holds h timeout expected 0 (Nat.le_of_eq hlength)
  refine ⟨q, hq, ?_⟩
  rw [Demand.foldl_add_zero] at htake
  rw [expectDemand, htake, demandVerdict]
  by_cases hlt : sum < expected
  · simp [sum, hlt, UInt64.not_le.mpr hlt]
  · by_cases hgt : expected < sum
    · simp [sum, hlt, hgt, UInt64.not_lt.mp hlt]
    · simp [sum, hlt, hgt, UInt64.not_lt.mp hlt]

theorem expectRequest_of_none (h : p.requests.Holds capacity []) (timeout : Duration) :
    (expectRequest timeout).now p =
      (.error (.timeout "Did not receive expected `request` call" timeout), p) := by
  rw [expectRequest_now, onRequests, Expectation.now_onPart, h.next_empty]

theorem expectRequest_of_first {n : UInt64} (h : p.requests.Holds capacity (n :: ns))
    (timeout : Duration) : ∃ q : Queue UInt64, q.Holds capacity ns ∧
      (expectRequest timeout).now p =
        (.ok n, ({ p with requests := q } : ManualPublisher ι).count n) := by
  obtain ⟨q, hnow, hq⟩ := h.next timeout "Did not receive expected `request` call"
  refine ⟨q, hq, ?_⟩
  rw [expectRequest_now, onRequests, Expectation.now_onPart, hnow]

/-- A request is accepted, or something is objected to it and it is not queued. -/
theorem request_of_holds (h : p.requests.Holds capacity ns) (n : UInt64) :
    ∃ q : Queue UInt64, q.Holds capacity (ns ++ if (p.request n).1.isNone then [n] else []) ∧
      (p.request n).2 = { p with requests := q } := by
  by_cases hzero : n = 0
  · exact ⟨p.requests, by simpa [request, hzero] using h, by simp [request, hzero]⟩
  · by_cases hroom : ns.length < capacity
    · obtain ⟨q, hadd, hq⟩ := h.add hroom n
      exact ⟨q, by simpa [request, hzero, hadd] using hq, by simp [request, hzero, hadd]⟩
    · have hadd := h.add_full (Nat.le_of_not_lt hroom) n
      exact ⟨p.requests, by simpa [request, hzero, hadd] using h, by simp [request, hzero, hadd]⟩

end ManualPublisher

/-! ### Accounts -/

/-- A request on the subscription of a manual publisher, or an assertion on the requests. -/
inductive DemandUse where
  | request (n : UInt64)
  | expectRequest
  | expectDemand (expected : UInt64)
  deriving DecidableEq

/-- An assertion on the requests of a manual publisher, what has come of it, and the requests that
it has taken from the queue. -/
structure Withdrawal where
  use : DemandUse
  outcome : Except Violation UInt64
  taken : List UInt64

/-- Whether the time of the assertion has passed. -/
def Withdrawal.timedOut (w : Withdrawal) : Bool :=
  match w.outcome with
  | .error (.timeout ..) => true
  | _ => false

/-- A manual publisher with what has happened to its requests: those to which nothing has been
objected, and the assertions, both from the first to the last. -/
structure DemandAccount (ι : Type) where
  publisher : ManualPublisher ι
  accepted : List UInt64
  withdrawals : List Withdrawal

namespace DemandAccount

/-- A publisher without a request. -/
def start (capacity : Nat) : DemandAccount ι := ⟨.empty capacity, [], []⟩

/-- The requests that wait in the queue. -/
def queued (s : DemandAccount ι) : List UInt64 := s.publisher.requests.elements

/-- The requests that assertions have taken. -/
def taken (s : DemandAccount ι) : List UInt64 := s.withdrawals.flatMap Withdrawal.taken

/-- The requests taken by the assertions whose time has not passed. -/
def takenInTime (s : DemandAccount ι) : List UInt64 :=
  (s.withdrawals.filter (!·.timedOut)).flatMap Withdrawal.taken

/-- An assertion is made. What it has taken is what has left the queue at the front. -/
def withdraw (s : DemandAccount ι) (use : DemandUse)
    (r : Except Violation UInt64 × ManualPublisher ι) : DemandAccount ι :=
  { s with
    publisher := r.2
    withdrawals := s.withdrawals ++
      [⟨use, r.1, s.queued.take (s.publisher.requests.length - r.2.requests.length)⟩] }

/-- What a use does. -/
def perform (timeout : Duration) (s : DemandAccount ι) : DemandUse → DemandAccount ι
  | .request n =>
    let r := s.publisher.request n
    { s with publisher := r.2, accepted := s.accepted ++ if r.1.isNone then [n] else [] }
  | .expectRequest =>
    s.withdraw .expectRequest ((ManualPublisher.expectRequest timeout).now s.publisher)
  | .expectDemand e => s.withdraw (.expectDemand e) (s.publisher.expectDemand timeout e)

/-- Uses of a fresh publisher with room for `capacity` requests, one after the other. -/
def run (capacity : Nat) (timeout : Duration) (uses : List DemandUse) : DemandAccount ι :=
  uses.foldl (perform timeout) (start capacity)

/-- Every request that has been accepted has been taken or is queued, and the demand taken in time
has been counted. Only an assertion on the demand that has found too little of it can have taken
requests when its time has passed. -/
structure Conserved (capacity : Nat) (s : DemandAccount ι) : Prop where
  holds : s.publisher.requests.Holds capacity s.queued
  accepted_eq : s.accepted = s.taken ++ s.queued
  pendingDemand_eq : s.publisher.pendingDemand = Demand.clamp (Demand.total s.takenInTime)
  short : ∀ w ∈ s.withdrawals, w.timedOut = true → w.taken ≠ [] →
    ∃ e, w.use = .expectDemand e ∧ Demand.total w.taken < e.toNat

namespace Conserved

variable {capacity : Nat} {s : DemandAccount ι}

theorem start (capacity : Nat) : (start capacity : DemandAccount ι).Conserved capacity where
  holds := Queue.Holds.empty capacity
  accepted_eq := rfl
  pendingDemand_eq := rfl
  short := fun _ hw => absurd hw List.not_mem_nil

theorem request (h : s.Conserved capacity) (timeout : Duration) (n : UInt64) :
    (s.perform timeout (.request n)).Conserved capacity := by
  obtain ⟨q, hq, hrequest⟩ := ManualPublisher.request_of_holds h.holds n
  have hqueued : (s.perform timeout (.request n)).queued =
      s.queued ++ if (s.publisher.request n).1.isNone then [n] else [] := by
    rw [queued, perform, hrequest]
    exact hq.elements_eq
  exact {
    holds := by
      rw [hqueued, perform, hrequest]
      exact hq
    accepted_eq := by
      rw [hqueued, perform, h.accepted_eq, List.append_assoc]
      rfl
    pendingDemand_eq := by
      rw [perform, hrequest]
      exact h.pendingDemand_eq
    short := h.short }

/-- An assertion takes the requests `ns` and leaves the requests `rest`. It counts what it has taken
unless its time has passed, and then it has taken too little of the demand expected, or nothing. -/
theorem withdraw (h : s.Conserved capacity) {use : DemandUse}
    {r : Except Violation UInt64 × ManualPublisher ι} {ns rest : List UInt64}
    (hqueued : s.queued = ns ++ rest) (hrest : r.2.requests.Holds capacity rest)
    (hcount : r.2.pendingDemand =
      if (⟨use, r.1, ns⟩ : Withdrawal).timedOut then s.publisher.pendingDemand
      else Demand.add s.publisher.pendingDemand (Demand.clamp (Demand.total ns)))
    (hshort : (⟨use, r.1, ns⟩ : Withdrawal).timedOut = true → ns ≠ [] →
      ∃ e, use = .expectDemand e ∧ Demand.total ns < e.toNat) :
    (s.withdraw use r).Conserved capacity := by
  have htaken : s.queued.take (s.publisher.requests.length - r.2.requests.length) = ns := by
    have hlength : s.publisher.requests.length = ns.length + rest.length := by
      rw [Queue.length, ← List.length_append, ← hqueued, queued]
    rw [hlength, Queue.length, hrest.elements_eq, Nat.add_sub_cancel, hqueued]
    exact List.take_left
  have hleft : (s.withdraw use r).queued = rest := hrest.elements_eq
  have hwithdrawals : (s.withdraw use r).withdrawals = s.withdrawals ++ [⟨use, r.1, ns⟩] := by
    rw [DemandAccount.withdraw, htaken]
  exact {
    holds := hleft.symm ▸ hrest
    accepted_eq := by
      rw [hleft, taken, hwithdrawals, List.flatMap_append, List.flatMap_singleton,
        List.append_assoc, ← hqueued]
      exact h.accepted_eq
    pendingDemand_eq := by
      have hpending : (s.withdraw use r).publisher.pendingDemand = r.2.pendingDemand := rfl
      rw [hpending, hcount, takenInTime, hwithdrawals, List.filter_append, List.flatMap_append,
        Demand.total_append, ← takenInTime]
      by_cases htime : (⟨use, r.1, ns⟩ : Withdrawal).timedOut = true
      · simpa [htime, Demand.total] using h.pendingDemand_eq
      · simp [htime, h.pendingDemand_eq, Demand.add_clamp]
    short := fun w hw => by
      rw [hwithdrawals, List.mem_append, List.mem_singleton] at hw
      rcases hw with hw | rfl
      · exact h.short w hw
      · exact hshort }

theorem expectRequest (h : s.Conserved capacity) (timeout : Duration) :
    (s.perform timeout .expectRequest).Conserved capacity := by
  have hholds := h.holds
  rw [perform]
  cases hqueued : s.queued with
  | nil =>
    rw [hqueued] at hholds
    rw [ManualPublisher.expectRequest_of_none hholds]
    have hsplit : s.queued = [] ++ [] := hqueued
    exact h.withdraw hsplit hholds rfl fun _ hne => absurd rfl hne
  | cons n ns =>
    rw [hqueued] at hholds
    obtain ⟨q, hq, hnow⟩ := ManualPublisher.expectRequest_of_first hholds timeout
    rw [hnow]
    have hsplit : s.queued = [n] ++ ns := hqueued
    have hone : Demand.total [n] = n.toNat := Nat.add_zero _
    refine h.withdraw hsplit hq ?_ fun htime => by simp [Withdrawal.timedOut] at htime
    simp [Withdrawal.timedOut, ManualPublisher.count, hone, Demand.clamp_toNat]

/-- Demand that is expected is taken, and counted if there is enough of it. -/
theorem expectDemand (h : s.Conserved capacity) (timeout : Duration) (e : UInt64) :
    (s.perform timeout (.expectDemand e)).Conserved capacity := by
  obtain ⟨q, hq, hdemand⟩ := ManualPublisher.expectDemand_of_holds h.holds timeout e
  have hqueued := (Demand.split_append e 0 s.queued).symm
  rw [perform, hdemand]
  by_cases hlt : Demand.clamp (Demand.total (Demand.split e 0 s.queued).1) < e
  · rw [if_pos hlt, ManualPublisher.demandVerdict, if_pos hlt]
    refine h.withdraw hqueued hq rfl fun _ _ => ⟨e, rfl, ?_⟩
    have := e.toNat_lt_size
    rw [UInt64.lt_iff_toNat_lt, Demand.toNat_clamp] at hlt
    omega
  · rw [if_neg hlt, ManualPublisher.demandVerdict, if_neg hlt]
    by_cases hgt : e < Demand.clamp (Demand.total (Demand.split e 0 s.queued).1)
    · rw [if_pos hgt]
      exact h.withdraw hqueued hq rfl fun htime => absurd htime Bool.false_ne_true
    · rw [if_neg hgt]
      exact h.withdraw hqueued hq rfl fun htime => absurd htime Bool.false_ne_true

theorem perform (h : s.Conserved capacity) (timeout : Duration) (u : DemandUse) :
    (s.perform timeout u).Conserved capacity := by
  cases u with
  | request n => exact h.request timeout n
  | expectRequest => exact h.expectRequest timeout
  | expectDemand e => exact h.expectDemand timeout e

end Conserved

/-- All demand is queued or counted, whatever is requested and asserted, up to that taken by
assertions on the demand that have found too little of it. -/
theorem conserved_run (capacity : Nat) (timeout : Duration) (uses : List DemandUse) :
    (run capacity timeout uses : DemandAccount ι).Conserved capacity :=
  List.foldlRecOn uses (perform timeout) (Conserved.start capacity)
    fun _ h u _ => h.perform timeout u

/-- An assertion that expects a demand of two, where one has been requested, takes the request and
does not count it. -/
theorem uncounted_of_short :
    ¬ ∀ (capacity : Nat) (timeout : Duration) (uses : List DemandUse),
      (run capacity timeout uses : DemandAccount Nat).publisher.pendingDemand =
        Demand.clamp (Demand.total (run capacity timeout uses : DemandAccount Nat).taken) := by
  intro h
  exact absurd (h 16 (.ofMillis 100) [.request 1, .expectDemand 2]) (by decide)

end DemandAccount

end StreamConformance
