import StreamConformance.Demand
import StreamConformance.StreamError

/-!
# The range publisher

A range publisher emits the numbers from zero up to a given count and then completes; the largest
64-bit word stands for a count without bound. Each subscription has an emitter of its own that runs
on its own thread: it waits for demand and signals one element for each unit. A list of active
subscribers serves to refuse a subscriber that subscribes while it is listed.

This module holds the parts, each step of an emitter being what it does in one critical section or
one callback.

## Main definitions

* `Range.Ledger` — the demand on one subscription, and `Ledger.take` the emitter's look at it.
* `Range.Emitter`, `Emitter.step` — an emitter and what it does next.
* `Range.Registry` — the list of active subscribers.
-/

namespace StreamConformance.Range

/-! ### Demand on a subscription -/

/-- The demand on one subscription. -/
structure Ledger where
  /-- The demand not yet met; the largest word is never used up. -/
  requested : UInt64
  isCancelled : Bool
  /-- Whether no element at all was requested at some time. -/
  isInvalid : Bool
  deriving DecidableEq, Inhabited

/-- What an emitter finds in the ledger. -/
inductive Verdict where
  /-- A unit of demand has been taken. -/
  | emit
  | cancelled
  | invalid
  /-- There is nothing to do yet. -/
  | wait
  deriving DecidableEq, Inhabited

namespace Ledger

/-- A ledger without demand. -/
def empty : Ledger := ⟨0, false, false⟩

/-- The subscriber requests `n` elements. -/
def request (n : UInt64) (l : Ledger) : Ledger :=
  if n = 0 then { l with isInvalid := true }
  else { l with requested := Demand.add l.requested n }

/-- The subscriber cancels. -/
def cancel (l : Ledger) : Ledger := { l with isCancelled := true }

/-- The emitter looks for a unit of demand. A cancellation comes first, then an invalid request. -/
def take (l : Ledger) : Verdict × Ledger :=
  if l.isCancelled then (.cancelled, l)
  else if l.isInvalid then (.invalid, l)
  else if 0 < l.requested then
    (.emit,
      if l.requested = Demand.unbounded then l else { l with requested := l.requested - 1 })
  else (.wait, l)

end Ledger

/-! ### Emitters -/

/-- Where an emitter stands. -/
inductive Phase where
  /-- Before the test for the end of the range. -/
  | testing
  /-- Before the look at the demand. -/
  | awaiting
  /-- A unit of demand is taken; the element is to be signalled. -/
  | delivering
  /-- The completion is to be signalled. -/
  | completing
  /-- The error for an invalid request is to be signalled. -/
  | failing
  /-- The subscriber is to be struck from the list. -/
  | leaving
  /-- Ended in good order. -/
  | ended
  /-- Unwound by a panic of the subscriber. -/
  | unwound
  deriving DecidableEq, Inhabited

/-- An emitter: the number to emit next, and where it stands. -/
structure Emitter where
  next : UInt64
  phase : Phase
  deriving DecidableEq, Inhabited

/-- A signal that an emitter delivers. -/
inductive Output where
  | next (n : UInt64)
  | complete
  /-- The error for an invalid request. -/
  | invalid
  deriving DecidableEq, Inhabited

/-- What an emitter does next. -/
inductive Move where
  /-- It cannot do anything until the ledger changes, or ever. -/
  | blocked
  /-- A step that nobody sees, which leaves a ledger. -/
  | silent (e : Emitter) (l : Ledger)
  /-- A callback of the subscriber, and the emitter once the callback has returned. -/
  | signal (o : Output) (e : Emitter)
  /-- The subscriber is struck from the list. -/
  | leave (e : Emitter)
  deriving DecidableEq, Inhabited

namespace Emitter

/-- An emitter that has emitted nothing. -/
def start : Emitter := ⟨0, .testing⟩

/-- Whether the emitter will do nothing any more. -/
def isOver (e : Emitter) : Bool := e.phase == .ended || e.phase == .unwound

/-- What the emitter of a range of `count` elements does next. -/
def step (count : UInt64) (l : Ledger) (e : Emitter) : Move :=
  match e.phase with
  | .testing =>
    if count ≠ Demand.unbounded ∧ count ≤ e.next then .silent { e with phase := .completing } l
    else .silent { e with phase := .awaiting } l
  | .awaiting =>
    match l.take with
    | (.emit, l) => .silent { e with phase := .delivering } l
    | (.cancelled, l) => .silent { e with phase := .leaving } l
    | (.invalid, l) => .silent { e with phase := .failing } l
    | (.wait, _) => .blocked
  | .delivering => .signal (.next e.next) ⟨e.next + 1, .testing⟩
  | .completing => .signal .complete { e with phase := .leaving }
  | .failing => .signal .invalid { e with phase := .leaving }
  | .leaving => .leave { e with phase := .ended }
  | .ended | .unwound => .blocked

/-- The emitter after a panic of the subscriber. -/
def unwind (e : Emitter) : Emitter := { e with phase := .unwound }

/-- The largest number of elements that is waited for. -/
def longest : Nat := 4194304

/-- How many steps an emitter is given at a time, in case that it is never blocked. Each element
takes three of them; that is enough for the whole range, or else for the demand on it, unless both
are too large to wait for. -/
def patience (count : UInt64) (l : Ledger) : Nat :=
  let due := if count.toNat ≤ longest then count.toNat else l.requested.toNat
  65536 + if due ≤ longest then 3 * due else 0

end Emitter

/-! ### The list of active subscribers -/

/-- The active subscribers of a publisher, in the order of their subscription. Subscribers are known
by identities of type `ι`. -/
structure Registry (ι : Type) where
  active : List ι
  deriving DecidableEq

namespace Registry

variable {ι : Type} [DecidableEq ι]

omit [DecidableEq ι] in
/-- Nobody is subscribed. -/
def empty : Registry ι := ⟨[]⟩

/-- Enters a subscriber, unless it is listed already; says whether it was entered. -/
def enroll (s : ι) (r : Registry ι) : Bool × Registry ι :=
  if s ∈ r.active then (false, r) else (true, ⟨r.active ++ [s]⟩)

/-- Strikes a subscriber from the list. -/
def strike (s : ι) (r : Registry ι) : Registry ι := ⟨r.active.filter (· ≠ s)⟩

end Registry

/-- The cause signalled to a subscriber that subscribes while it is listed. -/
def duplicateCause : Cause :=
  .illegalState "Rule 2.12: the same Subscriber must not subscribe more than once"

end StreamConformance.Range
