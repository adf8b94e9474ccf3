import StreamConformance.Rule.Catalog
import StreamConformance.Subject.Specimen

/-!
# Traits of specimens

What sets the specimens apart: what they request of their own accord, when they accept a
subscription, after each element and in a terminal signal, and which entries of the catalog they
break.

## Main definitions

* `Specimen.greeting`, `Specimen.echo`, `Specimen.farewell` — what a specimen requests of its own
  accord.
* `Specimen.breaks` — the entries that a specimen breaks.
-/

namespace StreamConformance.Specimen

variable {α : Type}

/-- What a specimen requests when it accepts a subscription. -/
def greeting : Specimen → List UInt64
  | unbounded => [Demand.unbounded]
  | _ => []

/-- What a specimen requests after each element. -/
def echo : Specimen → List UInt64
  | echoing => [1]
  | _ => []

/-- What a specimen requests in a terminal signal. -/
def farewell : Specimen → List UInt64
  | reentrant => [1]
  | _ => []

/-- Of its own accord a specimen requests on one occasion only, and then once. -/
theorem length_greeting_add_le (k : Specimen) :
    k.greeting.length + k.echo.length + k.farewell.length ≤ 1 := by
  cases k <;> decide

theorem zero_notMem_greeting (k : Specimen) : 0 ∉ k.greeting := by cases k <;> decide

theorem zero_notMem_echo (k : Specimen) : 0 ∉ k.echo := by cases k <;> decide

/-- A specimen that requests anything when it is subscribed requests more than two elements. -/
theorem two_lt_of_mem_greeting {k : Specimen} {n : UInt64} (h : n ∈ k.greeting) : 2 < n := by
  cases k
  case unbounded =>
    obtain rfl := List.mem_singleton.mp h
    decide
  all_goals exact absurd h List.not_mem_nil

/-- Requests on a subscription from within a signal. -/
def requests (offer : Nat) (ns : List UInt64) : List (Lane × Call α) :=
  ns.map fun n => (.delivering, .request offer n)

@[simp] theorem requests_nil (offer : Nat) : (requests offer [] : List (Lane × Call α)) = [] := rfl

@[simp] theorem requests_cons (offer : Nat) (n : UInt64) (ns : List UInt64) :
    (requests offer (n :: ns) : List (Lane × Call α)) =
      (.delivering, .request offer n) :: requests offer ns := rfl

/-- Behind other requests there is a first one, and as many are left as there were before. -/
theorem exists_first_request (ns : List UInt64) (n : UInt64) :
    ∃ m ms, ns ++ [n] = m :: ms ∧ ms.length = ns.length := by
  cases ns with
  | nil => exact ⟨n, [], rfl, rfl⟩
  | cons m ms => exact ⟨m, ms ++ [n], rfl, by simp⟩

/-! ### Reactions -/

/-- A specimen that accepts a subscription requests its greeting, and registers a puppet unless it
is silent. -/
theorem acceptCalls_eq (k : Specimen) (offer : Nat) : (k.acceptCalls offer : List (Lane × Call α)) =
    requests offer k.greeting ++
      if k = silent then [] else [(.delivering, .registerPuppet offer)] := by
  cases k <;> rfl

theorem respond_onNext (k : Specimen) (offer : Nat) (a : α) :
    k.respond (some offer) (.onNext a) =
      ((.delivering, .registerNext a) :: requests offer k.echo, some offer) := by
  cases k <;> rfl

/-- A specimen that holds a subscription cancels another one, unless it is greedy. -/
theorem respond_onSubscribe {k : Specimen} (h : k ≠ greedy) (held offer : Nat) :
    (k.respond (some held) (.onSubscribe offer) : List (Lane × Call α) × Option Nat) =
      ([(.delivering, .cancel offer)], some held) := by
  cases k
  case greedy => exact absurd rfl h
  all_goals rfl

/-! ### The entries that a specimen breaks -/

/-- Whether the specimen breaks the rule that an entry covers. Silence breaks every entry whose
scenario needs a stage. -/
def breaks (k : Specimen) (e : Entry) : Bool :=
  match k with
  | reference | deferredReentrant => false
  | unbounded | echoing => e.rules == ["3.8"]
  | reentrant => e.rules == ["2.3"]
  | greedy => e.rules == ["2.5"]
  | silent => e.rules != ["2.3"] && e.rules != ["2.12"]

/-- A reentrant specimen breaks the two entries on reentrancy in terminal signals. -/
example : ((Catalog.entries.filter reentrant.breaks).filter Entry.isRequired).map (·.name) =
    ["required_spec203_must_not_call_methods_on_subscription_or_publisher_in_on_complete",
      "required_spec203_must_not_call_methods_on_subscription_or_publisher_in_on_error"] := by
  decide

/-- Silence breaks nine of the twelve entries that must be kept. -/
example : ((Catalog.entries.filter Entry.isRequired).length,
    ((Catalog.entries.filter silent.breaks).filter Entry.isRequired).length) = (12, 9) := by
  decide

end StreamConformance.Specimen
