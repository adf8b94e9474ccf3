import StreamConformance.Helper.Basic

/-!
# Scripted helpers

A scripted helper runs one script for each time that it is subscribed to, the last script being
repeated. A request on one of its subscriptions is answered at once with the next of its values.

## Main definitions

* `HelperAction`, `HelperScript` — what a script can say, and a scripted helper.
* `HelperScript.helper` — the publisher that follows a script.
-/

namespace StreamConformance

/-- What the script of a helper can say. -/
inductive HelperAction (α : Type) where
  /-- Offers a new subscription. -/
  | onSubscribe
  | onNext (a : α)
  | onComplete
  /-- Signals a new error. -/
  | onError (c : Cause)
  | panic (p : Panic)

/-- A scripted helper. -/
structure HelperScript (α : Type) where
  /-- The script for each time that it is subscribed to. -/
  subscribe : List (List (HelperAction α))
  /-- The values that requests are answered with. -/
  values : List α
  /-- Whether a completion follows the last value. -/
  completes : Bool

namespace HelperScript

variable {α : Type}

/-- A subscription of a scripted helper. -/
structure Stream where
  /-- The number of values sent. -/
  sent : Nat
  isCancelled : Bool

/-- What a scripted helper remembers. -/
structure State where
  /-- How often it has been subscribed to. -/
  calls : Nat
  /-- The subscriptions that it has offered. -/
  streams : List Stream
  /-- The number of errors made so far. -/
  errors : Nat

/-- A fresh memory. -/
def State.start : State := ⟨0, [], 0⟩

/-- A stream is cancelled. -/
def State.cancel (s : State) (number : Nat) : State :=
  { s with streams := s.streams.modify number fun t => { t with isCancelled := true } }

/-- The helper's standard answer to being subscribed to: a subscription, and an error each further
time. -/
def standardSubscribe : List (List (HelperAction α)) :=
  [[.onSubscribe], [.onSubscribe, .onError (.illegalState "Rule 2.12: duplicate")]]

/-- What a script does. -/
def play : List (HelperAction α) → State → Emission α State Panic
  | [], s => .done s
  | .onSubscribe :: rest, s =>
    let number := s.streams.length
    let s := { s with streams := s.streams ++ [⟨0, false⟩] }
    .offer number fun isKept => play rest (if isKept then s else s.cancel number)
  | .onNext a :: rest, s => .next a (play rest s)
  | .onComplete :: rest, s => .complete (play rest s)
  | .onError c :: rest, s =>
    .error ⟨⟨.helper, s.errors⟩, c⟩ (play rest { s with errors := s.errors + 1 })
  | .panic p :: _, s => .panic p s

/-- The script for being subscribed to after `count` earlier times. -/
def pick (scripts : List (List (HelperAction α))) (count : Nat) : List (HelperAction α) :=
  match scripts[count]? with
  | some s => s
  | none => scripts.getLast?.getD []

/-- The answer to a request for `n` elements. -/
def answer (script : HelperScript α) (s : State) (number : Nat) (n : UInt64) :
    Emission α State Panic :=
  match s.streams[number]? with
  | none => .done s
  | some stream =>
    if stream.isCancelled then .done s
    else
      let left := script.values.drop stream.sent
      let sent := left.take n.toNat
      let s := { s with
        streams := s.streams.set number { stream with sent := stream.sent + sent.length } }
      let isLast := !sent.isEmpty && sent.length == left.length
      .nexts sent (if script.completes && isLast then .complete (.done s) else .done s)

/-- The publisher that follows a script. -/
def helper (script : HelperScript α) : Helper α State where
  start := .start
  subscribe s := play (pick script.subscribe s.calls) { s with calls := s.calls + 1 }
  request := script.answer
  cancel s number := .done (s.cancel number)

end HelperScript

end StreamConformance
