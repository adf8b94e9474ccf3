import StreamConformance.Chronicle
import StreamConformance.Helper.Basic
import StreamConformance.Range.Basic

/-!
# The range publisher as a helper

With a subscriber that never calls back from within a signal, the emitters of a range publisher
answer each call completely before the subscriber looks again: they run until they are blocked.

## Main definitions

* `Range.Activity.settle` — what an emitter does until it is blocked.
* `Range.helper` — the range publisher as a helper.
-/

namespace StreamConformance.Range

variable {α : Type}

/-- One subscription of the helper. -/
structure Stream where
  ledger : Ledger
  emitter : Emitter
  deriving DecidableEq, Inhabited

/-- The state of the helper. -/
structure HelperState where
  /-- Whether the subscriber is listed. -/
  isListed : Bool
  /-- The subscriptions offered so far; the inert ones have an emitter that has ended. -/
  streams : List Stream
  /-- The number of errors made so far. -/
  errors : Nat

/-- A state before any subscription. -/
def HelperState.start : HelperState := ⟨false, [], 0⟩

/-- What an emitter has done so far, with the stream that is left. -/
structure Activity where
  outputs : Chronicle Output
  stream : Stream
  /-- Whether the subscriber has been struck from the list. -/
  hasLeft : Bool

/-- Another step of the emitter, unless it is blocked. -/
def Activity.step (count : UInt64) (a : Activity) : Option Activity :=
  let t := a.stream
  match t.emitter.step count t.ledger with
  | .blocked => none
  | .silent e l => some { a with stream := ⟨l, e⟩ }
  | .signal o e => some { a with outputs := a.outputs.add o, stream := { t with emitter := e } }
  | .leave e => some { a with stream := { t with emitter := e }, hasLeft := true }

/-- Lets the emitter run until it is blocked, for at most `fuel` steps. -/
def Activity.settle (count : UInt64) : Nat → Activity → Activity
  | 0, a => a
  | fuel + 1, a =>
    match a.step count with
    | some a => settle count fuel a
    | none => a

/-- A signal of an emitter, before the rest; `errors` errors have been made so far. -/
def emit {π : Type} (item : UInt64 → α) (errors : Nat) (o : Output)
    (rest : Emission α HelperState π) : Emission α HelperState π :=
  match o with
  | .next n => .next (item n) rest
  | .complete => .complete rest
  | .invalid => .error ⟨⟨.helper, errors⟩, .nonPositiveRequest⟩ rest

/-- Changes the ledger of a stream and lets its emitter run. -/
def withLedger {π : Type} (count : UInt64) (item : UInt64 → α) (s : HelperState) (number : Nat)
    (f : Ledger → Ledger) : Emission α HelperState π :=
  match s.streams[number]? with
  | none => .done s
  | some t =>
    let t := { t with ledger := f t.ledger }
    let a := Activity.settle count (Emitter.patience count t.ledger) ⟨.empty, t, false⟩
    let outputs := a.outputs.toList
    outputs.foldr (emit item s.errors) (.done
      { isListed := s.isListed && !a.hasLeft
        streams := s.streams.set number a.stream
        errors := s.errors + outputs.count .invalid })

/-- The range publisher of `count` elements, shown through `item`, as a helper. -/
def helper (item : UInt64 → α) (count : UInt64) : Helper α HelperState where
  start := .start
  subscribe s :=
    let number := s.streams.length
    if s.isListed then
      let s := { s with
        streams := s.streams ++ [⟨.empty, ⟨0, .ended⟩⟩], errors := s.errors + 1 }
      .offer number fun _ => .error ⟨⟨.helper, s.errors - 1⟩, duplicateCause⟩ (.done s)
    else
      let s := { s with isListed := true, streams := s.streams ++ [⟨.empty, .start⟩] }
      .offer number fun isKept =>
        withLedger count item s number (if isKept then id else .cancel)
  request s number n := withLedger count item s number (.request n)
  cancel s number := withLedger count item s number .cancel

end StreamConformance.Range
