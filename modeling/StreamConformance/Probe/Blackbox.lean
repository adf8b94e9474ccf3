import StreamConformance.Cell.Promise
import StreamConformance.Cell.Queue
import StreamConformance.StreamError

/-!
# Blackbox probes

A probe records the signals that a subscriber reports: elements and a completion in one queue, an
error in a cell, and which terminal signal came first. What does not fit the record is a violation,
which the caller logs.

## Main definitions

* `BlackboxProbe` — the record.
* `BlackboxProbe.registerNext`, `registerComplete`, `registerError` — what a subscriber reports.
* `BlackboxProbe.expectNext`, `expectElement`, `expectCompletion`, `expectError`, `expectErrorOf`,
  `expectErrorWithMessage`, `expectNone` — what can be asserted of the record.
-/

namespace StreamConformance

/-- Which terminal signal a probe has accepted. -/
inductive Terminal where
  | complete
  | error
  deriving DecidableEq, Inhabited

/-- The record of the signals that a subscriber reports. -/
structure BlackboxProbe (α : Type) where
  elements : Queue α
  error : Promise StreamError
  terminal : Option Terminal

namespace BlackboxProbe

variable {α : Type} [Element α]

/-- The name of a subscriber that is not known yet. -/
def unknownSubject : String := "<not yet subscribed>"

/-- An empty record. -/
def empty (capacity : Nat) : BlackboxProbe α := ⟨.empty capacity, .empty, none⟩

/-! ### Reports -/

/-- The violation of reporting an element after an error. -/
def elementAfterError (subject : String) (a : α) : Violation :=
  .protocol ("Subscriber " ++ subject ++ " called `registerOnNext(" ++ Element.debugText a ++
    ")` after `registerOnError`, which is illegal according to Rule 1.7")

/-- The violation of reporting an element that the queue refuses. -/
def elementRefused (subject : String) : Refusal → Violation
  | .alreadyCompleted =>
    .protocol ("Subscriber " ++ subject ++ " called `registerOnNext` after " ++
      "`registerOnComplete`, which is illegal according to Rule 1.7")
  | .overflow capacity =>
    .oversupply ("Subscriber " ++ subject ++ " registered more than " ++ toString capacity ++
      " elements that were never expected")

/-- The violation of reporting a completion after a terminal signal. -/
def completeAfter : Terminal → Violation
  | .error => .doubleTerminal
      "subscriber::onComplete was called after onError, which is illegal according to Rule 1.7"
  | .complete => .doubleTerminal
      "subscriber::onComplete was called a second time, which is illegal according to Rule 1.7"

/-- The violation of reporting an error after a terminal signal. -/
def errorAfter : Terminal → Violation
  | .complete => .doubleTerminal
      "subscriber::onError was called after onComplete, which is illegal according to Rule 1.7"
  | .error => .doubleTerminal
      "subscriber::onError was called a second time, which is illegal according to Rule 1.7"

/-- Queues a reported element. -/
def queueElement (subject : String) (a : α) (p : BlackboxProbe α) :
    Option Violation × BlackboxProbe α :=
  match p.elements.add a with
  | (.ok (), q) => (none, { p with elements := q })
  | (.error e, _) => (some (elementRefused subject e), p)

/-- The subscriber reports an element. -/
def registerNext (subject : String) (a : α) (p : BlackboxProbe α) :
    Option Violation × BlackboxProbe α :=
  if p.error.isCompleted then (some (elementAfterError subject a), p)
  else queueElement subject a p

omit [Element α] in
/-- The subscriber reports a completion; the first terminal signal wins. -/
def registerComplete (p : BlackboxProbe α) : Option Violation × BlackboxProbe α :=
  match p.terminal with
  | some t => (some (completeAfter t), p)
  | none => (none, { p with terminal := some .complete, elements := p.elements.complete.2 })

omit [Element α] in
/-- The subscriber reports an error; the first terminal signal wins. -/
def registerError (e : StreamError) (p : BlackboxProbe α) : Option Violation × BlackboxProbe α :=
  match p.terminal with
  | some t => (some (errorAfter t), p)
  | none => (none, { p with terminal := some .error, error := (p.error.complete e).2 })

/-! ### Assertions -/

omit [Element α] in
/-- An expectation on the queue of elements. -/
def onElements {ρ : Type} (e : Expectation (Queue α) ρ) : Expectation (BlackboxProbe α) ρ :=
  e.onPart elements fun p q => { p with elements := q }

omit [Element α] in
/-- An expectation on the error. -/
def onErrorCell {ρ : Type} (e : Expectation (Promise StreamError) ρ) :
    Expectation (BlackboxProbe α) ρ :=
  e.onPart error fun p c => { p with error := c }

omit [Element α] in
/-- Expects any element. -/
def expectNext (subject : String) (timeout : Duration) : Expectation (BlackboxProbe α) α :=
  onElements (Queue.next timeout
    ("Subscriber " ++ subject ++ " did not call `registerOnNext(_)`"))

/-- Expects the element `expected`; another one is taken all the same. -/
def expectElement (subject : String) (expected : α) (timeout : Duration) :
    Expectation (BlackboxProbe α) Unit :=
  (onElements (Queue.next timeout ("Subscriber " ++ subject ++
    " did not call `registerOnNext(" ++ Element.debugText expected ++ ")`"))).judge fun _ r =>
    match r with
    | .error v => .error v
    | .ok received =>
      if Element.same received expected then .ok ()
      else .error (.mismatch ("Subscriber " ++ subject ++ " called `registerOnNext(" ++
        Element.debugText received ++ ")` rather than `registerOnNext(" ++
        Element.debugText expected ++ ")`"))

/-- Expects the completion within `timeout`. If the time passes and an error has been reported, the
error is what is wrong. -/
def expectCompletionWithin (subject : String) (timeout : Duration) (message : String) :
    Expectation (BlackboxProbe α) Unit :=
  (onElements (Queue.completion timeout message)).judge fun p r =>
    match r, p.error.value with
    | .error (.timeout ..), some e =>
      .error (.mismatch ("Subscriber " ++ subject ++ " called `registerOnError(" ++ e.message ++
        ")` rather than `registerOnComplete()`"))
    | r, _ => r

/-- Expects the completion. -/
def expectCompletion (subject : String) (timeout : Duration) : Expectation (BlackboxProbe α) Unit :=
  expectCompletionWithin subject timeout
    ("Subscriber " ++ subject ++ " did not call `registerOnComplete()`")

omit [Element α] in
/-- Expects some error; `expected` describes it. If the time passes and a completion has been
reported, the completion is what is wrong. -/
def awaitError (subject expected : String) (timeout : Duration) :
    Expectation (BlackboxProbe α) StreamError :=
  (onErrorCell (Promise.completion timeout ("Subscriber " ++ subject ++
    " did not call `registerOnError(" ++ expected ++ ")`"))).judge fun p r =>
    match r with
    | .error (.timeout text waited) =>
      if p.elements.isCompleted then
        .error (.mismatch ("Subscriber " ++ subject ++ " called `registerOnComplete()` rather " ++
          "than `registerOnError(" ++ expected ++ ")`"))
      else .error (.timeout text waited)
    | r => r

/-- The mismatch of receiving one error rather than another. -/
def wrongError (subject received expected : String) : Violation :=
  .mismatch ("Subscriber " ++ subject ++ " called `registerOnError(" ++ received ++
    ")` rather than `registerOnError(" ++ expected ++ ")`")

omit [Element α] in
/-- Expects exactly the instance `expected`. -/
def expectError (subject : String) (expected : StreamError) (timeout : Duration) :
    Expectation (BlackboxProbe α) Unit :=
  (awaitError subject expected.message timeout).judge fun _ r =>
    match r with
    | .error v => .error v
    | .ok received =>
      if received.same expected then .ok ()
      else .error (wrongError subject received.message expected.message)

omit [Element α] in
/-- Expects an error of type `kind`. -/
def expectErrorOf (subject : String) (kind : Cause.Kind) (timeout : Duration) :
    Expectation (BlackboxProbe α) StreamError :=
  (awaitError subject kind.typeName timeout).judge fun _ r =>
    match r with
    | .error v => .error v
    | .ok received =>
      if received.isOf kind then .ok received
      else .error (wrongError subject received.message kind.typeName)

/-- The mismatch of an error of the right type without the required part in its message. -/
def missingPart (kind : Cause.Kind) (part : String) (received : StreamError) : Violation :=
  .mismatch ("Got expected error " ++ kind.typeName ++ " but missing message [" ++ part ++
    "], was: " ++ received.message)

omit [Element α] in
/-- Expects an error of type `kind` with `part` in its message. -/
def expectErrorWithMessage (subject : String) (kind : Cause.Kind) (part : String)
    (timeout : Duration) : Expectation (BlackboxProbe α) StreamError :=
  (expectErrorOf subject kind timeout).judge fun _ r =>
    match r with
    | .error v => .error v
    | .ok received =>
      if Text.occursIn part received.message then .ok received
      else .error (missingPart kind part received)

/-- Expects that no element and no completion has been reported or is reported in time. -/
def expectNone (within : Duration) : Expectation (BlackboxProbe α) Unit :=
  onElements (Queue.silence within "Expected nothing")

end BlackboxProbe

end StreamConformance
