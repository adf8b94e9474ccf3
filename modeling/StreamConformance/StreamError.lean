import StreamConformance.Refusal
import StreamConformance.Violation

/-!
# Errors carried by a stream

The error of an `onError` signal is an instance: two errors may have equal causes and still be
different instances. An instance is known by who made it and by a serial number.

## Main definitions

* `Cause`, `Cause.Kind` — what an error says, and its type.
* `StreamError` — an instance; `StreamError.same` compares instances, `StreamError.isOf` types.
-/

namespace StreamConformance

/-- What an error says. -/
inductive Cause where
  /-- A call that is illegal in the present state. -/
  | illegalState (text : String)
  /-- The error that scenarios signal on purpose. -/
  | testException
  /-- A request for no element at all. -/
  | nonPositiveRequest
  /-- A violation of the protocol. -/
  | violation (v : Violation)
  /-- A refused write. -/
  | slot (e : Refusal)
  deriving DecidableEq, Inhabited

namespace Cause

/-- The types of causes. -/
inductive Kind where
  | illegalState
  | testException
  | nonPositiveRequest
  | violation
  | slot
  deriving DecidableEq, Inhabited

/-- The full name of a type of cause, as it stands in messages. -/
def Kind.typeName : Kind → String
  | illegalState => "rstreams::IllegalStateError"
  | testException => "rstreams_tck::rules::TestException"
  | nonPositiveRequest => "rstreams_tck_conformance::range::NonPositiveRequest"
  | violation => "rstreams_tck::error::Violation"
  | slot => "rstreams_tck::error::SlotError"

/-- The type of a cause. -/
def kind : Cause → Kind
  | .illegalState _ => .illegalState
  | .testException => .testException
  | .nonPositiveRequest => .nonPositiveRequest
  | .violation _ => .violation
  | .slot _ => .slot

/-- The cause as a sentence. -/
def message : Cause → String
  | .illegalState text => "illegal state: " ++ text
  | .testException => "Test exception"
  | .nonPositiveRequest => "Rule 3.9: request must be called with a positive number of elements"
  | .violation v => v.message
  | .slot e => e.message

/-- The cause as a value. -/
def debugText : Cause → String
  | .illegalState text => "IllegalStateError(" ++ Text.quoted text ++ ")"
  | .testException => "TestException"
  | .nonPositiveRequest => "NonPositiveRequest"
  | .violation v => v.debugText
  | .slot e => e.debugText

end Cause

/-- Who makes an error. -/
inductive Maker where
  /-- The harness and its scenarios. -/
  | harness
  /-- A subscriber under test. -/
  | subject
  /-- A helper publisher. -/
  | helper
  deriving DecidableEq, Inhabited

/-- The identity of an error: its maker, and its number among the errors of that maker. -/
structure ErrorId where
  maker : Maker
  serial : Nat
  deriving DecidableEq, Inhabited

/-- An instance of an error. -/
structure StreamError where
  id : ErrorId
  cause : Cause
  deriving DecidableEq, Inhabited

namespace StreamError

/-- Whether two errors are the same instance. -/
def same (a b : StreamError) : Bool := a.id == b.id

/-- Whether the error is of type `k`. -/
def isOf (k : Cause.Kind) (e : StreamError) : Bool := e.cause.kind == k

/-- The error as a sentence. -/
def message (e : StreamError) : String := e.cause.message

/-- The error as a value. -/
def debugText (e : StreamError) : String := "StreamError(" ++ e.cause.debugText ++ ")"

/-- The text inside an illegal-state error. -/
def illegalStateText? (e : StreamError) : Option String :=
  match e.cause with
  | .illegalState text => some text
  | _ => none

end StreamError

end StreamConformance
