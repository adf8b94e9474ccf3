import StreamConformance.Probe.Blackbox

/-!
# Whitebox probes

A whitebox probe is a blackbox probe with a place for the puppet through which a test drives the
subscriber. The subscriber registers its puppet when it accepts a subscription; the first one stays.
-/

namespace StreamConformance

/-- The record of a subscriber's reports and its puppet, which is of type `π`. -/
structure WhiteboxProbe (α π : Type) where
  blackbox : BlackboxProbe α
  puppet : Promise π

namespace WhiteboxProbe

variable {α π : Type}

/-- An empty record. -/
def empty (capacity : Nat) : WhiteboxProbe α π := ⟨.empty capacity, .empty⟩

/-- Whether a puppet is registered. -/
def isRegistered (p : WhiteboxProbe α π) : Bool := p.puppet.isCompleted

/-- The violation of registering a second puppet. -/
def secondPuppet (subject : String) : Violation :=
  .illegalResubscription ("Subscriber " ++ subject ++ " illegally accepted a second Subscription")

/-- The subscriber registers a puppet. -/
def registerPuppet (subject : String) (puppet : π) (p : WhiteboxProbe α π) :
    Option Violation × WhiteboxProbe α π :=
  match p.puppet.complete puppet with
  | (.ok (), c) => (none, { p with puppet := c })
  | (.error _, _) => (some (secondPuppet subject), p)

/-- A report on the blackbox part. -/
def report (f : BlackboxProbe α → Option Violation × BlackboxProbe α) (p : WhiteboxProbe α π) :
    Option Violation × WhiteboxProbe α π :=
  let r := f p.blackbox
  (r.1, { p with blackbox := r.2 })

/-- An expectation on the blackbox part. -/
def onBlackbox {ρ : Type} (e : Expectation (BlackboxProbe α) ρ) :
    Expectation (WhiteboxProbe α π) ρ :=
  e.onPart blackbox fun p b => { p with blackbox := b }

/-- The complaint about a subscriber that does not register its puppet. -/
def notRegistered (subject : String) : String :=
  "Subscriber " ++ subject ++ " did not `registerOnSubscribe`"

/-- Expects the puppet. -/
def expectRegistration (subject : String) (timeout : Duration) :
    Expectation (WhiteboxProbe α π) π :=
  (Promise.completion timeout (notRegistered subject)).onPart puppet
    fun p c => { p with puppet := c }

end WhiteboxProbe

end StreamConformance
