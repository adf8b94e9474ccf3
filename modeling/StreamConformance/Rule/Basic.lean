import StreamConformance.Run.Play

/-!
# Rules

An entry of the catalog covers some rules of the protocol. It is either verified by a scenario, or
listed because it cannot be verified from outside.

## Main definitions

* `Entry` — what is known of an entry without running it.
* `Rule` — an entry together with its scenario, if it has one.
* `Outcome`, `Rule.execute` — what comes of running an entry.
-/

namespace StreamConformance

/-- Whether an entry must be kept. -/
inductive Disposition where
  | required
  | notVerified
  deriving DecidableEq, Inhabited

/-- The word for a disposition in reports. -/
def Disposition.word : Disposition → String
  | .required => "required"
  | .notVerified => "not_verified"

/-- What is known of an entry of the catalog without running it. -/
structure Entry where
  /-- The name by which the entry is selected and reported. -/
  name : String
  /-- The rules of the protocol that the entry covers. -/
  rules : List String
  description : String
  disposition : Disposition
  deriving DecidableEq, Inhabited

namespace Entry

/-- Whether a failure of the entry counts. -/
def isRequired (e : Entry) : Bool := e.disposition == .required

/-- How the rules of the entry are named in front of a reason. -/
def label (e : Entry) : String :=
  if e.rules.isEmpty then "[setup]" else "[rule " ++ ", ".intercalate e.rules ++ "]"

end Entry

/-- A scenario for subjects with states of type `σ` and helpers with states of type `η`. -/
abbrev Scenario (α σ η : Type) := Verification α σ η → Play α σ η Unit

/-- An entry of the catalog with its scenario. -/
structure Rule (α σ η : Type) extends Entry where
  scenario : Option (Scenario α σ η)

/-- What comes of running an entry. -/
inductive Outcome where
  | passed
  | failed (reason : String)
  | skipped (reason : String)
  deriving DecidableEq, Inhabited

namespace Outcome

/-- Whether the entry has failed. -/
def isFailure : Outcome → Bool
  | failed _ => true
  | _ => false

/-- Whether the entry has passed. -/
def isPassed : Outcome → Bool
  | passed => true
  | _ => false

/-- Whether the entry has not been run. -/
def isSkipped : Outcome → Bool
  | skipped _ => true
  | _ => false

/-- The word for an outcome in reports. -/
def word : Outcome → String
  | passed => "passed"
  | failed _ => "failed"
  | skipped _ => "skipped"

/-- Why an entry has failed or has not been run. -/
def reason? : Outcome → Option String
  | passed => none
  | failed reason => some reason
  | skipped reason => some reason

end Outcome

/-- Why an entry without a scenario is not run. -/
def notVerifiedReason : String := "cannot be meaningfully tested"

namespace Rule

variable {α σ η : Type}

/-- The outcome of a scenario that has ended in a certain way on a run. A scenario that ends well
must also have left nothing in the log. -/
def judge (e : Entry) (ending : Except Halt Unit) (log : Log) : Outcome :=
  match ending with
  | .error (.violation x) => .failed (e.label ++ " " ++ x.message)
  | .error (.panic p) => .failed (e.label ++ " " ++ p.messageOr "scenario panicked")
  | .ok () =>
    match log.assertEmpty with
    | .ok () => .passed
    | .error x => .failed (e.label ++ " " ++ x.message)

/-- Runs an entry on a thread with the given marks: the outcome, and the run that is left. -/
def execute (v : Verification α σ η) (marks : Marks) (rule : Rule α σ η) :
    Outcome × Run α σ η :=
  let r := Run.start v marks
  match rule.scenario with
  | none => (.skipped notVerifiedReason, r)
  | some scenario =>
    let d := (scenario v).run r
    (judge rule.toEntry d.1 d.2.log, d.2)

end Rule

end StreamConformance
