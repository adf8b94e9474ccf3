import StreamConformance.Rule.Catalog
import StreamConformance.Text.Json

/-!
# Reports

A report gives the outcome of each entry of a run, in the order in which the entries were run. A run
succeeds unless an entry that must be kept has failed.

## Main definitions

* `Report`, `Report.Line` — a report and what it says of one entry.
* `Report.ofRules`, `Report.ofCatalog` — run some entries, or all of them.
* `Report.json` — the report as JSON.
-/

namespace StreamConformance

namespace Report

/-- What a report says of one entry. -/
structure Line where
  name : String
  rules : List String
  disposition : Disposition
  outcome : Outcome
  /-- How long the entry has run, in milliseconds. -/
  millis : Nat
  deriving DecidableEq, Inhabited

end Report

/-- The outcomes of a run. -/
structure Report where
  /-- What has been verified. -/
  subject : String
  lines : List Report.Line
  deriving DecidableEq, Inhabited

namespace Report

/-! ### Reading a report -/

/-- Whether no entry that must be kept has failed. -/
def isSuccess (r : Report) : Bool :=
  r.lines.all fun l => !(l.disposition == .required && l.outcome.isFailure)

/-- The number of entries that have passed. -/
def passed (r : Report) : Nat := r.lines.countP (·.outcome.isPassed)

/-- The number of entries that have failed. -/
def failed (r : Report) : Nat := r.lines.countP (·.outcome.isFailure)

/-- The number of entries that have not been run. -/
def skipped (r : Report) : Nat := r.lines.countP (·.outcome.isSkipped)

/-- The first line of a name. -/
def line? (name : String) (r : Report) : Option Line := r.lines.find? fun l => l.name == name

/-! ### Making a report -/

variable {α σ η : Type}

/-- What a report says of an entry that has ended with an outcome on a run. -/
def Line.ofRun (e : Entry) (outcome : Outcome) (r : Run α σ η) : Line :=
  ⟨e.name, e.rules, e.disposition, outcome, r.elapsed.millis⟩

/-- Runs entries one after the other on one thread, which carries the given marks. -/
def linesOf (v : Verification α σ η) : Marks → List (Rule α σ η) → List Line
  | _, [] => []
  | marks, rule :: rest =>
    let d := rule.execute v marks
    .ofRun rule.toEntry d.1 d.2 :: linesOf v d.2.marks rest

/-- The report on some entries, run in order. -/
def ofRules (v : Verification α σ η) (subject : String) (rules : List (Rule α σ η)) : Report :=
  ⟨subject, linesOf v [] rules⟩

/-- The report on the whole catalog. -/
def ofCatalog [Element α] (v : Verification α σ η) (subject : String) : Report :=
  ofRules v subject Catalog.rules

/-! ### Writing a report -/

/-- A list of rules as JSON. -/
def rulesJson (rules : List String) : Json := .list (rules.map .text)

/-- A line as JSON; the reason is left out if there is none. -/
def Line.json (l : Line) : Json :=
  .object ([("name", .text l.name), ("rules", rulesJson l.rules),
      ("disposition", .text l.disposition.word), ("outcome", .text l.outcome.word)] ++
    (l.outcome.reason?.map fun reason => ("reason", Json.text reason)).toList ++
    [("duration_ms", .number l.millis)])

/-- The report as JSON. -/
def json (r : Report) : Json :=
  .object [("subject", .text r.subject), ("rules", .list (r.lines.map Line.json))]

end Report

end StreamConformance
