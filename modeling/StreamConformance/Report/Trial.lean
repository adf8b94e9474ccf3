import StreamConformance.Report.Basic

/-!
# Trials

The entries of the catalog as trials of a test runner: an entry that is only listed is an ignored
trial. A runner is given the trials and a selection, runs some of them and counts.

The last part holds a runner, which selects trials by their names and by whether they are ignored.

## Main definitions

* `Trial`, `Trial.ofCatalog` — the trials.
* `Selection` — which trials are to be run.
* `TrialRunner` — what a runner counts.
* `Tally.ofTrials` — the counts of a runner.
-/

namespace StreamConformance

/-- What a trial comes to if its entry ends with an outcome: only a failure is an error. -/
def Outcome.result : Outcome → Except String Unit
  | failed reason => .error reason
  | passed | skipped _ => .ok ()

/-- A test of a test runner. -/
structure Trial where
  name : String
  /-- Whether the trial is not run unless asked for. -/
  isIgnored : Bool
  /-- What running it comes to. -/
  result : Except String Unit

/-- The trials of the catalog. Each is run on a thread of its own. -/
def Trial.ofCatalog {α σ η : Type} [Element α] (v : Verification α σ η) : List Trial :=
  (Catalog.rules : List (Rule α σ η)).map fun rule =>
    ⟨rule.name, !rule.isRequired, (rule.execute v []).1.result⟩

/-- Which trials are to be run. -/
structure Selection where
  /-- Only trials with this text in their names. -/
  filter : Option String
  /-- No trial with one of these texts in its name. -/
  skip : List String
  /-- The texts must be the whole names. -/
  isExact : Bool
  /-- Only ignored trials, which are then run. -/
  onlyIgnored : Bool
  /-- Ignored trials are run too. -/
  withIgnored : Bool
  deriving DecidableEq, Inhabited

/-- The counts of a run of trials. -/
structure Tally where
  passed : Nat
  failed : Nat
  ignored : Nat
  filteredOut : Nat
  deriving DecidableEq, Inhabited

/-- A runner of trials: what it counts under a selection. -/
abbrev TrialRunner := Selection → List Trial → Tally

/-! ### A runner -/

namespace Selection

/-- Whether a name matches a text. -/
def matchesName (s : Selection) (pattern name : String) : Bool :=
  if s.isExact then name == pattern else Text.occursIn pattern name

/-- Whether a trial is selected at all. -/
def selects (s : Selection) (t : Trial) : Bool :=
  (s.filter.all fun f => s.matchesName f t.name) &&
    !(s.skip.any fun f => s.matchesName f t.name) && (!s.onlyIgnored || t.isIgnored)

/-- Whether a selected trial is run. -/
def runs (s : Selection) (t : Trial) : Bool := !t.isIgnored || s.onlyIgnored || s.withIgnored

end Selection

/-- The counts of running trials under a selection. -/
def Tally.ofTrials : TrialRunner := fun s trials =>
  let selected := trials.filter s.selects
  let run := selected.filter s.runs
  { passed := run.countP (·.result.isOk)
    failed := run.countP (!·.result.isOk)
    ignored := selected.length - run.length
    filteredOut := trials.length - selected.length }

end StreamConformance
