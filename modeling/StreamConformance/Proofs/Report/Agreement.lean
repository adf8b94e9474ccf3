import Mathlib.Data.List.Nodup
import StreamConformance.Proofs.Report.Arguments
import StreamConformance.Proofs.Report.Independence
import StreamConformance.Proofs.Specimen.Failures
import StreamConformance.Report.Trial

/-!
# Ways of running the catalog

The catalog is run as a report, as the trials of a test runner, and by the command line. All three
agree on what comes of each entry, and on whether anything has failed: the entries that are not run
are those that need not be kept, the entries are independent, and no two have the same name. The
runner of the trials and the reader of the arguments may be any that can be relied on.

## Main definitions

* `Selection.unfiltered`, `TrialRunner.Lawful` — all trials, with the ignored ones or without them,
  and a runner that runs them once each.
* `CommandLine.config`, `CommandLine.report` — what the command line runs, and its report on the
  whole catalog.

## Main results

* `TrialRunner.lawful_ofTrials` — the runner at hand is of this kind.
* `TrialRunner.Lawful.unfiltered`, `TrialRunner.Lawful.withIgnored` — the counts of the trials.
* `Report.isSuccess_ofRules` — a report succeeds if no entry fails.
* `Catalog.agreement` — the three ways agree.
-/

namespace StreamConformance

variable {α σ η : Type} {v : Verification α σ η}

/-! ### Outcomes -/

theorem Rule.isSkipped_execute (rule : Rule α σ η) (v : Verification α σ η) (marks : Marks) :
    (rule.execute v marks).1.isSkipped = rule.scenario.isNone := by
  cases hs : rule.scenario with
  | none => simp [execute, hs, Outcome.isSkipped]
  | some scenario =>
    rw [execute_of_scenario hs]
    unfold judge
    split
    · rfl
    · rfl
    · split <;> rfl

theorem Outcome.countP_add (outcomes : List Outcome) : outcomes.countP isPassed +
    outcomes.countP isFailure + outcomes.countP isSkipped = outcomes.length := by
  induction outcomes with
  | nil => rfl
  | cons o outcomes ih =>
    cases o <;> simp only [List.countP_cons, isPassed, isFailure, isSkipped, List.length_cons] <;>
      simp <;> omega

/-! ### Reports on entries of the catalog -/

section Reports

variable [Element α] {rules : List (Rule α σ η)} {subject : String}

theorem Report.lines_ofRules (hrules : ∀ rule ∈ rules, rule ∈ Catalog.rules) :
    (ofRules v subject rules).lines = rules.map fun rule =>
      .ofRun rule.toEntry (rule.execute v []).1 (rule.execute v []).2 :=
  linesOf_eq_map (fun rule hr => Catalog.keepsMarks_of_mem (hrules rule hr)) []

theorem Catalog.isRequired_of_isFailure {rule : Rule α σ η} (hr : rule ∈ Catalog.rules)
    {marks : Marks} (h : (rule.execute v marks).1.isFailure = true) : rule.isRequired = true := by
  rw [isRequired_of_mem hr]
  cases hs : rule.scenario with
  | none => simp [Rule.execute, hs, Outcome.isFailure] at h
  | some => rfl

/-- A report on entries of the catalog succeeds if and only if none of them fails. -/
theorem Report.isSuccess_ofRules (v : Verification α σ η) (subject : String)
    (hrules : ∀ rule ∈ rules, rule ∈ Catalog.rules) : (ofRules v subject rules).isSuccess = true ↔
      ∀ rule ∈ rules, (rule.execute v []).1.isFailure = false := by
  rw [isSuccess, lines_ofRules hrules, List.all_map, List.all_eq_true]
  refine forall₂_congr fun rule hr => ?_
  cases hfailed : (rule.execute v []).1.isFailure with
  | false => simp [Line.ofRun, hfailed]
  | true =>
    have hrequired : rule.disposition == .required :=
      Catalog.isRequired_of_isFailure (hrules rule hr) hfailed
    simp [Line.ofRun, hfailed, hrequired]

end Reports

/-! ### Trials -/

/-- All trials, with the ignored ones or without them. -/
def Selection.unfiltered (isExact withIgnored : Bool) : Selection :=
  ⟨none, [], isExact, false, withIgnored⟩

/-- A runner runs each trial once, the ignored ones only if asked for, and counts the errors as
failures. -/
structure TrialRunner.Lawful (runner : TrialRunner) : Prop where
  counts (isExact withIgnored : Bool) (trials : List Trial) :
    let run := trials.filter fun t => withIgnored || !t.isIgnored
    runner (.unfiltered isExact withIgnored) trials =
      ⟨run.countP (·.result.isOk), run.countP (!·.result.isOk), trials.length - run.length, 0⟩

namespace TrialRunner

theorem lawful_ofTrials : Lawful Tally.ofTrials where
  counts isExact withIgnored trials := by
    have hselects : trials.filter (Selection.unfiltered isExact withIgnored).selects = trials := by
      refine List.filter_eq_self.mpr fun t _ => ?_
      simp [Selection.selects, Selection.unfiltered]
    have hruns : (Selection.unfiltered isExact withIgnored).runs =
        fun t => withIgnored || !t.isIgnored := by
      funext t
      simp [Selection.runs, Selection.unfiltered, Bool.or_comm]
    simp only [Tally.ofTrials, hselects, hruns, Nat.sub_self]

end TrialRunner

theorem Outcome.isOk_result (o : Outcome) : o.result.isOk = !o.isFailure := by
  cases o <;> rfl

/-- A line of a report as a trial, which is ignored if the entry has not been run. -/
def Report.Line.trial (l : Line) : Trial := ⟨l.name, l.outcome.isSkipped, l.outcome.result⟩

namespace TrialRunner.Lawful

variable {runner : TrialRunner} (h : runner.Lawful) (isExact : Bool) (lines : List Report.Line)

include h

/-- Without the ignored trials those pass that pass as entries. -/
theorem unfiltered : runner (.unfiltered isExact false) (lines.map Report.Line.trial) =
    ⟨lines.countP (·.outcome.isPassed), lines.countP (·.outcome.isFailure),
      lines.countP (·.outcome.isSkipped), 0⟩ := by
  have hpassed (l : Report.Line) :
      (l.trial.result.isOk && (false || !l.trial.isIgnored)) = l.outcome.isPassed := by
    rcases l with ⟨_, _, _, _ | _ | _, _⟩ <;> rfl
  have hfailed (l : Report.Line) :
      (!l.trial.result.isOk && (false || !l.trial.isIgnored)) = l.outcome.isFailure := by
    rcases l with ⟨_, _, _, _ | _ | _, _⟩ <;> rfl
  have hskipped := List.length_eq_countP_add_countP (fun l : Report.Line => l.outcome.isSkipped)
    (l := lines)
  rw [h.counts]
  simp only [List.countP_filter, List.countP_map, Function.comp_def, hpassed, hfailed,
    List.length_map, ← List.countP_eq_length_filter]
  simp only [Report.Line.trial, Bool.false_or]
  simp only [Bool.not_eq_true, Bool.decide_eq_false] at hskipped
  congr 1
  omega

/-- The ignored trials pass as well. -/
theorem withIgnored : runner (.unfiltered isExact true) (lines.map Report.Line.trial) =
    ⟨lines.countP (·.outcome.isPassed) + lines.countP (·.outcome.isSkipped),
      lines.countP (·.outcome.isFailure), 0, 0⟩ := by
  have hrun : (lines.map Report.Line.trial).filter (fun t => true || !t.isIgnored) =
      lines.map Report.Line.trial := List.filter_eq_self.mpr fun _ _ => rfl
  have hlength := List.length_eq_countP_add_countP (fun l : Report.Line => l.outcome.isFailure)
    (l := lines)
  have houtcomes := Outcome.countP_add (lines.map (·.outcome))
  simp only [List.countP_map, Function.comp_def, List.length_map] at houtcomes
  simp only [Bool.not_eq_true, Bool.decide_eq_false] at hlength
  rw [h.counts]
  simp only [hrun, List.countP_map, Function.comp_def, Report.Line.trial, Outcome.isOk_result,
    Bool.not_not, Nat.sub_self]
  congr 1
  omega

end TrialRunner.Lawful

theorem Trial.ofCatalog_eq [Element α] (v : Verification α σ η) (subject : String) :
    Trial.ofCatalog v = (Report.ofCatalog v subject).lines.map Report.Line.trial := by
  rw [ofCatalog, Report.ofCatalog, Report.lines_ofRules fun _ hr => hr, List.map_map]
  refine List.map_congr_left fun rule hr => ?_
  have hignored : (!rule.isRequired) = (rule.execute v []).1.isSkipped := by
    rw [Catalog.isRequired_of_mem hr, Rule.isSkipped_execute]
    cases rule.scenario <;> rfl
  exact congrArg (fun isIgnored => Trial.mk rule.name isIgnored _) hignored

/-! ### Entries by their names -/

namespace Catalog

variable [Element α]

theorem nodup_names : ((rules : List (Rule α σ η)).map (·.name)).Nodup := by
  have hnames : (rules : List (Rule α σ η)).map (·.name) = entries.map (·.name) := by
    rw [entries, List.map_map]
    rfl
  rw [hnames]
  decide_cbv

theorem filter_name {rule : Rule α σ η} (hr : rule ∈ rules) :
    rules.filter (fun r : Rule α σ η => r.name == rule.name) = [rule] := by
  have hnodup := nodup_names (α := α) (σ := σ) (η := η)
  obtain ⟨before, after, hrules⟩ := List.append_of_mem hr
  rw [hrules, List.map_append, List.map_cons, List.nodup_middle, List.nodup_cons,
    ← List.map_append] at hnodup
  have hother : ∀ r ∈ before ++ after, ¬(r.name == rule.name) = true := by
    intro r hr' heq
    exact hnodup.1 (List.mem_map.mpr ⟨r, hr', beq_iff_eq.mp heq⟩)
  have hnone := List.filter_eq_nil_iff.mpr hother
  rw [List.filter_append, List.append_eq_nil_iff] at hnone
  rw [hrules, List.filter_append, List.filter_cons, hnone.1, hnone.2, beq_self_eq_true]
  rfl

end Catalog

/-- What a report on the catalog says of an entry is found by its name. -/
theorem Report.line?_name [Element α] (v : Verification α σ η) (subject : String)
    {rule : Rule α σ η} (hr : rule ∈ Catalog.rules) :
    (ofCatalog v subject).line? rule.name =
      some (.ofRun rule.toEntry (rule.execute v []).1 (rule.execute v []).2) := by
  rw [line?, ofCatalog, lines_ofRules fun _ hr => hr, List.find?_map]
  have hfind : Catalog.rules.find? (fun r : Rule α σ η => r.name == rule.name) = some rule := by
    rw [← List.head?_filter, Catalog.filter_name hr]
    rfl
  exact congrArg (Option.map _) hfind

/-! ### The command line -/

namespace CommandLine

/-- The configuration with which the command line runs entries. -/
def config (settings : Settings) (o : Options) : Config :=
  match o.timeout?.filter (0 < ·) with
  | some ms => (Config.ofSettings settings).withTimeout (.ofMillis ms)
  | none => .ofSettings settings

/-- The report on the whole catalog for what the command line verifies. -/
def report (settings : Settings) (o : Options) : Report :=
  .ofCatalog (o.subject.verification (config settings o)) o.subject.word

variable {tools : Toolkit} {settings : Settings} {arguments : List String} {o : Options}

theorem exitCode_runRules (rules : List (Rule UInt64 (Option Nat) Range.HelperState)) :
    (runRules tools settings o rules).exitCode =
      if (Report.ofRules (o.subject.verification (config settings o)) o.subject.word
        rules).isSuccess then 0 else 1 := rfl

/-- Running all entries exits as the report on the catalog succeeds. -/
theorem exitCode_all (hlist : o.list = false) (hcase : o.case? = none) (hall : o.all = true) :
    (execute tools settings o).exitCode = if (report settings o).isSuccess then 0 else 1 := by
  simp only [execute, hlist, hcase, hall, Bool.false_eq_true, if_false, if_true]
  exact exitCode_runRules _

/-- Running one entry exits as the report on the catalog says of this entry. -/
theorem exitCode_case {rule : Rule UInt64 (Option Nat) Range.HelperState}
    (hr : rule ∈ Catalog.rules) (hlist : o.list = false) (hcase : o.case? = some rule.name) :
    (execute tools settings o).exitCode =
      if ((report settings o).line? rule.name).any (·.outcome.isFailure) then 1 else 0 := by
  have hsingle : ∀ r ∈ [rule], r ∈ Catalog.rules := fun r h => List.mem_singleton.mp h ▸ hr
  simp only [execute, hlist, hcase, Bool.false_eq_true, if_false, Catalog.filter_name hr]
  rw [exitCode_runRules, report, Report.line?_name _ _ hr, Option.any_some]
  have hsuccess := Report.isSuccess_ofRules (o.subject.verification (config settings o))
    o.subject.word hsingle
  rw [List.forall_mem_singleton] at hsuccess
  cases hfailed : (rule.execute (o.subject.verification (config settings o)) []).1.isFailure with
  | false =>
    rw [if_pos (hsuccess.mpr hfailed)]
    simp [Report.Line.ofRun, hfailed]
  | true =>
    rw [hfailed] at hsuccess
    rw [if_neg fun h => nomatch hsuccess.mp h]
    simp [Report.Line.ofRun, hfailed]

theorem answer_eq (h : tools.read arguments = .ok o) :
    answer tools settings arguments = execute tools settings o := by
  rw [answer, h]

/-- A command line that asks for no list exits as the report on the whole catalog says. -/
theorem exitCode_answer (hread : tools.read arguments = .ok o) (hlist : o.list = false) :
    (o.case? = none → o.all = true → (answer tools settings arguments).exitCode =
      if (report settings o).isSuccess then 0 else 1) ∧
    ∀ rule ∈ (Catalog.rules : List (Rule UInt64 (Option Nat) Range.HelperState)),
      o.case? = some rule.name → ∃ line, (report settings o).line? rule.name = some line ∧
        (answer tools settings arguments).exitCode = if line.outcome.isFailure then 1 else 0 := by
  rw [answer_eq hread]
  refine ⟨fun hcase hall => exitCode_all hlist hcase hall, fun rule hr hcase => ?_⟩
  obtain hline := Report.line?_name (o.subject.verification (config settings o)) o.subject.word hr
  refine ⟨_, hline, ?_⟩
  rw [exitCode_case hr hlist hcase, report, hline]
  rfl

end CommandLine

/-! ### Agreement -/

namespace Catalog

/-- A thread that has run entries of the catalog has the marks of a new thread. -/
theorem foldl_marks [Element α] (v : Verification α σ η) {earlier : List (Rule α σ η)}
    (h : ∀ rule ∈ earlier, rule ∈ rules) :
    earlier.foldl (fun marks rule => (rule.execute v marks).2.marks) [] = [] := by
  induction earlier with
  | nil => rfl
  | cons rule earlier ih =>
    obtain ⟨hr, hrest⟩ := List.forall_mem_cons.mp h
    rw [List.foldl_cons, Rule.marks_execute (keepsMarks_of_mem hr) []]
    exact ih hrest

/-- The three ways of running the catalog agree, for every verification, whoever runs the trials and
reads the arguments.

The trials are the lines of a report, in the same order, and those are ignored that are not run. The
counts of all trials are those of the report, which add up to the number of entries; with the
ignored ones more trials pass. The report succeeds if and only if no trial fails. A thread that has
run entries runs the next one as a new thread does.

The command line exits as the report on what it verifies succeeds when it runs all entries, and as
the report says of the entry when it runs a single one. -/
theorem agreement {runner : TrialRunner} (hrunner : runner.Lawful) {tools : CommandLine.Toolkit}
    (htools : tools.Reads) :
    (∀ {α σ η : Type} [Element α] (v : Verification α σ η) (subject : String),
      (Trial.ofCatalog v).map Trial.name = (rules : List (Rule α σ η)).map (·.name) ∧
      Trial.ofCatalog v = (Report.ofCatalog v subject).lines.map (fun l =>
        ⟨l.name, l.outcome.isSkipped, l.outcome.result⟩) ∧
      (∀ isExact, runner (.unfiltered isExact false) (Trial.ofCatalog v) =
        ⟨(Report.ofCatalog v subject).passed, (Report.ofCatalog v subject).failed,
          (Report.ofCatalog v subject).skipped, 0⟩) ∧
      (Report.ofCatalog v subject).passed + (Report.ofCatalog v subject).failed +
        (Report.ofCatalog v subject).skipped = (rules : List (Rule α σ η)).length ∧
      (∀ isExact, runner (.unfiltered isExact true) (Trial.ofCatalog v) =
        ⟨(Report.ofCatalog v subject).passed + (Report.ofCatalog v subject).skipped,
          (Report.ofCatalog v subject).failed, 0, 0⟩) ∧
      ((Report.ofCatalog v subject).isSuccess = true ↔
        ∀ t ∈ Trial.ofCatalog v, t.result.isOk = true) ∧
      ∀ earlier : List (Rule α σ η), (∀ rule ∈ earlier, rule ∈ rules) →
        earlier.foldl (fun marks rule => (rule.execute v marks).2.marks) [] = []) ∧
    (∀ settings arguments o, tools.read arguments = .ok o → o.list = false →
      (o.case? = none → o.all = true → (CommandLine.answer tools settings arguments).exitCode =
        if (CommandLine.report settings o).isSuccess then 0 else 1) ∧
      ∀ rule ∈ (rules : List (Rule UInt64 (Option Nat) Range.HelperState)),
        o.case? = some rule.name → ∃ line,
          (CommandLine.report settings o).line? rule.name = some line ∧
            (CommandLine.answer tools settings arguments).exitCode =
              if line.outcome.isFailure then 1 else 0) ∧
    ∀ (settings : Settings) (o : Options), o.IsPlain → o.case? = none → o.list = false →
      (CommandLine.answer tools settings { o with all := true }.arguments).exitCode =
        (if (CommandLine.report settings o).isSuccess then 0 else 1) ∧
      ∀ rule ∈ (rules : List (Rule UInt64 (Option Nat) Range.HelperState)), ∃ line,
        (CommandLine.report settings o).line? rule.name = some line ∧
          (CommandLine.answer tools settings
            { o with case? := some rule.name }.arguments).exitCode =
            if line.outcome.isFailure then 1 else 0 := by
  refine ⟨fun v subject => ?trials,
    fun settings arguments o hread hlist => CommandLine.exitCode_answer hread hlist,
    fun settings o ho hcase hlist => ⟨?all, fun rule hr => ?single⟩⟩
  case trials =>
    have htrials := Trial.ofCatalog_eq v subject
    refine ⟨?_, htrials, fun isExact => htrials ▸ hrunner.unfiltered isExact _, ?_,
      fun isExact => htrials ▸ hrunner.withIgnored isExact _, ?_, fun earlier => foldl_marks v⟩
    · rw [Trial.ofCatalog, List.map_map]
      rfl
    · have hlength := Outcome.countP_add ((Report.ofCatalog v subject).lines.map (·.outcome))
      rw [List.countP_map, List.countP_map, List.countP_map, List.length_map] at hlength
      refine hlength.trans ?_
      rw [Report.ofCatalog, Report.lines_ofRules fun _ hr => hr, List.length_map]
    · rw [Report.ofCatalog, Report.isSuccess_ofRules v subject fun _ hr => hr, Trial.ofCatalog,
        List.forall_mem_map]
      simp only [Outcome.isOk_result, Bool.not_eq_true']
  case all =>
    have hread := htools.arguments { o with all := true } ⟨ho.case, ho.timeout⟩
    exact (CommandLine.exitCode_answer hread hlist).1 hcase rfl
  case single =>
    have hplain : Options.IsPlain { o with case? := some rule.name } :=
      ⟨by rintro _ ⟨⟩; exact Options.isPlainText_name hr, ho.timeout⟩
    have hread := htools.arguments _ hplain
    exact (CommandLine.exitCode_answer hread hlist).2 rule hr rfl

/-- A subject that calls back during a completion fails the entry on completions: one trial or more
fails, and the command line exits with an error, whether it runs this entry or all of them. -/
theorem agreement_reentrant :
    let settings : Settings := fun _ => none
    let tools := CommandLine.standard
    let v := Specimen.reentrant.verification (Config.ofSettings settings)
    TrialRunner.Lawful Tally.ofTrials ∧ tools.Reads ∧
    ∃ rule ∈ (rules : List (Rule UInt64 (Option Nat) Range.HelperState)), rule.rules = ["2.3"] ∧
      0 < (Tally.ofTrials (.unfiltered false false) (Trial.ofCatalog v)).failed ∧
      (CommandLine.answer tools settings ["--all", "--subject", "reentrant"]).exitCode = 1 ∧
      (CommandLine.answer tools settings
        ["--case", rule.name, "--subject", "reentrant"]).exitCode = 1 := by
  intro settings tools v
  refine ⟨TrialRunner.lawful_ofTrials, CommandLine.standard_reads, ?_⟩
  obtain ⟨rule, hr, hrule, hfailed⟩ : ∃ rule ∈ rules, rule.rules = ["2.3"] ∧
      (rule.execute v []).1.isFailure = true := by
    refine ⟨_, List.mem_of_getElem? (i := 3) rfl, rfl, ?_⟩
    exact Rule.isFailure_of_endsAs rfl
      (Specimen.terminalReentrancy_endsAs (k := .reentrant) rfl (by decide) .complete)
  obtain ⟨hreports, -, hexits⟩ :=
    agreement TrialRunner.lawful_ofTrials CommandLine.standard_reads
  let o : Options := { Options.unset with subject? := some .reentrant }
  obtain ⟨hall, hsingle⟩ := hexits settings o ⟨nofun, rfl⟩ rfl rfl
  obtain ⟨line, hline, hexit⟩ := hsingle rule hr
  have hmem : line ∈ (Report.ofCatalog v "reentrant").lines := List.mem_of_find?_eq_some hline
  have hfails : line.outcome.isFailure = true := by
    obtain rfl := Option.some.inj (hline.symm.trans (Report.line?_name v "reentrant" hr))
    exact hfailed
  obtain ⟨-, -, hcounts, -, -, hsuccess, -⟩ := hreports v "reentrant"
  have hfailures : 0 < (Report.ofCatalog v "reentrant").failed :=
    List.countP_pos_iff.mpr ⟨line, hmem, hfails⟩
  have hfailed' : (Tally.ofTrials (.unfiltered false false) (Trial.ofCatalog v)).failed =
      (Report.ofCatalog v "reentrant").failed := by rw [hcounts]
  refine ⟨rule, hr, hrule, Nat.lt_of_lt_of_eq hfailures hfailed'.symm, ?_,
    hexit.trans (if_pos hfails)⟩
  · refine hall.trans (if_neg fun h => ?_)
    have hpassed := hsuccess.mp h _ (List.mem_map_of_mem hr)
    simp [Outcome.isOk_result, hfailed] at hpassed

end Catalog

end StreamConformance
