import Mathlib.Data.List.Forall2
import StreamConformance.Proofs.Text.Reading
import StreamConformance.Report.Basic

/-!
# Reading reports

A report is read from its text by the names of the members. The outcome of an entry stands among the
other members of the entry, as a word and, unless the entry has passed, a reason. No member has the
name of another, and what is written can be read back: the text determines the report.

## Main definitions

* `Json.member?`, `Json.keys` — the members of an object by their names.
* `Report.Line.ofJson?`, `Report.ofJson?`, `Report.read?` — the entry or the report that is read.

## Main results

* `Report.Line.ofJson?_json` — what is written of an entry is read as the entry.
* `Report.Line.nodup_keys` — no name is given twice.
* `Report.Line.reason_mem_keys` — a reason is given unless the entry has passed.
* `Report.read_back` — reports are read back from their texts, however these are laid out, and so no
  two reports have the same text.
-/

namespace StreamConformance

/-! ### Members -/

namespace Json

/-- The value of the first member of a name. -/
def member? (name : String) : Json → Option Json
  | object members => members.lookup name
  | _ => none

/-- The names of the members. -/
def keys : Json → List String
  | object members => members.map Prod.fst
  | _ => []

/-- A value that is a text. -/
def text? : Json → Option String
  | text s => some s
  | _ => none

@[simp] theorem text?_text (s : String) : (text s).text? = some s := rfl

/-- The text that is the member of a name. -/
def textAt? (name : String) (j : Json) : Option String := (j.member? name).bind text?

/-- The number that is the member of a name. -/
def numberAt? (name : String) (j : Json) : Option Nat :=
  match j.member? name with
  | some (number n) => some n
  | _ => none

/-- The items of the list that is the member of a name. -/
def itemsAt? (name : String) (j : Json) : Option (List Json) :=
  match j.member? name with
  | some (list items) => some items
  | _ => none

theorem mapM_map_eq_some {α : Type} {write : α → Json} {read : Json → Option α}
    (h : ∀ a, read (write a) = some a) (items : List α) :
    (items.map write).mapM read = some items := by
  induction items with
  | nil => rfl
  | cons a rest ih => simp [h, ih]

end Json

/-! ### Words -/

/-- The disposition for which a word stands. -/
def Disposition.ofWord? : String → Option Disposition
  | "required" => some .required
  | "not_verified" => some .notVerified
  | _ => none

@[simp] theorem Disposition.ofWord?_word (d : Disposition) : ofWord? d.word = some d := by
  cases d <;> rfl

/-- The outcome for which a word stands with a reason or without one. -/
def Outcome.ofWord? : String → Option String → Option Outcome
  | "passed", none => some .passed
  | "failed", some reason => some (.failed reason)
  | "skipped", some reason => some (.skipped reason)
  | _, _ => none

@[simp] theorem Outcome.ofWord?_word (o : Outcome) : ofWord? o.word o.reason? = some o := by
  cases o <;> rfl

namespace Report

/-! ### Entries -/

/-- The entry that is read from a value. -/
def Line.ofJson? (j : Json) : Option Line := do
  let name ← j.textAt? "name"
  let rules ← (← j.itemsAt? "rules").mapM Json.text?
  let disposition ← Disposition.ofWord? (← j.textAt? "disposition")
  let outcome ← Outcome.ofWord? (← j.textAt? "outcome") (j.textAt? "reason")
  let millis ← j.numberAt? "duration_ms"
  return ⟨name, rules, disposition, outcome, millis⟩

namespace Line

variable (l : Line)

theorem keys_json : l.json.keys = ["name", "rules", "disposition", "outcome"] ++
    (if l.outcome.isPassed then [] else ["reason"]) ++ ["duration_ms"] := by
  rcases l with ⟨_, _, _, _ | _ | _, _⟩ <;> rfl

/-- No name is given twice. -/
theorem nodup_keys : l.json.keys.Nodup := by
  rw [keys_json]
  split <;> decide

/-- A reason is given unless the entry has passed. -/
theorem reason_mem_keys : "reason" ∈ l.json.keys ↔ l.outcome.isPassed = false := by
  rw [keys_json]
  cases l.outcome.isPassed <;> decide

theorem textAt?_reason : l.json.textAt? "reason" = l.outcome.reason? := by
  rcases l with ⟨_, _, _, _ | _ | _, _⟩ <;> rfl

theorem numberAt?_millis : l.json.numberAt? "duration_ms" = some l.millis := by
  rcases l with ⟨_, _, _, _ | _ | _, _⟩ <;> rfl

/-- What is written of an entry is read as the entry. -/
theorem ofJson?_json : ofJson? l.json = some l := by
  have hname : l.json.textAt? "name" = some l.name := rfl
  have hrules : l.json.itemsAt? "rules" = some (l.rules.map .text) := rfl
  have hrule : (l.rules.map Json.text).mapM Json.text? = some l.rules :=
    Json.mapM_map_eq_some Json.text?_text l.rules
  have hdisposition : l.json.textAt? "disposition" = some l.disposition.word := rfl
  have houtcome : l.json.textAt? "outcome" = some l.outcome.word := rfl
  simp only [ofJson?, hname, hrules, hrule, hdisposition, houtcome, textAt?_reason,
    numberAt?_millis, Disposition.ofWord?_word, Outcome.ofWord?_word,
    Option.bind_eq_bind, Option.bind_some, Option.pure_def]

end Line

/-! ### Reports -/

/-- The report that is read from a value. -/
def ofJson? (j : Json) : Option Report := do
  let subject ← j.textAt? "subject"
  let lines ← (← j.itemsAt? "rules").mapM Line.ofJson?
  return ⟨subject, lines⟩

/-- The report that is read from a text. -/
def read? (s : String) : Option Report := (Json.read? s).bind ofJson?

/-- The values of the entries in a text. -/
def entries? (s : String) : Option (List Json) := (Json.read? s).bind (·.itemsAt? "rules")

theorem ofJson?_json (r : Report) : ofJson? r.json = some r := by
  have hsubject : r.json.textAt? "subject" = some r.subject := rfl
  have hlines : r.json.itemsAt? "rules" = some (r.lines.map Line.json) := rfl
  simp only [ofJson?, hsubject, hlines, Json.mapM_map_eq_some Line.ofJson?_json,
    Option.bind_eq_bind, Option.bind_some, Option.pure_def]

section

variable {write : Json → String}

theorem read?_write (hwrite : Json.Writes write) (r : Report) : read? (write r.json) = some r := by
  rw [read?, Json.read?_write hwrite, Option.bind_some, ofJson?_json]

theorem entries?_write (hwrite : Json.Writes write) (r : Report) :
    entries? (write r.json) = some (r.lines.map Line.json) := by
  rw [entries?, Json.read?_write hwrite]
  rfl

/-- Every report is read back from its text, in which no entry gives a name twice and an entry gives
a reason unless it has passed. No other report has this text, in whatever way it is laid out. -/
theorem read_back (hwrite : Json.Writes write) (r : Report) :
    read? (write r.json) = some r ∧
    (∃ entries, entries? (write r.json) = some entries ∧ List.Forall₂ (fun j l =>
      j.keys.Nodup ∧ ("reason" ∈ j.keys ↔ l.outcome.isPassed = false)) entries r.lines) ∧
    ∀ write', Json.Writes write' → ∀ r' : Report, write' r'.json = write r.json → r' = r := by
  refine ⟨read?_write hwrite r, ⟨_, entries?_write hwrite r, ?keys⟩, ?unique⟩
  case keys =>
    rw [List.forall₂_map_left_iff, List.forall₂_same]
    exact fun l _ => ⟨l.nodup_keys, l.reason_mem_keys⟩
  case unique =>
    intro write' hwrite' r' htext
    have hread := (read?_write hwrite' r').symm.trans (htext ▸ read?_write hwrite r)
    exact Option.some.inj hread

end

/-- A report on an entry that has passed and on one that has failed with a reason of two lines. -/
def ofTwo : Report := ⟨"ränge", [⟨"first", ["2.1", "2.2"], .required, .passed, 3⟩,
  ⟨"second", [], .required, .failed "\"late\"\n\x01", 12⟩]⟩

theorem read_back_ofTwo : Json.Writes Json.compact ∧ Json.Writes Json.indented ∧
    ofTwo.json.compact = "\x7b\"subject\":\"ränge\",\"rules\":[\x7b\"name\":\"first\"," ++
      "\"rules\":[\"2.1\",\"2.2\"],\"disposition\":\"required\",\"outcome\":\"passed\"," ++
      "\"duration_ms\":3\x7d,\x7b\"name\":\"second\",\"rules\":[]," ++
      "\"disposition\":\"required\",\"outcome\":\"failed\"," ++
      "\"reason\":\"\\\"late\\\"\\n\\u0001\",\"duration_ms\":12\x7d]\x7d" ∧
    read? ofTwo.json.compact = some ofTwo ∧ read? ofTwo.json.indented = some ofTwo :=
  ⟨Json.writes_compact, Json.writes_indented, by cbv, (read_back Json.writes_compact ofTwo).1,
    (read_back Json.writes_indented ofTwo).1⟩

end Report

end StreamConformance
