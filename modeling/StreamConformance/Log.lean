import StreamConformance.Chronicle
import StreamConformance.Violation

/-!
# The log of violations

Violations noticed away from the test thread are recorded in a log, in order. Only clearing and
draining remove entries.
-/

namespace StreamConformance

/-- The violations recorded so far. -/
structure Log where
  recorded : Chronicle Violation
  deriving DecidableEq, Inhabited

namespace Log

/-- A log without entries. -/
def empty : Log := ⟨.empty⟩

/-- The violations recorded so far, in order. -/
def entries (l : Log) : List Violation := l.recorded.toList

/-- Records a violation. -/
def record (v : Violation) (l : Log) : Log := ⟨l.recorded.add v⟩

/-- Records a violation if there is one. -/
def recordAny (v : Option Violation) (l : Log) : Log :=
  match v with
  | some v => l.record v
  | none => l

/-- The entries, and the log without them. -/
def drain (l : Log) : List Violation × Log := (l.entries, empty)

/-- Fails with all entries if there are any, and keeps them. -/
def assertEmpty (l : Log) : Except Violation Unit :=
  if l.recorded.isEmpty then .ok () else .error (.async l.entries)

@[simp] theorem entries_empty : empty.entries = [] := rfl

@[simp] theorem entries_record (v : Violation) (l : Log) :
    (l.record v).entries = l.entries ++ [v] := by
  simp [entries, record]

@[simp] theorem entries_recordAny (v : Option Violation) (l : Log) :
    (l.recordAny v).entries = l.entries ++ v.toList := by
  cases v <;> simp [recordAny]

theorem assertEmpty_eq_ok_iff (l : Log) : l.assertEmpty = .ok () ↔ l.entries = [] := by
  simp [assertEmpty, entries, ← Chronicle.isEmpty_iff]

end Log

end StreamConformance
