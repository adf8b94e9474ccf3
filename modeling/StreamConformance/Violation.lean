import StreamConformance.Duration
import StreamConformance.Text.Quoted

/-!
# Violations

What can be wrong with a run: an expected signal that did not come in time, a fault of one of six
kinds, or a collection of violations that were noticed away from the test thread.

## Main definitions

* `Fault`, `Violation` — the kinds of fault, and the violations.
* `Violation.kind`, `Violation.message`, `Violation.debugText` — the name of the kind, the sentence,
  and the value as text.
-/

namespace StreamConformance

/-- The kinds of fault that a sentence describes completely. -/
inductive Fault where
  /-- A signal with the wrong value, kind or type of error. -/
  | mismatch
  /-- A terminal signal after the first one. -/
  | doubleTerminal
  /-- A subscription called from within a terminal signal. -/
  | illegalReentrancy
  /-- A second subscription accepted where it must be refused. -/
  | illegalResubscription
  /-- More elements or more demand than was granted. -/
  | oversupply
  /-- Any other illegal sequence of calls. -/
  | protocol
  deriving DecidableEq, Inhabited

namespace Fault

/-- The name of the kind in reports. -/
def kind : Fault → String
  | mismatch => "mismatch"
  | doubleTerminal => "double-terminal"
  | illegalReentrancy => "illegal-reentrancy"
  | illegalResubscription => "illegal-resubscription"
  | oversupply => "oversupply"
  | protocol => "protocol"

/-- The name of the kind as a value. -/
def debugText : Fault → String
  | mismatch => "Mismatch"
  | doubleTerminal => "DoubleTerminal"
  | illegalReentrancy => "IllegalReentrancy"
  | illegalResubscription => "IllegalResubscription"
  | oversupply => "Oversupply"
  | protocol => "Protocol"

end Fault

/-- A violation of the protocol. -/
inductive Violation where
  /-- An expected signal did not come within `waited`. -/
  | timeout (text : String) (waited : Duration)
  /-- A fault that `text` describes. -/
  | fault (kind : Fault) (text : String)
  /-- Violations noticed away from the test thread, in the order of their recording. -/
  | async (inner : List Violation)
  deriving Inhabited

namespace Violation

/-- A signal with the wrong value, kind or type of error. -/
@[match_pattern] abbrev mismatch (text : String) : Violation := .fault .mismatch text

/-- A terminal signal after the first one. -/
@[match_pattern] abbrev doubleTerminal (text : String) : Violation := .fault .doubleTerminal text

/-- A subscription called from within a terminal signal. -/
@[match_pattern] abbrev illegalReentrancy (text : String) : Violation :=
  .fault .illegalReentrancy text

/-- A second subscription accepted where it must be refused. -/
@[match_pattern] abbrev illegalResubscription (text : String) : Violation :=
  .fault .illegalResubscription text

/-- More elements or more demand than was granted. -/
@[match_pattern] abbrev oversupply (text : String) : Violation := .fault .oversupply text

/-- Any other illegal sequence of calls. -/
@[match_pattern] abbrev protocol (text : String) : Violation := .fault .protocol text

mutual

/-- Equality of violations is decidable. -/
def decEq : (a b : Violation) → Decidable (a = b)
  | .timeout t w, .timeout t' w' =>
    if h : t = t' ∧ w = w' then isTrue (by rw [h.1, h.2])
    else isFalse fun e => h (by injection e with h₁ h₂; exact ⟨h₁, h₂⟩)
  | .fault k t, .fault k' t' =>
    if h : k = k' ∧ t = t' then isTrue (by rw [h.1, h.2])
    else isFalse fun e => h (by injection e with h₁ h₂; exact ⟨h₁, h₂⟩)
  | .async vs, .async vs' =>
    match decEqList vs vs' with
    | isTrue h => isTrue (by rw [h])
    | isFalse h => isFalse fun e => h (by injection e)
  | .timeout .., .fault .. => isFalse nofun
  | .timeout .., .async .. => isFalse nofun
  | .fault .., .timeout .. => isFalse nofun
  | .fault .., .async .. => isFalse nofun
  | .async .., .timeout .. => isFalse nofun
  | .async .., .fault .. => isFalse nofun

/-- Equality of lists of violations is decidable. -/
def decEqList : (vs ws : List Violation) → Decidable (vs = ws)
  | [], [] => isTrue rfl
  | [], _ :: _ => isFalse nofun
  | _ :: _, [] => isFalse nofun
  | v :: vs, w :: ws =>
    match decEq v w with
    | isFalse h => isFalse fun e => h (by injection e)
    | isTrue h =>
      match decEqList vs ws with
      | isTrue h' => isTrue (by rw [h, h'])
      | isFalse h' => isFalse fun e => h' (by injection e)

end

instance : DecidableEq Violation := decEq

/-- The name of the violation's kind in reports. -/
def kind : Violation → String
  | .timeout .. => "timeout"
  | .fault k _ => k.kind
  | .async _ => "async"

mutual

/-- The violation as a sentence. -/
def message : Violation → String
  | .timeout text waited => text ++ " (waited " ++ waited.text ++ ")"
  | .fault _ text => text
  | .async inner =>
    toString inner.length ++ " asynchronous violation(s): " ++ "; ".intercalate (messages inner)

/-- The sentences of a list of violations. -/
def messages : List Violation → List String
  | [] => []
  | v :: vs => message v :: messages vs

end

mutual

/-- The violation as a value. -/
def debugText : Violation → String
  | .timeout text waited =>
    "Timeout \x7b message: " ++ Text.quoted text ++ ", timeout: " ++ waited.text ++ " \x7d"
  | .fault k text => k.debugText ++ "(" ++ Text.quoted text ++ ")"
  | .async inner => "Async(" ++ Text.listed (debugTexts inner) ++ ")"

/-- The values of a list of violations. -/
def debugTexts : List Violation → List String
  | [] => []
  | v :: vs => debugText v :: debugTexts vs

end

theorem messages_eq_map (vs : List Violation) : messages vs = vs.map message := by
  induction vs with
  | nil => rfl
  | cons v vs ih => simp [messages, ih]

end Violation

end StreamConformance
