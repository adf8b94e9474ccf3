import StreamConformance.Proofs.Probe.Record

/-!
# What assertions on a probe find

An assertion on a probe succeeds, or it finds something else than what it expects, or its time
passes. Which of the three it is can be told from the record of the probe alone, whatever has been
reported and asserted before: the elements that wait, the oldest first, and the terminal signal that
has been accepted. The probe keeps the terminal signal in two cells, and an assertion waits for one
of them only; when its time has passed it looks at the other one, so that a terminal signal of the
other kind is never taken for a signal that has not come.

## Main definitions

* `Finding` — the values with which an assertion succeeds, and when it does not.
* `ProbeRecord.Ending` — the terminal signal, with the cells in which the probe keeps it.
* `ProbeRecord.Classifies` — what each assertion on a probe finds.

## Main results

* `ProbeRecord.Describes.ending` — the record and the cells agree on the terminal signal.
* `ProbeUse.classifies_run` — what assertions find after any uses of a probe.
-/

namespace StreamConformance

variable {α π ρ : Type}

/-! ### Findings -/

/-- An assertion, which waits for `timeout` at most, succeeds with the values that satisfy
`succeeds`; it finds a mismatch, or its time passes, under the conditions given. -/
structure Finding (timeout : Duration) (answer : Except Violation ρ) (succeeds : ρ → Prop)
    (mismatches timesOut : Prop) : Prop where
  ok : ∀ a, answer = .ok a ↔ succeeds a
  mismatch : (∃ text, answer = .error (.mismatch text)) ↔ mismatches
  timeout : (∃ text, answer = .error (.timeout text timeout)) ↔ timesOut

namespace Finding

variable {timeout : Duration} {answer : Except Violation ρ} {succeeds : ρ → Prop}
  {mismatches timesOut : Prop}

theorem of_ok {a : ρ} (h : answer = .ok a) (hs : ∀ b, a = b ↔ succeeds b) (hm : ¬ mismatches)
    (ht : ¬ timesOut) : Finding timeout answer succeeds mismatches timesOut where
  ok b := by rw [h, ← hs, Except.ok.injEq]
  mismatch := iff_of_false (by simp [h]) hm
  timeout := iff_of_false (by simp [h]) ht

theorem of_mismatch {text : String} (h : answer = .error (.mismatch text))
    (hs : ∀ b, ¬ succeeds b) (hm : mismatches) (ht : ¬ timesOut) :
    Finding timeout answer succeeds mismatches timesOut where
  ok b := iff_of_false (by simp [h]) (hs b)
  mismatch := iff_of_true ⟨text, h⟩ hm
  timeout := iff_of_false (by simp [h]) ht

theorem of_timeout {text : String} (h : answer = .error (.timeout text timeout))
    (hs : ∀ b, ¬ succeeds b) (hm : ¬ mismatches) (ht : timesOut) :
    Finding timeout answer succeeds mismatches timesOut where
  ok b := iff_of_false (by simp [h]) (hs b)
  mismatch := iff_of_false (by simp [h]) hm
  timeout := iff_of_true ⟨text, h⟩ ht

theorem congr {succeeds' : ρ → Prop} {mismatches' : Prop}
    (h : Finding timeout answer succeeds mismatches timesOut)
    (hs : ∀ a, succeeds a ↔ succeeds' a) (hm : mismatches ↔ mismatches') :
    Finding timeout answer succeeds' mismatches' timesOut where
  ok a := (h.ok a).trans (hs a)
  mismatch := h.mismatch.trans hm
  timeout := h.timeout

/-- What is found where an assertion goes on: a value that satisfies `condition` is a success, as
`f` makes it, and every other value is a mismatch. -/
theorem select {ρ' : Type} {answer' : Except Violation ρ'}
    (h : Finding timeout answer succeeds mismatches timesOut) (condition : ρ → Bool) (f : ρ → ρ')
    (herror : ∀ v, answer = .error v → answer' = .error v)
    (hpass : ∀ a, answer = .ok a → condition a = true → answer' = .ok (f a))
    (hfail : ∀ a, answer = .ok a → condition a = false →
      ∃ text, answer' = .error (.mismatch text)) :
    Finding timeout answer' (fun b => ∃ a, succeeds a ∧ condition a = true ∧ f a = b)
      (mismatches ∨ ∃ a, succeeds a ∧ condition a = false) timesOut := by
  rcases answer with v | a
  · have hnone (a : ρ) : ¬ succeeds a := fun ha => by simpa using (h.ok a).mpr ha
    rw [herror v rfl]
    exact {
      ok := fun b => by simp [hnone]
      mismatch := by simpa [hnone] using h.mismatch
      timeout := by simpa using h.timeout }
  · have hsome (b : ρ) : succeeds b ↔ a = b := by rw [← h.ok, Except.ok.injEq]
    have hm : ¬ mismatches := by simp [← h.mismatch]
    have ht : ¬ timesOut := by simp [← h.timeout]
    cases hcondition : condition a with
    | true =>
      exact .of_ok (hpass a rfl hcondition) (by simp [hsome, hcondition])
        (by simp [hm, hsome, hcondition]) ht
    | false =>
      obtain ⟨text, hanswer⟩ := hfail a rfl hcondition
      exact .of_mismatch hanswer (by simp [hsome, hcondition]) (by simp [hsome, hcondition]) ht

end Finding

theorem BlackboxProbe.awaitError_now_snd (subject expected : String) (timeout : Duration)
    (p : BlackboxProbe α) : ((BlackboxProbe.awaitError subject expected timeout).now p).2 = p := by
  rw [BlackboxProbe.awaitError, Expectation.now_judge, BlackboxProbe.onErrorCell,
    Expectation.now_onPart]
  dsimp only
  rw [Promise.completion_now_snd]

namespace ProbeRecord

/-! ### The terminal signal and its cells -/

/-- The terminal signal of a record, with the two cells in which a probe keeps it. -/
inductive Ending (r : ProbeRecord α) (p : BlackboxProbe α) : Prop where
  | pending (hterminal : r.terminal = none) (hopen : p.elements.isCompleted = false)
      (hnone : p.error.value = none)
  | completed (hterminal : r.terminal = some .registerComplete)
      (hended : p.elements.isCompleted = true) (hnone : p.error.value = none)
  | failed (e : StreamError) (hterminal : r.terminal = some (.registerError e))
      (hopen : p.elements.isCompleted = false) (herror : p.error.value = some e)

namespace Describes

variable {r : ProbeRecord α} {capacity : Nat} {p : BlackboxProbe α}

/-- The record and the cells agree on the terminal signal. -/
theorem ending (h : r.Describes capacity p) : r.Ending p := by
  have hcompleted := h.consistent.completed
  have hfailed := h.consistent.failed
  have hterminals := h.terminals_eq
  rw [Promise.isCompleted] at hfailed
  rcases hmark : p.terminal with _ | _ | _ <;>
    rw [hmark] at hcompleted hfailed <;> rw [BlackboxProbe.terminals, hmark] at hterminals
  · exact .pending (by simpa using hterminals.symm) (by simpa using hcompleted)
      (by simpa using hfailed)
  · refine .completed ?_ (by simpa using hcompleted) (by simpa using hfailed)
    cases hc : r.terminal <;> simp_all
  · obtain ⟨e, herror⟩ := Option.isSome_iff_exists.mp (hfailed.mpr rfl)
    refine .failed e ?_ (by simpa using hcompleted) herror
    cases hc : r.terminal <;> simp_all

theorem view_eq (h : r.Describes capacity p) :
    p.elements.view = ⟨capacity, r.unconsumed, p.elements.isCompleted⟩ := by
  rw [Queue.view, h.capacity_eq, h.elements_eq]

/-! ### Assertions on elements and on the completion -/

section Elements

variable [Element α]

/-- An element is expected: the oldest one that waits is compared with it. -/
theorem expectElement (h : r.Describes capacity p) (subject : String) (a : α)
    (timeout : Duration) :
    Finding timeout ((BlackboxProbe.expectElement subject a timeout).now p).1
      (fun _ => r.unconsumed.head? = some a)
      ((∃ b, r.unconsumed.head? = some b ∧ b ≠ a) ∨
        r.unconsumed = [] ∧ r.terminal = some .registerComplete)
      (r.unconsumed = [] ∧ r.terminal ≠ some .registerComplete) := by
  have hnext (message : String) : ((Queue.next timeout message).now p.elements).1 =
      (p.elements.view.next timeout message).1 :=
    congrArg Prod.fst (h.consistent.ordered.next_view timeout message).1
  rw [BlackboxProbe.expectElement, Expectation.now_judge, BlackboxProbe.onElements,
    Expectation.now_onPart]
  dsimp only
  rw [hnext, h.view_eq]
  rcases hwaiting : r.unconsumed with _ | ⟨b, rest⟩
  · cases h.ending with
    | pending hterminal hopen =>
      rw [hopen]
      exact .of_timeout rfl (by simp) (by simp [hterminal]) (by simp [hterminal])
    | completed hterminal hended =>
      rw [hended]
      exact .of_mismatch rfl (by simp) (by simp [hterminal]) (by simp [hterminal])
    | failed e hterminal hopen =>
      rw [hopen]
      exact .of_timeout rfl (by simp) (by simp [hterminal]) (by simp [hterminal])
  · by_cases hsame : b = a
    · have hok : Element.same b a = true := (Element.same_iff b a).mpr hsame
      exact .of_ok (if_pos hok) (by simp [hsame]) (by simp [hsame]) (by simp)
    · have hnot : ¬ Element.same b a = true := mt (Element.same_iff b a).mp hsame
      exact .of_mismatch (if_neg hnot) (by simp [hsame]) (by simp [hsame]) (by simp)

/-- The completion is expected: an element in its place is taken, and an error that has been
accepted is what is wrong. -/
theorem expectCompletionWithin (h : r.Describes capacity p) (subject : String)
    (timeout : Duration) (message : String) :
    Finding timeout ((BlackboxProbe.expectCompletionWithin subject timeout message).now p).1
      (fun _ => r.unconsumed = [] ∧ r.terminal = some .registerComplete)
      (r.unconsumed ≠ [] ∨ ∃ e, r.terminal = some (.registerError e))
      (r.unconsumed = [] ∧ r.terminal = none) := by
  have hcompletion : ((Queue.completion timeout message).now p.elements).1 =
      (p.elements.view.completion timeout message).1 :=
    congrArg Prod.fst (h.consistent.ordered.completion_view timeout message).1
  rw [BlackboxProbe.expectCompletionWithin, Expectation.now_judge, BlackboxProbe.onElements,
    Expectation.now_onPart]
  dsimp only
  rw [hcompletion, h.view_eq]
  rcases hwaiting : r.unconsumed with _ | ⟨a, rest⟩
  · cases h.ending with
    | pending hterminal hopen hnone =>
      rw [hopen, hnone]
      exact .of_timeout rfl (by simp [hterminal]) (by simp [hterminal]) (by simp [hterminal])
    | completed hterminal hended hnone =>
      rw [hended, hnone]
      exact .of_ok (a := ()) rfl (by simp [hterminal]) (by simp [hterminal]) (by simp [hterminal])
    | failed e hterminal hopen herror =>
      rw [hopen, herror]
      exact .of_mismatch rfl (by simp [hterminal]) (by simp [hterminal]) (by simp [hterminal])
  · exact .of_mismatch rfl (by simp) (by simp) (by simp)

end Elements

/-! ### Assertions on the error -/

/-- Some error is expected: a completion that has been accepted is what is wrong. -/
theorem awaitError (h : r.Describes capacity p) (subject expected : String) (timeout : Duration) :
    Finding timeout ((BlackboxProbe.awaitError subject expected timeout).now p).1
      (fun e => r.terminal = some (.registerError e)) (r.terminal = some .registerComplete)
      (r.terminal = none) := by
  rw [BlackboxProbe.awaitError, Expectation.now_judge, BlackboxProbe.onErrorCell,
    Expectation.now_onPart]
  dsimp only
  cases h.ending with
  | pending hterminal hopen hnone =>
    rw [Promise.completion_of_none _ _ hnone, hopen]
    exact .of_timeout rfl (by simp [hterminal]) (by simp [hterminal]) hterminal
  | completed hterminal hended hnone =>
    rw [Promise.completion_of_none _ _ hnone, hended]
    exact .of_mismatch rfl (by simp [hterminal]) hterminal (by simp [hterminal])
  | failed e hterminal hopen herror =>
    rw [Promise.completion_eq_ok_iff.mpr ⟨herror, rfl⟩]
    exact .of_ok (a := e) rfl (by simp [hterminal]) (by simp [hterminal]) (by simp [hterminal])

theorem expectError (h : r.Describes capacity p) (subject : String) (expected : StreamError)
    (timeout : Duration) :
    Finding timeout ((BlackboxProbe.expectError subject expected timeout).now p).1
      (fun _ => ∃ e, r.terminal = some (.registerError e) ∧ e.same expected = true)
      (r.terminal = some .registerComplete ∨
        ∃ e, r.terminal = some (.registerError e) ∧ e.same expected = false)
      (r.terminal = none) := by
  rw [BlackboxProbe.expectError, Expectation.now_judge]
  dsimp only
  refine .congr ((h.awaitError subject expected.message timeout).select (·.same expected)
    (fun _ => ()) ?error ?same ?other) (by simp) Iff.rfl
  case error => intro v hv; rw [hv]
  case same => intro e he hsame; rw [he]; exact if_pos hsame
  case other => intro e he hsame; rw [he]; exact ⟨_, if_neg (by simp [hsame])⟩

theorem expectErrorOf (h : r.Describes capacity p) (subject : String) (kind : Cause.Kind)
    (timeout : Duration) :
    Finding timeout ((BlackboxProbe.expectErrorOf subject kind timeout).now p).1
      (fun e => r.terminal = some (.registerError e) ∧ e.isOf kind = true)
      (r.terminal = some .registerComplete ∨
        ∃ e, r.terminal = some (.registerError e) ∧ e.isOf kind = false)
      (r.terminal = none) := by
  rw [BlackboxProbe.expectErrorOf, Expectation.now_judge]
  dsimp only
  refine .congr ((h.awaitError subject kind.typeName timeout).select (·.isOf kind) id
    ?error ?same ?other) (by simp) Iff.rfl
  case error => intro v hv; rw [hv]
  case same => intro e he hkind; rw [he]; exact if_pos hkind
  case other => intro e he hkind; rw [he]; exact ⟨_, if_neg (by simp [hkind])⟩

theorem expectErrorWithMessage (h : r.Describes capacity p) (subject : String) (kind : Cause.Kind)
    (part : String) (timeout : Duration) :
    Finding timeout ((BlackboxProbe.expectErrorWithMessage subject kind part timeout).now p).1
      (fun e => r.terminal = some (.registerError e) ∧ e.isOf kind = true ∧
        Text.occursIn part e.message = true)
      (r.terminal = some .registerComplete ∨ ∃ e, r.terminal = some (.registerError e) ∧
        ¬ (e.isOf kind = true ∧ Text.occursIn part e.message = true))
      (r.terminal = none) := by
  rw [BlackboxProbe.expectErrorWithMessage, Expectation.now_judge]
  dsimp only
  refine .congr ((h.expectErrorOf subject kind timeout).select (Text.occursIn part ·.message) id
    ?error ?contained ?missing) ?success ?mismatch
  case success =>
    exact fun e => ⟨by rintro ⟨_, ⟨he, hkind⟩, hpart, rfl⟩; exact ⟨he, hkind, hpart⟩,
      fun ⟨he, hkind, hpart⟩ => ⟨e, ⟨he, hkind⟩, hpart, rfl⟩⟩
  case error => intro v hv; rw [hv]
  case contained => intro e he hpart; rw [he]; exact if_pos hpart
  case missing => intro e he hpart; rw [he]; exact ⟨_, if_neg (by simp [hpart])⟩
  case mismatch =>
    rw [or_assoc, ← exists_or]
    refine or_congr_right (exists_congr fun e => ?_)
    cases e.isOf kind <;> simp

end Describes

/-! ### Assertions after any uses -/

variable [Element α]

/-- What assertions on a probe find by its record: an assertion succeeds, finds a mismatch or passes
its time, and no two of these at once. -/
structure Classifies (r : ProbeRecord α) (capacity : Nat) (p : BlackboxProbe α) : Prop where
  /-- The record holds what the probe accepts: an element where there is room for it and no terminal
  signal yet, and the first terminal signal. -/
  acceptance : ∀ subject a, (p.registerNext subject a).1 = none ↔
    r.terminal = none ∧ r.unconsumed.length < capacity
  conclusion : ∀ e, (p.registerComplete.1 = none ↔ r.terminal = none) ∧
    ((p.registerError e).1 = none ↔ r.terminal = none)
  /-- An element is found if it is the oldest one that waits. Another one in its place is a
  mismatch, and so is the completion where no element waits; otherwise the time passes. -/
  element : ∀ subject a timeout,
    Finding timeout ((BlackboxProbe.expectElement subject a timeout).now p).1
      (fun _ => r.unconsumed.head? = some a)
      ((∃ b, r.unconsumed.head? = some b ∧ b ≠ a) ∨
        r.unconsumed = [] ∧ r.terminal = some .registerComplete)
      (r.unconsumed = [] ∧ r.terminal ≠ some .registerComplete)
  /-- The oldest element is taken, whether it is the one that was expected or not. -/
  elementTaken : ∀ subject a timeout,
    ({ r with unconsumed := r.unconsumed.tail } : ProbeRecord α).Describes capacity
      ((BlackboxProbe.expectElement subject a timeout).now p).2
  /-- The completion is found where no element waits and it has been accepted. An element in its
  place is a mismatch, and so is an error; the time passes where nothing at all has come. -/
  completion : ∀ subject timeout,
    Finding timeout ((BlackboxProbe.expectCompletion subject timeout).now p).1
      (fun _ => r.unconsumed = [] ∧ r.terminal = some .registerComplete)
      (r.unconsumed ≠ [] ∨ ∃ e, r.terminal = some (.registerError e))
      (r.unconsumed = [] ∧ r.terminal = none)
  /-- An element in the place of the completion is taken. -/
  completionTaken : ∀ subject timeout,
    ({ r with unconsumed := r.unconsumed.tail } : ProbeRecord α).Describes capacity
      ((BlackboxProbe.expectCompletion subject timeout).now p).2
  /-- An error is found if it is the same instance. Another one is a mismatch, and so is the
  completion; the time passes where no terminal signal has come. -/
  error : ∀ subject expected timeout,
    Finding timeout ((BlackboxProbe.expectError subject expected timeout).now p).1
      (fun _ => ∃ e, r.terminal = some (.registerError e) ∧ e.same expected = true)
      (r.terminal = some .registerComplete ∨
        ∃ e, r.terminal = some (.registerError e) ∧ e.same expected = false)
      (r.terminal = none)
  /-- An error of some type is found and returned if it is of that type. -/
  errorOf : ∀ subject kind timeout,
    Finding timeout ((BlackboxProbe.expectErrorOf subject kind timeout).now p).1
      (fun e => r.terminal = some (.registerError e) ∧ e.isOf kind = true)
      (r.terminal = some .registerComplete ∨
        ∃ e, r.terminal = some (.registerError e) ∧ e.isOf kind = false)
      (r.terminal = none)
  /-- An error with a part of a message is found and returned if it is of the type and its message
  contains the part. -/
  errorWithMessage : ∀ subject kind part timeout,
    Finding timeout ((BlackboxProbe.expectErrorWithMessage subject kind part timeout).now p).1
      (fun e => r.terminal = some (.registerError e) ∧ e.isOf kind = true ∧
        Text.occursIn part e.message = true)
      (r.terminal = some .registerComplete ∨ ∃ e, r.terminal = some (.registerError e) ∧
        ¬ (e.isOf kind = true ∧ Text.occursIn part e.message = true))
      (r.terminal = none)
  /-- No assertion on the error takes anything. -/
  errorsKept : ∀ subject expected kind part timeout,
    ((BlackboxProbe.expectError subject expected timeout).now p).2 = p ∧
      ((BlackboxProbe.expectErrorOf subject kind timeout).now p).2 = p ∧
      ((BlackboxProbe.expectErrorWithMessage subject kind part timeout).now p).2 = p

theorem Describes.classifies {r : ProbeRecord α} {capacity : Nat} {p : BlackboxProbe α}
    (h : r.Describes capacity p) : r.Classifies capacity p where
  acceptance subject a := (h.registerNext subject a).2
  conclusion e := ⟨h.registerComplete.2, (h.registerError e).2⟩
  element := h.expectElement
  elementTaken _ _ _ := h.next ..
  completion _ _ := h.expectCompletionWithin ..
  completionTaken _ _ := h.completion ..
  error := h.expectError
  errorOf := h.expectErrorOf
  errorWithMessage := h.expectErrorWithMessage
  errorsKept _ _ _ _ _ :=
    ⟨BlackboxProbe.awaitError_now_snd .., BlackboxProbe.awaitError_now_snd ..,
      BlackboxProbe.awaitError_now_snd ..⟩

end ProbeRecord

namespace ProbeUse

variable [Element α]

/-- After any uses of a probe, reports and assertions in any order, every assertion finds what the
record of the uses says. -/
theorem classifies_run (capacity : Nat) (timeout : Duration)
    (uses : List (Option String × ProbeUse α π)) :
    (ProbeRecord.run capacity (uses.map Prod.snd)).Classifies capacity
      (ProbeUse.run capacity timeout uses).blackbox :=
  (ProbeRecord.Describes.run capacity timeout uses).classifies

end ProbeUse

end StreamConformance
