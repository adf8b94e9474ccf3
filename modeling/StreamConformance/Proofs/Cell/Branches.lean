import StreamConformance.Cell.Promise
import StreamConformance.Proofs.Cell.BoundedSequence

/-!
# The branches of an expectation

After its wait an expectation looks at the cell once more and takes what the wait was for. Each of
these looks has a branch for the case that the thing is not there: behind a satisfied wait such a
branch would report that the time has passed, or that a queue has ended which has not. Written out
branch by branch, the expectations on promises and queues are what they are, and since a wait is
satisfied only if its predicate holds, none of them falls back on such a branch.

## Main definitions

* `Branch`, `Expectation.Branching` — the kinds of branches, and an expectation with its branches.
* `Promise.completionBranching`, `Queue.nextBranching`, `Queue.completionBranching`,
  `Queue.silenceBranching` — the expectations on promises and queues with their branches.

## Main results

* `Promise.take_completion` — the branches of an expectation on a promise.
* `Queue.readFront_cases`, `Queue.searchLine_cases` — the branches of those on a queue.
-/

namespace StreamConformance

/-- The kinds of branches by which an expectation ends. -/
inductive Branch where
  /-- The wait has been given up. -/
  | givenUp
  /-- What the wait was satisfied by is there. -/
  | regular
  /-- The wait was satisfied, but what it was satisfied by is not there. -/
  | fallback
  deriving DecidableEq

/-- What follows the wait of an expectation, with the branch that is taken. -/
structure Expectation.Branching {σ ρ : Type} (e : Expectation σ ρ) where
  take : Bool → σ → Branch × Except Violation ρ × σ
  take_snd : ∀ found s, (take found s).2 = e.finish found s

/-! ### Promises -/

namespace Promise

variable {α : Type}

/-- The expectation of a value with its branches: the value is looked for when there must be one. -/
def completionBranching (timeout : Duration) (message : String) :
    (completion timeout message : Expectation (Promise α) α).Branching where
  take found p :=
    if found then
      match p.value with
      | some a => (.regular, .ok a, p)
      | none => (.fallback, .error (.timeout message timeout), p)
    else (.givenUp, .error (.timeout message timeout), p)
  take_snd found p := by cases found <;> rcases p with ⟨_ | a⟩ <;> rfl

/-- After a wait that has found what there is, there is no value and the wait has been given up, or
the value is there. -/
theorem take_completion (timeout : Duration) (message : String) {p : Promise α} {found : Bool}
    (hfound : found = p.isCompleted) :
    (p.value = none ∧ (completionBranching timeout message).take found p =
      (.givenUp, .error (.timeout message timeout), p)) ∨
    ∃ a, p.value = some a ∧
      (completionBranching timeout message).take found p = (.regular, .ok a, p) := by
  subst hfound
  rcases p with ⟨_ | a⟩
  · exact .inl ⟨rfl, rfl⟩
  · exact .inr ⟨a, rfl, rfl⟩

end Promise

/-! ### The front of a queue -/

namespace Queue

variable {α ρ : Type}

/-- After a wait for something to stand in the queue, looks whether the end marker is at the front,
and otherwise takes from the front what must be an element. -/
def readFront (timeout : Duration) (message : String) (atEnd : Except Violation ρ)
    (atElement : α → Except Violation ρ) (found : Bool) (q : Queue α) :
    Branch × Except Violation ρ × Queue α :=
  if !found then (.givenUp, .error (.timeout message timeout), q)
  else
    match q.entries.head? with
    | some .endMarker => (.regular, atEnd, q)
    | _ =>
      match q.line.pop? with
      | some (.element a, rest) => (.regular, atElement a, { q with line := rest })
      | some (.endMarker, rest) =>
        (.fallback, .error (.timeout message timeout), { q with line := rest })
      | none => (.fallback, .error (.timeout message timeout), q)

section Front

variable (timeout : Duration) (message : String) (atEnd : Except Violation ρ)
  (atElement : α → Except Violation ρ) (q : Queue α)

theorem readFront_true : readFront timeout message atEnd atElement true q =
    match q.line.pop? with
    | some (.endMarker, _) => (.regular, atEnd, q)
    | some (.element a, rest) => (.regular, atElement a, { q with line := rest })
    | none => (.fallback, .error (.timeout message timeout), q) := by
  cases hpop : q.line.pop? with
  | none =>
    have hnone : q.entries = [] := Fifo.pop?_eq_none_iff.mp hpop
    simp [readFront, hnone, hpop]
  | some p =>
    obtain ⟨x, rest⟩ := p
    have hentries : q.entries = x :: rest.toList := Fifo.toList_of_pop? hpop
    cases x <;> simp [readFront, hentries, hpop]

/-- After a wait that has found what there is, the queue is empty and the wait has been given up, or
the end marker or an element is at the front. -/
theorem readFront_cases {found : Bool} (hfound : found = !q.line.isEmpty) :
    (q.entries = [] ∧ readFront timeout message atEnd atElement found q =
      (.givenUp, .error (.timeout message timeout), q)) ∨
    readFront timeout message atEnd atElement found q = (.regular, atEnd, q) ∨
    ∃ a rest, readFront timeout message atEnd atElement found q =
      (.regular, atElement a, { q with line := rest }) := by
  cases hempty : q.line.isEmpty with
  | true =>
    obtain rfl : found = false := by rw [hfound, hempty, Bool.not_true]
    exact .inl ⟨Fifo.isEmpty_iff.mp hempty, rfl⟩
  | false =>
    right
    obtain rfl : found = true := by rw [hfound, hempty, Bool.not_false]
    rw [readFront_true]
    cases hpop : q.line.pop? with
    | none =>
      have hnone := Fifo.isEmpty_iff.mpr (Fifo.pop?_eq_none_iff.mp hpop)
      rw [hempty] at hnone
      cases hnone
    | some p =>
      obtain ⟨_ | _, rest⟩ := p
      · exact .inr ⟨_, rest, rfl⟩
      · exact .inl rfl

theorem readFront_snd (found : Bool) : (readFront timeout message atEnd atElement found q).2 =
    if !found then (.error (.timeout message timeout), q)
    else
      match q.line.pop? with
      | some (.endMarker, _) => (atEnd, q)
      | some (.element a, rest) => (atElement a, { q with line := rest })
      | none => (.error (.timeout message timeout), q) := by
  cases found with
  | false => rfl
  | true =>
    rw [readFront_true]
    cases q.line.pop? with
    | none => rfl
    | some p => obtain ⟨_ | _, rest⟩ := p <;> rfl

/-- The expectation of an element with its branches. -/
def nextBranching : (next timeout message : Expectation (Queue α) α).Branching where
  take := readFront timeout message (.error (BoundedSequence.endForElement message)) .ok
  take_snd found q := readFront_snd timeout message _ _ q found

/-- The expectation of the end marker with its branches. -/
def completionBranching [Element α] :
    (completion timeout message : Expectation (Queue α) Unit).Branching where
  take := readFront timeout message (.ok ()) fun a =>
    .error (BoundedSequence.elementForEnd message a)
  take_snd found q := readFront_snd timeout message _ _ q found

end Front

/-! ### The line of a queue -/

variable [Element α]

/-- After a wait for an element or the end of the queue, looks for the place of an element in the
line and removes what stands there, which must be an element; if there is none the queue must have
ended. -/
def searchLine (message : String) (found : Bool) (q : Queue α) :
    Branch × Except Violation Unit × Queue α :=
  if !found then (.givenUp, .ok (), q)
  else
    match q.entries.findIdx? (·.element?.isSome) with
    | some place =>
      let rest := { q with line := .ofList (q.entries.eraseIdx place) }
      match q.entries[place]? with
      | some (.element a) =>
        (.regular, .error (BoundedSequence.elementForNothing message a), rest)
      | _ => (.fallback, .error (BoundedSequence.endForNothing message), rest)
    | none =>
      (if q.isCompleted then .regular else .fallback,
        .error (BoundedSequence.endForNothing message), q)

omit [Element α] in
/-- At the first place where there is an element stands the first element. -/
theorem element_of_findIdx? {queued : List (Queued α)} {place : Nat}
    (h : queued.findIdx? (·.element?.isSome) = some place) :
    ∃ a, queued[place]? = some (.element a) ∧ queued.findSome? Queued.element? = some a := by
  induction queued generalizing place with
  | nil => simp at h
  | cons x queued ih =>
    cases x with
    | element a =>
      obtain rfl : 0 = place := Option.some.inj h
      exact ⟨a, rfl, rfl⟩
    | endMarker =>
      rw [List.findIdx?_cons, if_neg (by simp [Queued.element?])] at h
      obtain ⟨place, hplace, rfl⟩ := Option.map_eq_some_iff.mp h
      exact ih hplace

/-- What is removed from the line is the first element, and otherwise the queue is as it was. -/
theorem searchLine_true (message : String) (q : Queue α) : searchLine message true q =
    match q.line.extract? Queued.element? with
    | some (a, rest) =>
      (.regular, .error (BoundedSequence.elementForNothing message a), { q with line := rest })
    | none => (if q.isCompleted then .regular else .fallback,
        .error (BoundedSequence.endForNothing message), q) := by
  cases hfind : q.entries.findIdx? (·.element?.isSome) with
  | none =>
    have hextract : q.line.extract? Queued.element? = none :=
      Fifo.extract?_eq_none_iff.mpr fun x hx => by
        simpa using List.findIdx?_eq_none_iff.mp hfind x hx
    simp [searchLine, hfind, hextract]
  | some place =>
    obtain ⟨a, hget, hfirst⟩ := element_of_findIdx? hfind
    have hextract : q.line.extract? Queued.element? =
        some (a, .ofList (q.entries.eraseIdx place)) := by
      have herase : q.entries.eraseP (·.element?.isSome) = q.entries.eraseIdx place := by
        rw [List.eraseP_eq_eraseIdx, hfind]
      rw [← herase, Fifo.extract?, show q.line.toList.findSome? _ = some a from hfirst]
      rfl
    simp [searchLine, hfind, hget, hextract]

/-- After a wait that has found what there is, there is neither an element nor an end and the wait
has been given up, or there is an element, or the queue has ended without one. -/
theorem searchLine_cases (message : String) {q : Queue α} {found : Bool}
    (hfound : found = ((q.entries.any (·.element?.isSome)) || q.isCompleted)) :
    (q.elements = [] ∧ q.isCompleted = false ∧
      searchLine message found q = (.givenUp, .ok (), q)) ∨
    (∃ (a : α) (rest : _), searchLine message found q =
      (.regular, .error (BoundedSequence.elementForNothing message a), { q with line := rest })) ∨
    (q.elements = [] ∧ q.isCompleted = true ∧
      searchLine message found q =
        (.regular, .error (BoundedSequence.endForNothing message), q)) := by
  have helements : (∀ x ∈ q.entries, x.element? = none) → q.elements = [] :=
    List.filterMap_eq_nil_iff.mpr
  cases found with
  | false =>
    obtain ⟨hnone, hopen⟩ := Bool.or_eq_false_iff.mp hfound.symm
    exact .inl ⟨helements (by simpa using hnone), hopen, rfl⟩
  | true =>
    right
    rw [searchLine_true]
    cases hextract : q.line.extract? Queued.element? with
    | some p => exact .inl ⟨p.1, p.2, rfl⟩
    | none =>
      have hnone := Fifo.extract?_eq_none_iff.mp hextract
      have hended : q.isCompleted = true := by
        refine ((Bool.or_eq_true ..).mp hfound.symm).resolve_left fun hsome => ?_
        obtain ⟨x, hx, hsome⟩ := List.any_eq_true.mp hsome
        rw [hnone x hx] at hsome
        cases hsome
      exact .inr ⟨helements hnone, hended, by rw [hended]; rfl⟩

/-- The expectation of nothing with its branches. -/
def silenceBranching (within : Duration) (message : String) :
    (silence within message : Expectation (Queue α) Unit).Branching where
  take := searchLine message
  take_snd found q := by
    cases found with
    | false => rfl
    | true =>
      rw [searchLine_true]
      simp only [silence]
      cases hextract : q.line.extract? Queued.element? <;> rfl

end Queue

end StreamConformance
