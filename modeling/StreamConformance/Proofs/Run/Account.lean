import StreamConformance.Proofs.Run.Calls

/-!
# Accounts of a callback

The account of a callback lists the calls that the subject makes in it, each with the violation that
it records, if any. What a delivery adds to the log is exactly what its account says.

## Main definitions

* `CallRecord` — a call with its objection.
* `Run.accountOf` — the account of a delivery.

## Main results

* `Run.log_deliver` — the log after a delivery.
* `Run.objection_of_mem_account` — when a call on a sentinel is objected to.
-/

namespace StreamConformance

/-- Whether the call is one on the subscription with this number. -/
def Call.isOn {α : Type} (number : Nat) : Call α → Bool
  | .request offer _ | .cancel offer => offer == number
  | _ => false

/-- The violation of a call on a sentinel from within the signal that it forbids. -/
def Sentinel.complaint {α : Type} (s : Sentinel) : Call α → Violation
  | .request .. => .illegalReentrancy ("Subscription::request MUST NOT be called from " ++
      s.forbidden.name ++ " (Rule 2.3)")
  | _ => .illegalReentrancy ("Subscriber::" ++ s.forbidden.name ++
      " MUST NOT call Subscription::cancel (Rule 2.3)")

/-- A call that the subject has made. -/
structure CallRecord (α : Type) where
  lane : Lane
  call : Call α
  /-- The violation that the call has recorded, if any. -/
  objection : Option Violation

namespace Run

variable {α σ η : Type} [Element α] (v : Verification α σ η)

/-- The violation that a call would record, if any: the entry that it adds to the log. -/
def objection (r : Run α σ η) (lane : Lane) (c : Call α) : Option Violation :=
  (r.perform v lane c).log.entries[r.log.entries.length]?

/-- Calls that are made one after the other, each with its objection. -/
def account : Run α σ η → List (Lane × Call α) → List (CallRecord α)
  | _, [] => []
  | r, (lane, c) :: calls =>
    ⟨lane, c, r.objection v lane c⟩ :: account (r.perform v lane c) calls

/-- The run in which the subject makes the calls with which it answers a stimulus. -/
def answering (r : Run α σ η) (s : Stimulus α) : Run α σ η :=
  let r := { r with subject := (v.subject.react r.subject s).state }
  match signalOf s with
  | none => r.note (.stimulated s)
  | some signal => ({ r with marks := Marks.enter signal r.marks }).note (.stimulated s)

/-- The account of the delivery of a stimulus. -/
def accountOf (r : Run α σ η) (s : Stimulus α) : List (CallRecord α) :=
  account v (r.answering v s) (v.subject.react r.subject s).calls

/-! ### The log -/

theorem log_perform (r : Run α σ η) (lane : Lane) (c : Call α) :
    (r.perform v lane c).log.entries = r.log.entries ++ (r.objection v lane c).toList := by
  obtain ⟨es, x, hx, -, h⟩ := perform_extends v r lane c
  have hlog := h.log
  rw [hx] at hlog
  rw [objection, hlog]
  cases x <;> simp

/-- Calls add their objections to the log, in the order of the calls. -/
theorem log_foldl_perform (calls : List (Lane × Call α)) (r : Run α σ η) :
    (calls.foldl (fun r c => r.perform v c.1 c.2) r).log.entries =
      r.log.entries ++ (account v r calls).filterMap CallRecord.objection := by
  induction calls generalizing r with
  | nil => simp [account]
  | cons c calls ih =>
    rw [List.foldl_cons, ih, log_perform, List.append_assoc]
    cases h : r.objection v c.1 c.2 <;> simp [account, h]

theorem log_stimulate (r : Run α σ η) (s : Stimulus α) :
    (r.stimulate v s).2.log = ((v.subject.react r.subject s).calls.foldl
      (fun r c => r.perform v c.1 c.2)
      (({ r with subject := (v.subject.react r.subject s).state } : Run α σ η).note
        (.stimulated s))).log := by
  simp only [stimulate]
  split <;> rfl

/-- A delivery adds the objections of its account to the log, and nothing else. -/
theorem log_deliver (r : Run α σ η) (s : Stimulus α) :
    (r.deliver v s).2.log.entries =
      r.log.entries ++ (r.accountOf v s).filterMap CallRecord.objection := by
  have hlog (r₀ : Run α σ η) : (r₀.stimulate v s).2.log.entries = r₀.log.entries ++ (account v
      (({ r₀ with subject := (v.subject.react r₀.subject s).state } : Run α σ η).note
        (.stimulated s)) (v.subject.react r₀.subject s).calls).filterMap
          CallRecord.objection := by
    rw [log_stimulate, log_foldl_perform]
    rfl
  cases hs : signalOf s with
  | none => simpa only [deliver_eq, accountOf, answering, hs] using hlog r
  | some signal =>
    simp only [deliver_eq, accountOf, answering, hs]
    exact hlog { r with marks := Marks.enter signal r.marks }

/-! ### Calls on a sentinel -/

omit [Element α] in
theorem getElem?_log_record (r : Run α σ η) (e : Event α) (x : Option Violation) :
    ((r.note e).record x).log.entries[r.log.entries.length]? = x := by
  cases x <;> simp

variable {v} {r : Run α σ η} {s : Sentinel}

/-- A call on a sentinel is objected to if and only if it is made on a thread on which the signal
that the sentinel forbids is being delivered. -/
theorem objection_of_sentinel (hr : r.offers = [.sentinel s]) (lane : Lane) {c : Call α}
    (hc : c.isOn 0 = true) :
    r.objection v lane c =
      if (r.marksOn lane).isActive s.forbidden then some (s.complaint c) else none := by
  cases c with
  | request offer n =>
    obtain rfl : offer = 0 := by simpa [Call.isOn] using hc
    simp only [objection, perform, hr, List.getElem?_cons_zero, requestOn]
    rw [getElem?_log_record]
    rfl
  | cancel offer =>
    obtain rfl : offer = 0 := by simpa [Call.isOn] using hc
    simp only [objection, perform, hr, List.getElem?_cons_zero, cancelOn]
    rw [getElem?_log_record]
    rfl
  | _ => simp [Call.isOn] at hc

/-- In an account every call on a sentinel is objected to if and only if it is made on the
delivering thread and that thread carries the mark of the forbidden signal. -/
theorem objection_of_mem_account (hr : r.offers = [.sentinel s]) {calls : List (Lane × Call α)}
    {c : CallRecord α} (hc : c ∈ account v r calls) (h0 : c.call.isOn 0 = true) :
    c.objection = if c.lane = .delivering ∧ r.marks.isActive s.forbidden = true then
      some (s.complaint c.call) else none := by
  induction calls generalizing r with
  | nil => simp [account] at hc
  | cons first calls ih =>
    rcases List.mem_cons.mp hc with rfl | hc
    · rw [objection_of_sentinel hr first.1 h0]
      cases first.1 <;> simp [marksOn, Marks.isActive]
    · obtain ⟨es, -, -, -, h⟩ := perform_extends v r first.1 first.2
      rw [ih (h.sameOffers.trans hr) hc, h.marks]

end Run

end StreamConformance
