import StreamConformance.Proofs.Helper.Supplier
import StreamConformance.Range.Helper

/-!
# The range publisher as a supplier

Without an end, a range publisher supplies all numbers one after the other, as long as it is asked
for one at a time. Unless it is empty, it rejects a second subscription as long as it has not
completed.

## Main definitions

* `Range.numbersFrom` — all numbers from a given one on.

## Main results

* `Range.helper_supplies`, `Range.helper_rejectsSecond` — the range publisher as a helper.
-/

namespace StreamConformance.Range

open Stream' (Seq)

variable {α : Type}

/-! ### Emitters that run until they are blocked -/

theorem Ledger.take_empty : empty.take = (.wait, empty) := by decide

theorem Ledger.take_request_one : (empty.request 1).take = (.emit, empty) := by decide

theorem Emitter.exists_patience_eq (count : UInt64) (l : Ledger) :
    ∃ fuel, patience count l = fuel + 4 := by
  refine ⟨patience count l - 4, ?_⟩
  rw [Nat.sub_add_cancel]
  exact Nat.le_add_right_of_le (by decide)

/-- Unless the range is empty, a new emitter comes to wait for demand. -/
theorem Activity.settle_start {count : UInt64} (hcount : count ≠ 0) (fuel : Nat) :
    settle count (fuel + 4) ⟨.empty, ⟨.empty, .start⟩, false⟩ =
      ⟨.empty, ⟨.empty, ⟨0, .awaiting⟩⟩, false⟩ := by
  simp [settle, step, Emitter.step, Emitter.start, Ledger.take_empty, hcount]

/-- An emitter without an end that waits for demand signals one number for a single request. -/
theorem Activity.settle_request_one (n : UInt64) (fuel : Nat) :
    settle Demand.unbounded (fuel + 4)
        ⟨.empty, ⟨Ledger.empty.request 1, ⟨n, .awaiting⟩⟩, false⟩ =
      ⟨Chronicle.empty.add (.next n), ⟨.empty, ⟨n + 1, .awaiting⟩⟩, false⟩ := by
  simp [settle, step, Emitter.step, Ledger.take_request_one, Ledger.take_empty]

/-- An emitter that waits for demand ends in silence when it is cancelled. -/
theorem Activity.settle_cancel (count n : UInt64) (fuel : Nat) :
    settle count (fuel + 4) ⟨.empty, ⟨Ledger.empty.cancel, ⟨n, .awaiting⟩⟩, false⟩ =
      ⟨.empty, ⟨Ledger.empty.cancel, ⟨n, .ended⟩⟩, true⟩ := by
  rfl

/-! ### The helper -/

section Helper

variable {π : Type} {item : UInt64 → α} {s : HelperState} {number : Nat} {n : UInt64}

/-- A new stream of a range that is not empty is set to wait for demand. -/
theorem withLedger_start {count : UInt64} (hcount : count ≠ 0)
    (hs : s.streams[number]? = some ⟨.empty, .start⟩) :
    (withLedger count item s number id : Emission α HelperState π) =
      .done { s with streams := s.streams.set number ⟨.empty, ⟨0, .awaiting⟩⟩ } := by
  obtain ⟨fuel, hfuel⟩ := Emitter.exists_patience_eq count .empty
  simp [withLedger, hs, hfuel, Activity.settle_start hcount]

/-- A stream without an end that waits for demand answers a single request with its next number. -/
theorem withLedger_request_one (hs : s.streams[number]? = some ⟨.empty, ⟨n, .awaiting⟩⟩) :
    (withLedger Demand.unbounded item s number (.request 1) : Emission α HelperState π) =
      .next (item n)
        (.done { s with streams := s.streams.set number ⟨.empty, ⟨n + 1, .awaiting⟩⟩ }) := by
  obtain ⟨fuel, hfuel⟩ := Emitter.exists_patience_eq Demand.unbounded (Ledger.empty.request 1)
  simp [withLedger, hs, hfuel, Activity.settle_request_one, emit]

theorem exists_withLedger_cancel (count : UInt64)
    (hs : s.streams[number]? = some ⟨.empty, ⟨n, .awaiting⟩⟩) :
    ∃ s', (withLedger count item s number .cancel : Emission α HelperState π) = .done s' := by
  obtain ⟨fuel, hfuel⟩ := Emitter.exists_patience_eq count Ledger.empty.cancel
  simp [withLedger, hs, hfuel, Activity.settle_cancel]

end Helper

/-- All numbers from `n` on, shown through `item`. -/
def numbersFrom (item : UInt64 → α) (n : UInt64) : Seq α :=
  Seq.ofStream ((Stream'.iterate (· + 1) n).map item)

theorem numbersFrom_eq_cons (item : UInt64 → α) (n : UInt64) :
    numbersFrom item n = .cons (item n) (numbersFrom item (n + 1)) := by
  rw [numbersFrom, Stream'.iterate_eq, Stream'.map_cons, Seq.ofStream_cons]
  rfl

/-- The first stream waits for demand, and all numbers from its next one on are left. -/
def AwaitsFrom (item : UInt64 → α) (values : Seq α) (s : HelperState) : Prop :=
  ∃ n, s.streams[0]? = some ⟨.empty, ⟨n, .awaiting⟩⟩ ∧ values = numbersFrom item n

theorem helper_serves (item : UInt64 → α) :
    (helper item Demand.unbounded).Serves 0 (AwaitsFrom item) where
  request := by
    rintro a values s ⟨n, hstream, hleft⟩
    rw [numbersFrom_eq_cons] at hleft
    obtain ⟨rfl, rfl⟩ := Seq.cons_injective2 hleft
    have hlength : 0 < s.streams.length := (List.getElem?_eq_some_iff.mp hstream).1
    exact ⟨_, ⟨n + 1, by simp [hlength], rfl⟩, .inl (withLedger_request_one hstream)⟩
  cancel := by
    rintro _ s ⟨n, hstream, -⟩
    exact exists_withLedger_cancel _ hstream

/-- A range publisher without an end supplies all numbers. -/
theorem helper_supplies (item : UInt64 → α) :
    (helper item Demand.unbounded).Supplies (numbersFrom item 0) :=
  ⟨0, AwaitsFrom item, _, _, helper_serves item, rfl, withLedger_start (by decide) rfl, 0, rfl, rfl⟩

/-- A range publisher that is not empty rejects a second subscription. -/
theorem helper_rejectsSecond (item : UInt64 → α) {count : UInt64} (hcount : count ≠ 0) :
    (helper item count).RejectsSecond := by
  let opened : HelperState := ⟨true, [⟨.empty, ⟨0, .awaiting⟩⟩], 0⟩
  let rejected : HelperState := ⟨true, opened.streams ++ [⟨.empty, ⟨0, .ended⟩⟩], 1⟩
  have hstream : rejected.streams[0]? = some ⟨.empty, ⟨0, .awaiting⟩⟩ := rfl
  obtain ⟨s, hcancel⟩ := exists_withLedger_cancel count hstream
  exact ⟨0, _, opened, 1, _, rejected, ⟨⟨.helper, 0⟩, duplicateCause⟩, rfl,
    withLedger_start hcount rfl, rfl, rfl, rfl, by decide, s, hcancel⟩

end StreamConformance.Range
