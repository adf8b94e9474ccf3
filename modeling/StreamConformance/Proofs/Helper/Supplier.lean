import Mathlib.Data.Seq.Basic
import StreamConformance.Helper.Script

/-!
# Suppliers

A supplier answers demand at once with the next of its values, perhaps infinitely many, and may
complete when there are no more. A helper that keeps rule 2.12 offers a subscription to a subscriber
that is subscribed already and then rejects it with an error.

## Main definitions

* `Helper.Serves` — the states of a helper tell which values are left for a subscription.
* `Helper.Supplies` — a helper supplies a sequence of values.
* `Helper.RejectsSecond` — a helper rejects a second subscription of its subscriber.
* `Helper.RejectsDuplicate` — the same, whether or not it offers further subscriptions before.

## Main results

* `Helper.Serves.of_answers` — a helper that answers every request with the next values serves them.
* `Helper.RejectsSecond.rejectsDuplicate` — one further offer is such a rejection.
* `HelperScript.supplies`, `HelperScript.rejectsSecond` — scripted helpers do both.
-/

namespace StreamConformance

open Stream' (Seq)

variable {α η : Type}

/-- A subscriber that refuses all offers sees nothing but the error `e`, and the helper is left in
the state `s`. -/
inductive Emission.Rejects {π : Type} (e : StreamError) (s : η) : Emission α η π → Prop
  | error : Rejects e s (.error e (.done s))
  | offer {number : Nat} {rest : Bool → Emission α η π} (h : Rejects e s (rest false)) :
    Rejects e s (.offer number rest)

namespace Helper

/-- The helper answers a request for one element with the next of the values that are left in its
state, and if that is the last one it may complete. A cancellation is quiet. Nothing is said of
other requests, which the harness does not make. -/
structure Serves (h : Helper α η) (number : Nat) (Left : Seq α → η → Prop) : Prop where
  request : ∀ {a : α} {values : Seq α} {s : η}, Left (.cons a values) s → ∃ s', Left values s' ∧
    (h.request s number 1 = .next a (.done s') ∨
      values = .nil ∧ h.request s number 1 = .next a (.complete (.done s')))
  cancel : ∀ {values : Seq α} {s : η}, Left values s → ∃ s', h.cancel s number = .done s'

/-- A fresh helper that is subscribed to offers a subscription, and then serves the values. -/
def Supplies (h : Helper α η) (values : Seq α) : Prop :=
  ∃ number Left rest s, h.Serves number Left ∧ h.subscribe h.start = .offer number rest ∧
    rest true = .done s ∧ Left values s

/-- A fresh helper that is subscribed to offers a subscription. When it is subscribed to once more
it offers another one, and then signals an illegal state that names rule 2.12. -/
def RejectsSecond (h : Helper α η) : Prop :=
  ∃ number rest s number' rest' s' e, h.subscribe h.start = .offer number rest ∧
    rest true = .done s ∧ h.subscribe s = .offer number' rest' ∧
    rest' false = .error e (.done s') ∧ e.isOf .illegalState = true ∧
    Text.occursIn "2.12" e.message = true ∧ ∃ s'', h.cancel s' number = .done s''

/-- A fresh helper that is subscribed to offers a subscription. When it is subscribed to once more
it signals an illegal state that names rule 2.12, perhaps after further offers. -/
def RejectsDuplicate (h : Helper α η) : Prop :=
  ∃ number rest s e s', h.subscribe h.start = .offer number rest ∧ rest true = .done s ∧
    (h.subscribe s).Rejects e s' ∧ e.isOf .illegalState = true ∧
    Text.occursIn "2.12" e.message = true ∧ ∃ s'', h.cancel s' number = .done s''

/-- A helper that offers another subscription first rejects duplicates. -/
theorem RejectsSecond.rejectsDuplicate {h : Helper α η} (hrejects : h.RejectsSecond) :
    h.RejectsDuplicate := by
  obtain ⟨number, rest, s, number', rest', s', e, hsubscribe, hrest, hsubscribe', hrest', hkind,
    hpart, hcancel⟩ := hrejects
  refine ⟨number, rest, s, e, s', hsubscribe, hrest, ?_, hkind, hpart, hcancel⟩
  rw [hsubscribe']
  exact .offer (hrest' ▸ .error)

/-- The helper answers every request for a positive number of elements with the next of the values
that are left, as many as there are, and if none is left after them it may complete. -/
def Answers (h : Helper α η) (number : Nat) (Left : Seq α → η → Prop) : Prop :=
  ∀ (values : Seq α) (s : η), Left values s → ∀ n : UInt64, n ≠ 0 →
    ∃ s', Left (values.drop n.toNat) s' ∧
      (h.request s number n = .nexts (values.take n.toNat) (.done s') ∨
        values.drop n.toNat = .nil ∧
          h.request s number n = .nexts (values.take n.toNat) (.complete (.done s')))

/-- A helper that answers every request with the next values answers a request for one element with
the next value. -/
theorem Serves.of_answers {h : Helper α η} {number : Nat} {Left : Seq α → η → Prop}
    (hanswers : h.Answers number Left)
    (hcancel : ∀ {values : Seq α} {s : η}, Left values s → ∃ s', h.cancel s number = .done s') :
    h.Serves number Left where
  request := by
    intro a values s hleft
    obtain ⟨s', hleft', hrequest⟩ := hanswers _ s hleft 1 (by decide)
    have hdrop : (Seq.cons a values).drop 1 = values := by
      rw [Seq.drop_succ_cons, Seq.drop_zero]
    have htake : (Seq.cons a values).take 1 = [a] := by
      rw [Seq.take_succ_cons, Seq.take_zero]
    rw [show (1 : UInt64).toNat = 1 from rfl, hdrop] at hleft' hrequest
    rw [htake] at hrequest
    exact ⟨s', hleft', hrequest⟩
  cancel := hcancel

end Helper

/-! ### Scripted helpers -/

namespace HelperScript

theorem take_ofList (values : List α) (n : Nat) :
    (Seq.ofList values).take n = values.take n := by
  induction n generalizing values with
  | zero => simp
  | succ n ih =>
    cases values with
    | nil => rw [Seq.ofList_nil, Seq.take_nil, List.take_nil]
    | cons a values => rw [Seq.ofList_cons, Seq.take_succ_cons, List.take_succ_cons, ih]

theorem drop_ofList (values : List α) (n : Nat) :
    (Seq.ofList values).drop n = Seq.ofList (values.drop n) := by
  ext m
  simp

/-- The first subscription of a scripted helper is there, it is not cancelled, and the values that
it has not sent are left. -/
def FirstStream (script : HelperScript α) (values : Seq α) (s : State) : Prop :=
  ∃ stream, s.streams[0]? = some stream ∧ stream.isCancelled = false ∧
    values = Seq.ofList (script.values.drop stream.sent)

/-- A scripted helper answers every request with the next of its values. -/
theorem answers (script : HelperScript α) : script.helper.Answers 0 script.FirstStream := by
  rintro values s ⟨stream, hstream, hcancelled, rfl⟩ n hn
  have hlength : 0 < s.streams.length := (List.getElem?_eq_some_iff.mp hstream).1
  let left := script.values.drop stream.sent
  let sent := left.take n.toNat
  let after : State := { s with
    streams := s.streams.set 0 { stream with sent := stream.sent + sent.length } }
  have hrequest : script.helper.request s 0 n = .nexts sent
      (if script.completes && (!sent.isEmpty && sent.length == left.length)
        then .complete (.done after) else .done after) := by
    simp only [helper, answer, hstream]
    exact if_neg (by simp [hcancelled])
  have hleft : Seq.ofList (script.values.drop (stream.sent + sent.length)) =
      (Seq.ofList left).drop n.toNat := by
    rw [drop_ofList, List.drop_drop, Seq.ofList_injective.eq_iff, List.drop_eq_drop_iff]
    simp only [sent, left, List.length_take, List.length_drop]
    omega
  refine ⟨after, ⟨{ stream with sent := stream.sent + sent.length }, ?_, hcancelled, hleft.symm⟩,
    ?_⟩
  · simp [after, hlength]
  · rw [take_ofList, hrequest]
    split
    next hends =>
      right
      refine ⟨?_, rfl⟩
      have hall : sent.length = left.length := by simp_all
      have hnone : left.drop n.toNat = [] := by
        rw [List.drop_eq_nil_iff]
        simp only [sent, List.length_take] at hall
        omega
      rw [drop_ofList, hnone, Seq.ofList_nil]
    next => exact .inl rfl

/-- A scripted helper with the standard answers to being subscribed to supplies its values. -/
theorem supplies (values : List α) (completes : Bool) :
    (helper ⟨standardSubscribe, values, completes⟩).Supplies (Seq.ofList values) := by
  refine ⟨0, FirstStream _, _, ⟨1, [⟨0, false⟩], 0⟩, .of_answers (answers _) ?_, rfl, rfl, ?_⟩
  · intro _ s _
    exact ⟨s.cancel 0, rfl⟩
  · exact ⟨_, rfl, rfl, rfl⟩

/-- A scripted helper with the standard answers to being subscribed to rejects a second
subscription. -/
theorem rejectsSecond (values : List α) (completes : Bool) :
    (helper ⟨standardSubscribe, values, completes⟩).RejectsSecond := by
  refine ⟨0, _, ⟨1, [⟨0, false⟩], 0⟩, 1, _, ⟨2, [⟨0, false⟩, ⟨0, true⟩], 1⟩,
    ⟨⟨.helper, 0⟩, .illegalState "Rule 2.12: duplicate"⟩, rfl, rfl, rfl, rfl, rfl, ?_, _, rfl⟩
  decide

end HelperScript

end StreamConformance
