import StreamConformance.Proofs.Rule.Verdict
import StreamConformance.Proofs.Stage.Reconciliation

/-!
# Demand before elements

The entry that exercises a subject and the entry of rule 2.1 send it elements only after it has
requested some. An entry that passes tells what has been requested before each element, and the
first one also that two elements have gone all the way from the helper to the probe and that the
subject has cancelled.

## Main definitions

* `Scenario.DemandPrecedes` — demand has reached the stage before the first element was sent.
* `Scenario.Exercised` — what has happened in a run in which the subject has been exercised.

## Main results

* `Scenario.demandPrecedes_sound` — the entries do not pass unless that has happened.
-/

namespace StreamConformance.Scenario

open Stage Play

variable {α σ η : Type}

/-- An element has been sent to the subject, and before the first one was, there had been a request
for some elements. -/
def DemandPrecedes (history : List (Event α)) : Prop :=
  ∃ before a after, history = before ++ .stimulated (.onNext a) :: after ∧
    before.filterMap Event.sent? = [] ∧ ∃ n ∈ before.filterMap Event.demand?, n ≠ 0

/-- Two elements have been sent to the subject, each after enough requests: before the first one
there had been a request for some elements, and before the second one there had been two such
requests, or one for another number than one. These elements are the first two that the helper has
signalled and the first two that the probe has accepted. The subject has cancelled its subscription
before the tees was cancelled, by which the stage ends. -/
def Exercised (history : List (Event α)) : Prop :=
  ∃ before between rest after a b k,
    history = before ++ .stimulated (.onNext a) :: between ++ .stimulated (.onNext b) :: rest ++
      .teesCancelled k :: after ∧
    before.filterMap Event.sent? = [] ∧ between.filterMap Event.sent? = [] ∧
    (∃ n ∈ before.filterMap Event.demand?, n ≠ 0) ∧
    (2 ≤ ((before ++ between).filterMap Event.demand?).countP (· ≠ 0) ∨
      ∃ n ∈ (before ++ between).filterMap Event.demand?, n ≠ 0 ∧ n ≠ 1) ∧
    [a, b] <+: history.filterMap Event.supplied? ∧ [a, b] <+: history.filterMap Event.accepted? ∧
    ∃ lane, .cancelled .publisher lane ∈ before ++ between ++ rest

variable [Element α] {v : Verification α σ η} {marks : Marks} {r r' : Run α σ η}

theorem happyPath_second {base : List (Event α)} {taken : List UInt64} {a : α} {puppet : Nat}
    (hr : r.Reconciled base ⟨taken, [a], [a]⟩ [a])
    (hon : (do
      let second ← signalNext v
      expectElement v second
      signalCancel v puppet
      expectCancelling v
      requireCleanLog : Play α σ η Unit).on r = (.ok (), r')) :
    ∃ (r₁ : Run α σ η) (b : α), r₁.Reconciled base ⟨taken, [a, b], [a]⟩ [a] ∧
      r'.Reconciled (r₁.history ++ [.stimulated (.onNext b)]) ⟨taken, [a, b], [a, b]⟩ [a, b] ∧
      ∃ lane, .cancelled .publisher lane ∈ r'.history := by
  simp only [on_bind_eq_ok_iff] at hon
  obtain ⟨b, r₂, hsecond, ⟨⟩, r₃, helement, ⟨⟩, r₄, hcancel, ⟨⟩, r₅, hcancelling, hclean⟩ := hon
  obtain ⟨r₁, hpull, hsend⟩ := signalNext_of_ok hsecond
  obtain ⟨-, rfl⟩ := on_requireCleanLog_eq_ok_iff.mp hclean
  have h₁ := pull_reconciled hr hpull
  have h₂ := sendNext_reconciled h₁ hsend
  have h₃ := expectElement_reconciled h₂ helement
  have h₄ := prompt_reconciled h₃ rfl hcancel
  obtain ⟨h₅, hcancelled⟩ := expectCancelling_reconciled h₄ hcancelling
  exact ⟨r₁, b, h₁, h₅, hcancelled⟩

/-- Where the scenario ends well there are three runs on its way: the one before the first element
is sent, the one before the second element is sent, and the one at the end of the stage. -/
theorem happyPath_accounts (hon : (happyPath v).on (.start v marks) = (.ok (), r)) :
    ∃ (r₁ r₂ r₃ : Run α σ η) (n : UInt64) (taken : List UInt64) (a b : α),
      (∀ rest, Wired (r₁.history ++ rest)) ∧ (∃ base, r₁.Reconciled base ⟨[n], [a], []⟩ []) ∧
      r₂.Reconciled (r₁.history ++ [.stimulated (.onNext a)]) ⟨taken, [a, b], [a]⟩ [a] ∧
      r₃.Reconciled (r₂.history ++ [.stimulated (.onNext b)]) ⟨taken, [a, b], [a, b]⟩ [a, b] ∧
      (taken = [n] ∧ n ≠ 1 ∨ ∃ m, taken = [n, m]) ∧
      (∃ lane, .cancelled .publisher lane ∈ r₃.history) ∧ r = r₃.cancelTees (helper v) := by
  obtain ⟨-, r₀, r₁, r₂, htees, hsubject, hbody, rfl⟩ := on_set_eq_ok_iff.mp hon
  obtain ⟨hwired, -, -, -⟩ := wired_of_ok htees hsubject
  have h₁ := reconciled_of_ok htees hsubject
  simp only [on_bind_eq_ok_iff] at hbody
  obtain ⟨puppet, _, hpuppet, ⟨⟩, r₃, hrequest₁, ⟨⟩, r₄, hrequest₂, n, r₅, hexpect, a, r₇, hfirst,
    ⟨⟩, r₈, helement, ⟨⟩, r₉, hrequest₃, hrest⟩ := hbody
  obtain ⟨-, rfl⟩ := on_ask_eq_ok_iff.mp hpuppet
  obtain ⟨r₆, hpull, hsend⟩ := signalNext_of_ok hfirst
  have h₃ := prompt_reconciled h₁ rfl hrequest₁
  have h₄ := prompt_reconciled h₃ rfl hrequest₂
  have h₅ := expectRequest_reconciled h₄ hexpect
  have h₆ := pull_reconciled h₅ hpull
  have h₇ := sendNext_reconciled h₆ hsend
  have h₈ := expectElement_reconciled h₇ helement
  have h₉ := prompt_reconciled h₈ rfl hrequest₃
  have hwired₆ : ∀ rest, Wired (r₆.history ++ rest) := by
    obtain ⟨es, hes⟩ := h₆.since
    rw [← hes]
    intro rest
    rw [List.append_assoc]
    exact hwired _
  split at hrest
  · obtain ⟨m, r₁₀, hexpect', hrest⟩ := on_bind_eq_ok_iff.mp hrest
    have h₁₀ := expectRequest_reconciled h₉ hexpect'
    obtain ⟨r₁₁, b, h₁₁, h₁₂, hcancelled⟩ := happyPath_second h₁₀ hrest
    exact ⟨r₆, r₁₁, r₂, n, [n, m], a, b, hwired₆, ⟨_, h₆⟩, h₁₁, h₁₂, .inr ⟨m, rfl⟩, hcancelled, rfl⟩
  next hn =>
    obtain ⟨r₁₁, b, h₁₁, h₁₂, hcancelled⟩ := happyPath_second h₉ hrest
    exact ⟨r₆, r₁₁, r₂, n, [n], a, b, hwired₆, ⟨_, h₆⟩, h₁₁, h₁₂, .inl ⟨rfl, hn⟩, hcancelled, rfl⟩

omit [Element α] in
/-- A request that has been taken has been made, and where there is nothing to be blamed it was one
for some elements. -/
theorem mem_demand_of_taken {l : Ledger α} (h : r.Balanced l)
    (clean : r.history.filterMap Event.recorded? = [])
    (blameless : ∀ e ∈ r.history, e.isBlameless = true) {n : UInt64} (hn : n ∈ l.requests) :
    n ∈ r.history.filterMap Event.demand? ∧ n ≠ 0 := by
  have hmem : n ∈ r.history.filterMap Event.demand? := by
    rw [h.requests clean]
    exact List.mem_append_left _ hn
  exact ⟨hmem, Event.ne_zero_of_demand? blameless hmem⟩

omit [Element α] in
/-- Where two requests have been taken, or one for another number than one, there have been two
requests for some elements, or one for another number than one. -/
theorem demand_of_taken {n : UInt64} {l : Ledger α} (h : r.Balanced l)
    (clean : r.history.filterMap Event.recorded? = [])
    (blameless : ∀ e ∈ r.history, e.isBlameless = true)
    (htaken : l.requests = [n] ∧ n ≠ 1 ∨ ∃ m, l.requests = [n, m]) :
    2 ≤ (r.history.filterMap Event.demand?).countP (· ≠ 0) ∨
      ∃ n ∈ r.history.filterMap Event.demand?, n ≠ 0 ∧ n ≠ 1 := by
  rcases htaken with ⟨htaken, hn⟩ | ⟨m, htaken⟩
  · right
    obtain ⟨hmem, hpositive⟩ := mem_demand_of_taken h clean blameless
      (htaken ▸ List.mem_singleton_self n)
    exact ⟨n, hmem, hpositive, hn⟩
  · left
    have hn := (mem_demand_of_taken h clean blameless (n := n) (by simp [htaken])).2
    have hm := (mem_demand_of_taken h clean blameless (n := m) (by simp [htaken])).2
    rw [h.requests clean, htaken]
    simp [hn, hm]

/-- Where the scenario ends well and nothing has been recorded, the subject has been exercised. -/
theorem happyPath_of_ok (hon : (happyPath v).on (.start v marks) = (.ok (), r))
    (clean : r.history.filterMap Event.recorded? = [])
    (blameless : ∀ e ∈ r.history, e.isBlameless = true) : Exercised r.history := by
  obtain ⟨es, hes⟩ := happyPath_extends v (.start v marks)
  rw [hon] at hes
  obtain rfl : r.history = es := hes.history
  obtain ⟨r₁, r₂, r₃, n, taken, a, b, hwired, ⟨base, h₁⟩, h₂, h₃, htaken, ⟨lane, hcancelled⟩,
    rfl⟩ :=
    happyPath_accounts hon
  -- The parts of the history.
  obtain ⟨between, hhistory₂⟩ := h₂.since
  obtain ⟨rest, hhistory₃⟩ := h₃.since
  obtain ⟨last, -, hlast⟩ := r₃.cancelTees_extends (helper v)
  obtain ⟨k, after, hhistory⟩ : ∃ k after,
      (r₃.cancelTees (helper v)).history = r₃.history ++ .teesCancelled k :: after := by
    refine cancelTees_of_wired ?_ hes.subscription
    rw [hlast.history, ← hhistory₃, ← hhistory₂]
    simp only [List.append_assoc]
    exact hwired _
  rw [hhistory, List.filterMap_append, List.append_eq_nil_iff] at clean
  rw [hhistory] at blameless
  have clean₃ := clean.1
  have clean₂ : r₂.history.filterMap Event.recorded? = [] := by
    rw [← hhistory₃, List.append_assoc, List.filterMap_append, List.append_eq_nil_iff] at clean₃
    exact clean₃.1
  have clean₁ : r₁.history.filterMap Event.recorded? = [] := by
    rw [← hhistory₂, List.append_assoc, List.filterMap_append, List.append_eq_nil_iff] at clean₂
    exact clean₂.1
  have blameless₂ : ∀ e ∈ r₂.history, e.isBlameless = true := fun e he =>
    blameless e (List.mem_append_left _ (hhistory₃ ▸ by simp [he]))
  have blameless₁ : ∀ e ∈ r₁.history, e.isBlameless = true := fun e he =>
    blameless₂ e (hhistory₂ ▸ by simp [he])
  have hdemand : (r₁.history ++ between).filterMap Event.demand? =
      r₂.history.filterMap Event.demand? := by
    rw [← hhistory₂]
    simp [Event.filterMap_cons_eq, Event.demand?]
  refine ⟨r₁.history, between, rest, after, a, b, k, ?_, h₁.sent, ?_, ?_, ?_, ?_, ?_, lane, ?_⟩
  · rw [hhistory, ← hhistory₃, ← hhistory₂]
    simp
  · have hsent := h₂.sent
    rw [← hhistory₂, List.filterMap_append, List.filterMap_append, h₁.sent] at hsent
    simpa [Event.filterMap_cons_eq, Event.sent?, Stimulus.element?] using hsent
  · exact ⟨n, mem_demand_of_taken h₁.balanced clean₁ blameless₁ (List.mem_singleton_self n)⟩
  · rw [hdemand]
    exact demand_of_taken h₂.balanced clean₂ blameless₂ htaken
  · rw [hhistory, List.filterMap_append, h₃.supplied.elements clean₃, List.append_assoc]
    exact List.prefix_append _ _
  · rw [hhistory, List.filterMap_append, h₃.balanced.elements, List.append_assoc]
    exact List.prefix_append _ _
  · rw [← hhistory₃, ← hhistory₂] at hcancelled
    simpa using hcancelled

/-- Where the scenario of rule 2.1 ends well and nothing has been recorded, demand comes first. -/
theorem signalsDemand_of_ok (hon : (signalsDemand v).on (.start v marks) = (.ok (), r))
    (clean : r.history.filterMap Event.recorded? = [])
    (blameless : ∀ e ∈ r.history, e.isBlameless = true) : DemandPrecedes r.history := by
  obtain ⟨-, r₀, r₁, r₂, htees, hsubject, hbody, rfl⟩ := on_set_eq_ok_iff.mp hon
  have h₁ := reconciled_of_ok htees hsubject
  simp only [on_bind_eq_ok_iff, on_pure, Prod.mk.injEq, true_and] at hbody
  obtain ⟨puppet, _, hpuppet, ⟨⟩, r₃, hrequest, n, r₄, hexpect, a, r₆, hsignal, rfl⟩ := hbody
  obtain ⟨-, rfl⟩ := on_ask_eq_ok_iff.mp hpuppet
  obtain ⟨r₅, hpull, hsend⟩ := signalNext_of_ok hsignal
  have h₃ := prompt_reconciled h₁ rfl hrequest
  have h₄ := expectRequest_reconciled h₃ hexpect
  have h₅ := pull_reconciled h₄ hpull
  obtain ⟨rest, hhistory₆⟩ := (sendNext_reconciled h₅ hsend).since
  obtain ⟨last, -, hlast⟩ := r₆.cancelTees_extends (helper v)
  have hhistory : (r₆.cancelTees (helper v)).history =
      r₅.history ++ .stimulated (.onNext a) :: (rest ++ last) := by
    rw [hlast.history, ← hhistory₆]
    simp
  rw [hhistory, List.filterMap_append, List.append_eq_nil_iff] at clean
  rw [hhistory] at blameless
  refine ⟨r₅.history, a, rest ++ last, hhistory, h₅.sent, n, ?_⟩
  exact mem_demand_of_taken h₅.balanced clean.1
    (fun e he => blameless e (List.mem_append_left _ he)) (List.mem_singleton_self n)

variable (v marks)

/-- Soundness of the entry that exercises the subject and of the entry of rule 2.1: the first does
not pass unless the subject has been exercised, and the second does not unless demand has reached
the stage before the first element was sent. -/
theorem demandPrecedes_sound :
    (∀ rule : Rule α σ η,
      Catalog.find? "required_exercise_whitebox_happy_path" = some rule →
        (rule.execute v marks).1 = .passed → Exercised (rule.execute v marks).2.history) ∧
    ∀ rule : Rule α σ η,
      Catalog.find? "required_spec201_must_signal_demand_via_subscription_request" = some rule →
        (rule.execute v marks).1 = .passed → DemandPrecedes (rule.execute v marks).2.history := by
  constructor
  · rintro _ ⟨⟩ hpassed
    obtain ⟨r, hexecute, hon, -, hclean, hblameless⟩ :=
      Rule.of_passed rfl (happyPath_extends v) hpassed
    rw [hexecute]
    exact happyPath_of_ok hon hclean hblameless
  · rintro _ ⟨⟩ hpassed
    obtain ⟨r, hexecute, hon, -, hclean, hblameless⟩ :=
      Rule.of_passed rfl (signalsDemand_extends v) hpassed
    rw [hexecute]
    exact signalsDemand_of_ok hon hclean hblameless

/-- The reference subject passes both entries. -/
theorem demandPrecedes_sound_reference :
    let v := Specimen.reference.verification ⟨.ofMillis 100, 8⟩
    (∃ rule, Catalog.find? "required_exercise_whitebox_happy_path" = some rule ∧
      (rule.execute v []).1 = .passed ∧ Exercised (rule.execute v []).2.history) ∧
    ∃ rule, Catalog.find? "required_spec201_must_signal_demand_via_subscription_request" =
        some rule ∧
      (rule.execute v []).1 = .passed ∧ DemandPrecedes (rule.execute v []).2.history := by
  intro v
  have hexercise : ∀ rule : Rule UInt64 (Option Nat) Range.HelperState,
      Catalog.find? "required_exercise_whitebox_happy_path" = some rule →
        (rule.execute v []).1 = .passed := by
    rintro _ ⟨⟩
    decide
  have hdemand : ∀ rule : Rule UInt64 (Option Nat) Range.HelperState,
      Catalog.find? "required_spec201_must_signal_demand_via_subscription_request" = some rule →
        (rule.execute v []).1 = .passed := by
    rintro _ ⟨⟩
    decide
  obtain ⟨hfirst, hsecond⟩ := demandPrecedes_sound v []
  exact ⟨⟨_, rfl, hexercise _ rfl, hfirst _ rfl (hexercise _ rfl)⟩,
    ⟨_, rfl, hdemand _ rfl, hsecond _ rfl (hdemand _ rfl)⟩⟩

end StreamConformance.Scenario
