import StreamConformance.Proofs.Manual.Conservation

/-!
# Enough demand, and not more

Where demand is expected of a manual publisher, requests are taken in the order in which they wait,
and as few of them as will do: the shortest prefix of the queue whose clamped sum reaches what is
expected. What is behind it stays. If there is no such prefix all requests are taken, in vain.

Every request that waits is positive, so a request that is left over adds to the sum. Hence demand
that is expected, and then no further request, are both found if and only if all requests together
are exactly what is expected; only a sum that fills the word could be more than that.

## Main definitions

* `Demand.IsShortest` — the shortest prefix of the requests that suffices.

## Main results

* `ManualPublisher.expectDemand_shortest` — which requests are taken, and what comes of it.
* `DemandAccount.expectDemand_run` — when exactly the demand expected is found, whatever has
  happened.
-/

namespace StreamConformance

/-! ### The shortest sufficient prefix -/

namespace Demand

variable {expected : UInt64} {taken ns : List UInt64}

/-- `taken` is the shortest prefix of the requests `ns` whose clamped sum is at least
`expected`. -/
structure IsShortest (expected : UInt64) (taken ns : List UInt64) : Prop where
  isPrefix : taken <+: ns
  reaches : expected ≤ clamp (total taken)
  shortest : ∀ ms, ms <+: ns → expected ≤ clamp (total ms) → taken.length ≤ ms.length

/-- Where no prefix suffices all requests are taken; those that are taken are part of every prefix
that suffices. The sum starts at `sum`. -/
theorem split_shortest (expected sum : UInt64) (ns : List UInt64) :
    (expected ≤ (split expected sum ns).1.foldl add sum ∨ (split expected sum ns).2 = []) ∧
      ∀ ms, ms <+: ns → expected ≤ ms.foldl add sum → (split expected sum ns).1 <+: ms := by
  induction ns generalizing sum with
  | nil => exact ⟨.inr rfl, fun ms _ _ => List.nil_prefix⟩
  | cons n ns ih =>
    by_cases hle : expected ≤ sum
    · exact ⟨.inl (by simp [split, hle]), fun ms _ _ => by simp [split, hle]⟩
    · obtain ⟨henough, hshortest⟩ := ih (add sum n)
      refine ⟨by simpa [split, hle] using henough, fun ms hms hreach => ?_⟩
      cases ms with
      | nil => exact absurd hreach hle
      | cons m ms =>
        obtain ⟨rfl, hrest⟩ := List.cons_prefix_cons.mp hms
        simpa [split, hle] using hshortest ms hrest hreach

/-- If some prefix suffices, the requests that are taken are the shortest one. -/
theorem isShortest_split {ms : List UInt64} (hms : ms <+: ns)
    (hreach : expected ≤ clamp (total ms)) : IsShortest expected (split expected 0 ns).1 ns := by
  obtain ⟨henough, hshortest⟩ := split_shortest expected 0 ns
  simp only [foldl_add_zero] at henough hshortest
  have happend := split_append expected 0 ns
  refine ⟨⟨_, happend⟩, ?_, fun ks hks hk => (hshortest ks hks hk).length_le⟩
  rcases henough with henough | hrest
  · exact henough
  · rw [hrest, List.append_nil] at happend
    have heq : ms = (split expected 0 ns).1 :=
      (happend.symm ▸ hms).eq_of_length_le (hshortest ms hms hreach).length_le
    exact heq ▸ hreach

theorem split_of_insufficient (h : ∀ ms, ms <+: ns → clamp (total ms) < expected) :
    split expected 0 ns = (ns, []) := by
  have happend := split_append expected 0 ns
  have hrest : (split expected 0 ns).2 = [] := by
    refine (split_shortest expected 0 ns).1.resolve_left (UInt64.not_le.mpr ?_)
    rw [foldl_add_zero]
    exact h _ ⟨_, happend⟩
  rw [hrest, List.append_nil] at happend
  exact Prod.ext happend hrest

theorem eq_nil_of_total (hpositive : ∀ n ∈ ns, n ≠ 0) (h : total ns = 0) : ns = [] := by
  cases ns with
  | nil => rfl
  | cons n ns =>
    have htotal : n.toNat + total ns = 0 := h
    have hzero : n.toNat = (0 : UInt64).toNat := by
      rw [UInt64.toNat_zero]
      omega
    exact absurd (UInt64.toNat_inj.mp hzero) (hpositive n List.mem_cons_self)

/-- The requests that are taken make up exactly what is expected, and leave none over, if and only
if all requests do. -/
theorem split_exact_iff (hpositive : ∀ n ∈ ns, n ≠ 0) (hbounded : expected < unbounded) :
    clamp (total (split expected 0 ns).1) = expected ∧ (split expected 0 ns).2 = [] ↔
      total ns = expected.toNat := by
  have happend := split_append expected 0 ns
  have htotal := total_append (split expected 0 ns).1 (split expected 0 ns).2
  rw [happend] at htotal
  have hclamp := toNat_clamp (total (split expected 0 ns).1)
  have hunbounded : unbounded.toNat = UInt64.size - 1 := by decide
  rw [UInt64.lt_iff_toNat_lt, hunbounded] at hbounded
  constructor
  · rintro ⟨hsum, hrest⟩
    rw [hsum] at hclamp
    rw [hrest] at htotal
    have hnil : total [] = 0 := rfl
    omega
  · intro hall
    have hself : expected ≤ clamp (total ns) := by
      rw [UInt64.le_iff_toNat_le, toNat_clamp]
      omega
    have henough := (isShortest_split (List.prefix_refl ns) hself).reaches
    rw [UInt64.le_iff_toNat_le] at henough
    have hpositive' : ∀ n ∈ (split expected 0 ns).2, n ≠ 0 := fun n hn =>
      hpositive n (happend ▸ List.mem_append_right _ hn)
    refine ⟨UInt64.toNat_inj.mp ?_, eq_nil_of_total hpositive' ?_⟩ <;> omega

end Demand

/-! ### The requests that wait -/

namespace DemandAccount

variable {ι : Type}

theorem perform_positive (timeout : Duration) {s : DemandAccount ι}
    (h : ∀ n ∈ s.accepted, n ≠ 0) (u : DemandUse) :
    ∀ n ∈ (s.perform timeout u).accepted, n ≠ 0 := by
  cases u with
  | request m =>
    intro n hn
    rcases List.mem_append.mp hn with hn | hn
    · exact h n hn
    · split at hn
      next haccepted =>
        obtain rfl := List.mem_singleton.mp hn
        exact ManualPublisher.ne_zero_of_request (Option.isNone_iff_eq_none.mp haccepted)
      next => simp at hn
  | expectRequest => exact h
  | expectDemand => exact h

/-- The requests that wait are positive, whatever has been requested and asserted. -/
theorem positive_run (capacity : Nat) (timeout : Duration) (uses : List DemandUse) :
    ∃ ns, (run capacity timeout uses : DemandAccount ι).publisher.requests.Holds capacity ns ∧
      ∀ n ∈ ns, n ≠ 0 := by
  have hrun := List.foldlRecOn uses (perform timeout)
    (motive := fun s : DemandAccount ι => s.Conserved capacity ∧ ∀ n ∈ s.accepted, n ≠ 0)
    ⟨Conserved.start capacity, nofun⟩
    fun _ h u _ => ⟨h.1.perform timeout u, perform_positive timeout h.2 u⟩
  refine ⟨_, hrun.1.holds, fun n hn => hrun.2 n ?_⟩
  rw [hrun.1.accepted_eq]
  exact List.mem_append_right _ hn

end DemandAccount

/-! ### Demand that is expected -/

namespace ManualPublisher

variable {ι : Type} {p : ManualPublisher ι} {capacity : Nat} {ns : List UInt64}

/-- Demand is found if and only if its clamped sum is what is expected. -/
theorem demandVerdict_eq_ok_iff {timeout : Duration} {expected sum total : UInt64} :
    demandVerdict timeout expected sum = .ok total ↔ sum = expected ∧ total = expected := by
  unfold demandVerdict
  split
  next hlt => simp [UInt64.ne_of_lt hlt]
  next hnot =>
    split
    next hgt => simp [(UInt64.ne_of_lt hgt).symm]
    next hle =>
      obtain rfl := UInt64.le_antisymm (UInt64.not_lt.mp hle) (UInt64.not_lt.mp hnot)
      simp [eq_comm]

/-- No request is expected with success if and only if there is none. -/
theorem expectNoRequest_eq_ok_iff (h : p.requests.Holds capacity ns) (timeout : Duration) :
    ((expectNoRequest timeout).now p).1 = .ok () ↔ ns = [] := by
  constructor
  · intro hok
    rw [← h.elements_eq]
    exact (of_expectNoRequest (Prod.ext hok rfl)).1
  · rintro rfl
    rw [expectNoRequest, onRequests, Expectation.now_onPart, h.silence]

theorem requests_expectDemand_zero (timeout : Duration) (p : ManualPublisher ι) :
    (p.expectDemand timeout 0).2.requests = p.requests := by
  rw [expectDemand]
  unfold takeDemand
  simp [count]

/-- Where demand is expected the shortest sufficient prefix is taken, and the rest stays. -/
theorem holds_expectDemand (h : p.requests.Holds capacity ns) (timeout : Duration)
    (expected : UInt64) :
    (p.expectDemand timeout expected).2.requests.Holds capacity
      (Demand.split expected 0 ns).2 := by
  obtain ⟨q, hq, hdemand⟩ := expectDemand_of_holds h timeout expected
  have hrequests : (p.expectDemand timeout expected).2.requests = q := by
    rw [hdemand]
    dsimp only
    split <;> rfl
  exact hrequests ▸ hq

/-- The demand expected and then no further request are both found if and only if the exact sum of
all requests is what is expected, unless that is unbounded. -/
theorem expectDemand_exact_iff (h : p.requests.Holds capacity ns) (hpositive : ∀ n ∈ ns, n ≠ 0)
    (timeout : Duration) {expected : UInt64} (hbounded : expected < Demand.unbounded) :
    (∃ total, (p.expectDemand timeout expected).1 = .ok total) ∧
        ((expectNoRequest timeout).now (p.expectDemand timeout expected).2).1 = .ok () ↔
      Demand.total ns = expected.toNat := by
  obtain ⟨q, -, hdemand⟩ := expectDemand_of_holds h timeout expected
  rw [expectNoRequest_eq_ok_iff (holds_expectDemand h timeout expected),
    ← Demand.split_exact_iff hpositive hbounded, congrArg Prod.fst hdemand]
  simp only [demandVerdict_eq_ok_iff, exists_eq_right]

/-- Demand is expected where the positive requests `ns` wait. If some of them from the first on
suffice, the shortest such prefix is taken and the others wait as before; it is what is expected, or
an oversupply that names its clamped sum. If none suffices all requests are taken, and the time
passes with a message that names the clamped sum of all of them. Where no demand is expected nothing
is taken. Unless unbounded demand is expected, this and then the absence of a further request are
both found if and only if the exact sum of all requests is what is expected. -/
theorem expectDemand_shortest (h : p.requests.Holds capacity ns) (hpositive : ∀ n ∈ ns, n ≠ 0)
    (timeout : Duration) (expected : UInt64) :
    let r := p.expectDemand timeout expected
    ((∃ ms, ms <+: ns ∧ expected ≤ Demand.clamp (Demand.total ms)) →
      ∃ taken rest, Demand.IsShortest expected taken ns ∧ ns = taken ++ rest ∧
        r.2.requests.Holds capacity rest ∧
        (r.1 = .ok expected ↔ Demand.clamp (Demand.total taken) = expected) ∧
        (Demand.clamp (Demand.total taken) ≠ expected →
          r.1 = .error (.oversupply ("Expected a total demand of " ++ toString expected.toNat ++
            " but the subscriber requested " ++
              toString (Demand.clamp (Demand.total taken)).toNat)))) ∧
    ((∀ ms, ms <+: ns → Demand.clamp (Demand.total ms) < expected) →
      r.2.requests.Holds capacity [] ∧
        r.1 = .error (.timeout (
          "Did not receive expected `request` call (expected a total demand of " ++
            toString expected.toNat ++ ", got " ++
              toString (Demand.clamp (Demand.total ns)).toNat ++ ")") timeout)) ∧
    (expected = 0 → r.2.requests = p.requests) ∧
    (expected < Demand.unbounded →
      ((∃ total, r.1 = .ok total) ∧ ((expectNoRequest timeout).now r.2).1 = .ok () ↔
        Demand.total ns = expected.toNat)) := by
  intro r
  obtain ⟨q, -, hdemand⟩ := expectDemand_of_holds h timeout expected
  have hverdict : r.1 = _ := congrArg Prod.fst hdemand
  have hrest : r.2.requests.Holds capacity _ := holds_expectDemand h timeout expected
  refine ⟨?_, ?_, ?_, expectDemand_exact_iff h hpositive timeout⟩
  · rintro ⟨ms, hms, hreach⟩
    have hshortest := Demand.isShortest_split hms hreach
    refine ⟨_, _, hshortest, (Demand.split_append expected 0 ns).symm, hrest, ?_, fun hne => ?_⟩
    · rw [hverdict, demandVerdict_eq_ok_iff]
      exact and_iff_left rfl
    · have hlt := UInt64.lt_of_le_of_ne hshortest.reaches hne.symm
      rw [hverdict, demandVerdict, if_neg (UInt64.lt_asymm hlt), if_pos hlt]
  · intro hinsufficient
    have hsplit := Demand.split_of_insufficient hinsufficient
    rw [hsplit] at hrest hverdict
    refine ⟨hrest, hverdict.trans ?_⟩
    exact if_pos (hinsufficient ns (List.prefix_refl ns))
  · intro hzero
    subst hzero
    exact requests_expectDemand_zero timeout p

/-- Of the requests for two, three and one, the first two are taken where four are expected; all
three are exactly six. -/
theorem expectDemand_shortest_four :
    let timeout := Duration.ofMillis 100
    let p : ManualPublisher Nat :=
      (DemandAccount.run 16 timeout [.request 2, .request 3, .request 1]).publisher
    p.requests.Holds 16 [2, 3, 1] ∧ (∀ n ∈ [(2 : UInt64), 3, 1], n ≠ 0) ∧
      (∃ taken rest, Demand.IsShortest 4 taken [2, 3, 1] ∧ [2, 3, 1] = taken ++ rest ∧
        (p.expectDemand timeout 4).2.requests.Holds 16 rest ∧
        ((p.expectDemand timeout 4).1 = .ok 4 ↔ Demand.clamp (Demand.total taken) = 4)) ∧
      (∃ total, (p.expectDemand timeout 6).1 = .ok total) ∧
        ((expectNoRequest timeout).now (p.expectDemand timeout 6).2).1 = .ok () := by
  intro timeout p
  have hholds : p.requests.Holds 16 [2, 3, 1] := ⟨rfl, rfl, rfl⟩
  have hpositive : ∀ n ∈ [(2 : UInt64), 3, 1], n ≠ 0 := by simp
  obtain ⟨hfront, -⟩ := expectDemand_shortest hholds hpositive timeout 4
  obtain ⟨-, -, -, hexact⟩ := expectDemand_shortest hholds hpositive timeout 6
  obtain ⟨taken, rest, hshortest, happend, hrest, hok, -⟩ :=
    hfront ⟨[2, 3], by decide, by decide⟩
  exact ⟨hholds, hpositive, ⟨taken, rest, hshortest, happend, hrest, hok⟩,
    (hexact (by decide)).mpr (by decide)⟩

end ManualPublisher

/-- Whatever has been requested and asserted, exactly the demand expected is found if and only if
the requests that wait add up to it. -/
theorem DemandAccount.expectDemand_run {ι : Type} (capacity : Nat) (timeout : Duration)
    (uses : List DemandUse) {expected : UInt64} (hbounded : expected < Demand.unbounded) :
    let p := (run capacity timeout uses : DemandAccount ι).publisher
    ∃ ns, p.requests.Holds capacity ns ∧
      ((∃ total, (p.expectDemand timeout expected).1 = .ok total) ∧
          ((ManualPublisher.expectNoRequest timeout).now (p.expectDemand timeout expected).2).1 =
            .ok () ↔
        Demand.total ns = expected.toNat) := by
  obtain ⟨ns, hholds, hpositive⟩ := positive_run (ι := ι) capacity timeout uses
  exact ⟨ns, hholds, ManualPublisher.expectDemand_exact_iff hholds hpositive timeout hbounded⟩

end StreamConformance
