import StreamConformance.Proofs.Manual.Offers
import StreamConformance.Proofs.Run.Conduct
import StreamConformance.Proofs.Specimen.Traits
import StreamConformance.Run.Specimen

/-!
# The subscription that a specimen keeps to

A specimen that is not greedy keeps to the first subscription that it is offered: it cancels each
later one, and whatever else its kind lets it do it does to the first. The greedy one takes each
subscription that it is offered, and only its first puppet is accepted.

## Main definitions

* `Specimen.welcome`, `Specimen.habit` — what a specimen does with its first subscription, and in
  each signal after that.
* `Specimen.Loyal`, `Specimen.Fickle` — what specimens do in the course of any signals.

## Main results

* `Specimen.loyal_of_unoffered`, `Specimen.fickle_of_unoffered` — which specimens do which.
* `Specimen.subscription_kept` — to which subscription manual subscribers and specimens keep.
-/

namespace StreamConformance

variable {α σ η : Type}

/-- The subject has not been offered a subscription yet, and has registered no puppet. -/
structure Run.Unoffered (r : Run α (Option Nat) η) : Prop where
  subject : r.subject = none
  offers : r.offers = []
  puppet : r.probe.puppet.value = none

namespace Specimen

/-! ### What is expected of a specimen -/

/-- What a specimen does with the first subscription that it is offered. -/
def welcome (k : Specimen) (t : Target) : List (Event α) :=
  k.greeting.map (.requested t .delivering) ++
    if k = silent then [] else [.reported (.registerPuppet 0) true]

/-- What a specimen that holds a subscription does in a terminal signal. -/
def parting (k : Specimen) (t : Target) : List (Event α) :=
  match k with
  | reentrant => [.requested t .delivering 1, .cancelled t .delivering]
  | deferredReentrant => [.cancelled t .other]
  | _ => []

/-- What a specimen that holds the subscription `t` does in a signal. -/
def habit (k : Specimen) (t : Target) : Incoming α Target → List (Event α)
  | .offer other => [.cancelled other .delivering]
  | .next _ => k.echo.map (.requested t .delivering)
  | .error _ | .complete => k.parting t

/-- The specimen holds the first subscription that it has been offered. -/
structure Holds (k : Specimen) (t : Target) (r : Run α (Option Nat) η) : Prop where
  subject : r.subject = some 0
  first : r.offers[0]? = some t
  puppet : r.probe.puppet.value = if k = silent then none else some 0

variable {v : Verification α (Option Nat) η} {r : Run α (Option Nat) η} {k : Specimen} {t : Target}

theorem unoffered_start (hv : v.subject = k.subject) (marks : Marks) :
    (Run.start v marks).Unoffered := by
  refine ⟨?_, rfl, rfl⟩
  rw [Run.start, hv]
  rfl

/-! ### Responses -/

/-- Before the first offer a specimen reports what it receives, and does nothing else. -/
theorem respond_none (k : Specimen) {s : Incoming α Target} (hs : s.offer? = none) (n : Nat)
    (offers : List Target) (puppet : Option Nat) :
    (k.respond none (s.stimulus n)).2 = none ∧
      (k.respond none (s.stimulus n)).1.filterMap (·.2.puppet?) = [] ∧
      Call.deeds offers puppet (k.respond none (s.stimulus n)).1 = [] := by
  cases s with
  | offer u => simp [Incoming.offer?] at hs
  | _ => cases k <;> exact ⟨rfl, rfl, rfl⟩

theorem deeds_acceptCalls (k : Specimen) (t : Target) :
    Call.deeds [t] none (k.acceptCalls 0 : List (Lane × Call α)) = k.welcome t := by
  cases k <;> rfl

theorem filterMap_acceptCalls (k : Specimen) (offer : Nat) :
    (k.acceptCalls offer : List (Lane × Call α)).filterMap (·.2.puppet?) =
      if k = silent then [] else [offer] := by
  cases k <;> rfl

/-- A specimen that holds its first subscription does what is its habit. -/
theorem respond_some (hk : k ≠ greedy) {offers : List Target} (hfirst : offers[0]? = some t)
    (s : Incoming α Target) {n : Nat} (hlast : ∀ u, s.offer? = some u → offers[n]? = some u)
    (puppet : Option Nat) :
    (k.respond (some 0) (s.stimulus n)).2 = some 0 ∧
      (k.respond (some 0) (s.stimulus n)).1.filterMap (·.2.puppet?) = [] ∧
      Call.deeds offers puppet (k.respond (some 0) (s.stimulus n)).1 = k.habit t s := by
  cases s with
  | offer u =>
    rw [Incoming.stimulus, respond_onSubscribe hk]
    exact ⟨rfl, rfl, by simp [Call.deeds, Call.deed?, habit, hlast u rfl]⟩
  | next a =>
    rw [Incoming.stimulus, respond_onNext]
    cases k <;> exact ⟨rfl, rfl, by simp [Call.deeds, Call.deed?, habit, echo, hfirst]⟩
  | error e | complete =>
    cases k <;> exact ⟨rfl, rfl, by
      simp [respond, terminalCalls, Incoming.stimulus, Call.deeds, Call.deed?, habit, parting,
        hfirst]⟩

/-- The greedy specimen registers a puppet for every subscription that it is offered, and takes it.
-/
theorem respond_greedy (held : Option Nat) (s : Incoming α Target) (n : Nat)
    (offers : List Target) (puppet : Option Nat) :
    (greedy.respond held (s.stimulus n)).2 = (s.offer?.map fun _ => n).or held ∧
      (greedy.respond held (s.stimulus n)).1.filterMap (·.2.puppet?) =
        (s.offer?.map fun _ => n).toList ∧
      Call.deeds offers puppet (greedy.respond held (s.stimulus n)).1 =
        (s.offer?.map fun _ => .reported (.registerPuppet n) puppet.isNone).toList ∧
      ∀ c ∈ (greedy.respond held (s.stimulus n)).1, c.2.isReport = true := by
  cases s <;> cases held <;> exact ⟨rfl, rfl, rfl, by
    simp [respond, acceptCalls, terminalCalls, Incoming.stimulus, Call.isReport]⟩

/-! ### Signals -/

variable [Element α]

/-- What a specimen does in a signal are the calls with which it responds. -/
theorem actsBy_hear (hv : v.subject = k.subject) (s : Incoming α Target)
    (r : Run α (Option Nat) η) : ∃ r', r.hear v s = (.ok (), r') ∧
      r.ActsBy v (r.offers ++ s.offer?.toList)
        (k.respond r.subject (s.stimulus r.offers.length)).1
        (k.respond r.subject (s.stimulus r.offers.length)).2 r' := by
  have hpanic : (v.subject.react r.subject (s.stimulus r.offers.length)).panic = none := by
    rw [hv]
    rfl
  have hacts := Run.actsBy_hear hpanic
  rwa [hv] at hacts

theorem hear_of_offer?_eq_none (hv : v.subject = k.subject) (h : r.Unoffered)
    {s : Incoming α Target} (hs : s.offer? = none) :
    (r.hear v s).2.Unoffered ∧ (r.hear v s).2.deeds = r.deeds := by
  obtain ⟨r', hhear, hacts⟩ := actsBy_hear hv s r
  rw [h.subject] at hacts
  obtain ⟨hstate, hpuppets, hdeeds⟩ := respond_none k hs r.offers.length
    (r.offers ++ s.offer?.toList) r.probe.puppet.value
  rw [hhear]
  refine ⟨⟨hacts.subject.trans hstate, ?_, ?_⟩, ?_⟩
  · simpa [h.offers, hs] using hacts.offers
  · simpa [h.puppet, hpuppets] using hacts.puppet
  · exact (hacts.deeds.trans (congrArg _ hdeeds)).trans (List.append_nil _)

theorem hear_offer (hv : v.subject = k.subject) (h : r.Unoffered) (t : Target) :
    k.Holds t (r.hear v (.offer t)).2 ∧
      (r.hear v (.offer t)).2.deeds = r.deeds ++ k.welcome t := by
  obtain ⟨r', hhear, hacts⟩ := actsBy_hear hv (.offer t) r
  have hrespond : k.respond none ((.offer t : Incoming α Target).stimulus 0) =
      (k.acceptCalls 0, some 0) := rfl
  rw [h.subject, h.offers, List.length_nil, hrespond] at hacts
  rw [hhear]
  refine ⟨⟨hacts.subject, ?_, ?_⟩, ?_⟩
  · rw [hacts.offers]
    rfl
  · rw [hacts.puppet, filterMap_acceptCalls, h.puppet]
    split <;> rfl
  · rw [hacts.deeds, h.puppet]
    exact congrArg _ (deeds_acceptCalls k t)

/-- After that the specimen does what is its habit, and keeps its subscription. -/
theorem Holds.hear (hv : v.subject = k.subject) (hk : k ≠ greedy) (h : k.Holds t r)
    (s : Incoming α Target) :
    k.Holds t (r.hear v s).2 ∧ (r.hear v s).2.deeds = r.deeds ++ k.habit t s := by
  obtain ⟨r', hhear, hacts⟩ := actsBy_hear hv s r
  rw [h.subject] at hacts
  obtain ⟨hlt, -⟩ := List.getElem?_eq_some_iff.mp h.first
  have hfirst : (r.offers ++ s.offer?.toList)[0]? = some t := by
    rw [List.getElem?_append_left hlt, h.first]
  have hlast (u : Target) (hu : s.offer? = some u) :
      (r.offers ++ s.offer?.toList)[r.offers.length]? = some u := by simp [hu]
  obtain ⟨hstate, hpuppets, hdeeds⟩ := respond_some hk hfirst s hlast r.probe.puppet.value
  rw [hhear]
  refine ⟨⟨hacts.subject.trans hstate, ?_, ?_⟩, hacts.deeds.trans (congrArg _ hdeeds)⟩
  · rwa [hacts.offers]
  · rw [hacts.puppet, hpuppets, h.puppet]
    split <;> rfl

/-! ### Loyalty -/

/-- What is left of a specimen that has received signals: it has been offered a subscription, and it
keeps to the first one, or it has not, and has done nothing. -/
structure Loyal (k : Specimen) (v : Verification α (Option Nat) η)
    (signals : List (Incoming α Target)) (r : Run α (Option Nat) η) : Prop where
  unoffered : (∀ s ∈ signals, s.offer? = none) →
    (r.hearAll v signals).Unoffered ∧ (r.hearAll v signals).deeds = r.deeds
  offered : ∀ before t after, signals = before ++ .offer t :: after →
    (∀ s ∈ before, s.offer? = none) → k.Holds t (r.hearAll v signals) ∧
      (r.hearAll v signals).deeds = r.deeds ++ k.welcome t ++ after.flatMap (k.habit t)

theorem hearAll_of_offer?_eq_none (hv : v.subject = k.subject) (h : r.Unoffered)
    {signals : List (Incoming α Target)} (hs : ∀ s ∈ signals, s.offer? = none) :
    (r.hearAll v signals).Unoffered ∧ (r.hearAll v signals).deeds = r.deeds := by
  induction signals generalizing r with
  | nil => exact ⟨h, rfl⟩
  | cons s signals ih =>
    rw [List.forall_mem_cons] at hs
    obtain ⟨hunoffered, hdeeds⟩ := hear_of_offer?_eq_none hv h hs.1
    obtain ⟨hrest, hall⟩ := ih hunoffered hs.2
    exact ⟨hrest, hall.trans hdeeds⟩

/-- Whatever is received after the first offer, the specimen does what is its habit. -/
theorem Holds.hearAll (hv : v.subject = k.subject) (hk : k ≠ greedy) (h : k.Holds t r)
    (signals : List (Incoming α Target)) : k.Holds t (r.hearAll v signals) ∧
      (r.hearAll v signals).deeds = r.deeds ++ signals.flatMap (k.habit t) := by
  induction signals generalizing r with
  | nil => exact ⟨h, (List.append_nil _).symm⟩
  | cons s signals ih =>
    obtain ⟨hholds, hdeeds⟩ := h.hear hv hk s
    obtain ⟨hrest, hall⟩ := ih hholds
    refine ⟨hrest, hall.trans ?_⟩
    rw [hdeeds, List.flatMap_cons, List.append_assoc]

/-- A specimen that is not greedy is loyal. -/
theorem loyal_of_unoffered (hv : v.subject = k.subject) (hk : k ≠ greedy) (h : r.Unoffered)
    (signals : List (Incoming α Target)) : k.Loyal v signals r where
  unoffered := hearAll_of_offer?_eq_none hv h
  offered before t after hsignals hbefore := by
    obtain ⟨hunoffered, hdeeds⟩ := hearAll_of_offer?_eq_none hv h hbefore
    obtain ⟨hholds, hwelcome⟩ := hear_offer hv hunoffered t
    obtain ⟨hall, hhabit⟩ := hholds.hearAll hv hk after
    have hparts : r.hearAll v signals =
        (((r.hearAll v before).hear v (.offer t)).2).hearAll v after := by
      rw [hsignals, Run.hearAll, List.foldl_append]
      rfl
    rw [hparts]
    refine ⟨hall, ?_⟩
    rw [hhabit, hwelcome, hdeeds]

/-! ### Greed -/

/-- From `r` the run has become `r'` by signals to the greedy specimen, which has been offered
`offered`: it holds the latest subscription, and has registered a puppet for each one, of which the
first has been accepted and each other one recorded. -/
structure Fickle (v : Verification α (Option Nat) η) (offered : List Target)
    (r r' : Run α (Option Nat) η) : Prop where
  offers : r'.offers = offered
  subject : r'.subject = (List.range offered.length).getLast?
  subjectName : r'.subjectName v = r.subjectName v
  puppet : r'.probe.puppet.value = (List.range offered.length).head?
  /-- Nothing is cancelled, and nothing is requested. -/
  deeds : r'.deeds = r.deeds ++ (List.range offered.length).map fun number =>
    .reported (.registerPuppet number) (number == 0)
  resubscriptions : r'.resubscriptions = r.resubscriptions ++
    List.replicate (offered.length - 1) (WhiteboxProbe.secondPuppet (r.subjectName v))

namespace Fickle

variable {offered : List Target} {r' : Run α (Option Nat) η}

omit [Element α] in
protected theorem start (v : Verification α (Option Nat) η) (h : r.Unoffered) :
    Fickle v [] r r where
  offers := h.offers
  subject := h.subject
  subjectName := rfl
  puppet := h.puppet
  deeds := (List.append_nil _).symm
  resubscriptions := (List.append_nil _).symm

/-- Each subscription that is offered is taken, and nothing else is done. -/
theorem hear (hv : v.subject = greedy.subject) (h : Fickle v offered r r')
    (s : Incoming α Target) : Fickle v (offered ++ s.offer?.toList) r (r'.hear v s).2 := by
  obtain ⟨r'', hhear, hacts⟩ := actsBy_hear hv s r'
  obtain ⟨hstate, hpuppets, hdeeds, hreports⟩ := respond_greedy r'.subject s r'.offers.length
    (r'.offers ++ s.offer?.toList) r'.probe.puppet.value
  have hresubscriptions := hacts.resubscriptions hreports
  rw [hhear]
  constructor
  case offers => rw [hacts.offers, h.offers]
  case subject =>
    rw [hacts.subject, hstate, h.subject, h.offers]
    cases s.offer? <;> simp [List.range_succ]
  case subjectName => exact hacts.subjectName.trans h.subjectName
  case puppet =>
    rw [hacts.puppet, hpuppets, h.puppet, h.offers]
    cases s.offer? <;> simp [List.range_succ]
  case deeds =>
    rw [hacts.deeds, hdeeds, h.deeds, h.puppet, h.offers]
    cases s.offer? <;> cases offered <;> simp [List.range_succ]
  case resubscriptions =>
    rw [hresubscriptions, hpuppets, h.resubscriptions, h.puppet, h.offers, h.subjectName]
    cases s.offer? <;> cases offered <;> simp [List.head?_range, List.replicate_succ']

end Fickle

/-- The greedy specimen is fickle. -/
theorem fickle_of_unoffered (hv : v.subject = greedy.subject) (h : r.Unoffered)
    (signals : List (Incoming α Target)) :
    Fickle v (signals.filterMap Incoming.offer?) r (r.hearAll v signals) := by
  induction signals using List.reverseRecOn with
  | nil => exact .start v h
  | append_singleton signals s ih =>
    have hall := ih.hear hv s
    have hlast : r.hearAll v (signals ++ [s]) = ((r.hearAll v signals).hear v s).2 := by
      rw [Run.hearAll, List.foldl_append]
      rfl
    rw [hlast, List.filterMap_append]
    cases hs : s.offer? <;> simpa [hs] using hall

/-! ### Subscribers and the subscriptions that they keep to -/

/-- Manual subscribers and all specimens but the greedy one keep to the first subscription that they
are offered, whatever they receive, and the greedy specimen takes the latest one. -/
theorem subscription_kept {number : Nat} {b : Workbench α} (hnumber : number < b.manuals.length)
    (deliveries : List (Marks × Delivery α)) (hv : v.subject = k.subject) (h : r.Unoffered)
    (signals : List (Incoming α Target)) :
    b.KeepsFirst number (deliveries.filterMap (·.2.offer?)) (b.hearManual number deliveries) ∧
      (k ≠ greedy → k.Loyal v signals r) ∧
      (k = greedy → Fickle v (signals.filterMap Incoming.offer?) r (r.hearAll v signals)) := by
  refine ⟨Workbench.keepsFirst_hearManual hnumber deliveries,
    fun hk => loyal_of_unoffered hv hk h signals, ?_⟩
  rintro rfl
  exact fickle_of_unoffered hv h signals

/-- A fresh manual subscriber and two recorded subscriptions. -/
def recordingBench : Workbench UInt64 :=
  { Workbench.start .standard with
    manuals := [⟨0, .empty Config.standardCapacity⟩]
    recordings := [.empty, .empty] }

/-- The second of two subscriptions is cancelled, by a manual subscriber and by the reentrant
specimen, which calls only the first one from within the terminal signals. -/
theorem subscription_kept_reentrant :
    (recordingBench.hearManual 0 [([], .onComplete), ([], .onSubscribe (.recording 0)),
      ([], .onSubscribe (.recording 1))]).recorded 1 = [.cancel] ∧
    ((Run.start (reentrant.verification .standard) []).hearAll (reentrant.verification .standard)
      [.complete, .offer (.recording 0), .complete, .offer (.recording 1)]).deeds =
      [.reported (.registerPuppet 0) true, .requested (.recording 0) .delivering 1,
        .cancelled (.recording 0) .delivering, .cancelled (.recording 1) .delivering] := by
  have hnumber : 0 < recordingBench.manuals.length := by decide
  have hv : (reentrant.verification .standard).subject = reentrant.subject := rfl
  obtain ⟨hmanual, hloyal, -⟩ := subscription_kept hnumber
    [([], .onComplete), ([], .onSubscribe (.recording 0)), ([], .onSubscribe (.recording 1))] hv
    (unoffered_start hv [])
    [.complete, .offer (.recording 0), .complete, .offer (.recording 1)]
  have hoffered := (hloyal (by decide)).offered [.complete] (.recording 0)
    [.complete, .offer (.recording 1)] rfl (by simp [Incoming.offer?])
  exact ⟨hmanual.recorded 1 (by decide), hoffered.2⟩

end Specimen

end StreamConformance
