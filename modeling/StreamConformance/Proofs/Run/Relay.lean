import StreamConformance.Proofs.Run.Extension

/-!
# Signals of the helper

What a helper does in one call reaches the tees signal by signal. It leaves the publisher and the
probe alone, and it adds to the history the signals and what has been recorded for them.

## Main definitions

* `Run.HelperExtends` — the extensions of a run by signals of the helper.

## Main results

* `Run.relay_extends` — what one call of the helper does.
* `Run.cancelTees_extends` — what cancelling the tees does.
-/

namespace StreamConformance

namespace ManualSubscriber

variable {α ι : Type}

@[simp] theorem subscription_onNext (a : α) (m : ManualSubscriber α ι) :
    (m.onNext a).2.subscription = m.subscription := by
  unfold onNext
  split <;> rfl

@[simp] theorem subscription_onError (e : StreamError) (m : ManualSubscriber α ι) :
    (m.onError e).2.subscription = m.subscription := by
  unfold onError
  split <;> rfl

@[simp] theorem subscription_onComplete (m : ManualSubscriber α ι) :
    m.onComplete.2.subscription = m.subscription := by
  unfold onComplete
  split <;> rfl

theorem subscription_onSubscribe (k : ι) (m : ManualSubscriber α ι) :
    (m.onSubscribe k).2.subscription.value.toList =
      m.subscription.value.toList ++ if (m.onSubscribe k).1 then [k] else [] := by
  rcases m with ⟨⟨_ | k'⟩, q, e⟩ <;>
    simp [onSubscribe, Promise.complete, Promise.isCompleted, Promise.completed]

theorem onSubscribe_of_not_kept {k : ι} {m : ManualSubscriber α ι}
    (h : (m.onSubscribe k).1 = false) : (m.onSubscribe k).2 = m := by
  unfold onSubscribe at h ⊢
  split at h
  · simp at h
  next => simp

end ManualSubscriber

namespace Run

variable {α σ η : Type}

/-- The run `r'` comes from `r` by events of which the helper is the only cause: the publisher, the
probe and the subscriptions offered to the subject are left alone. -/
structure HelperExtends (r : Run α σ η) (es : List (Event α)) (r' : Run α σ η) : Prop
    extends r.Extends es r' where
  samePublisher : r'.publisher = r.publisher
  sameProbe : r'.probe = r.probe
  sameOffers : r'.offers = r.offers
  sameSecond : r'.second = r.second

namespace HelperExtends

variable {r r' r'' : Run α σ η} {es es' : List (Event α)}

protected theorem refl (r : Run α σ η) : r.HelperExtends [] r := ⟨.refl r, rfl, rfl, rfl, rfl⟩

protected theorem trans (h : r.HelperExtends es r') (h' : r'.HelperExtends es' r'') :
    r.HelperExtends (es ++ es') r'' where
  toExtends := h.toExtends.trans h'.toExtends
  samePublisher := h'.samePublisher.trans h.samePublisher
  sameProbe := h'.sameProbe.trans h.sameProbe
  sameOffers := h'.sameOffers.trans h.sameOffers
  sameSecond := h'.sameSecond.trans h.sameSecond

/-- An event that is no call and offers the tees nothing that it keeps changes the history only. -/
theorem note (r : Run α σ η) {e : Event α} (call : e.isCall = false) (kept : e.kept? = none) :
    r.HelperExtends [e] (r.note e) := ⟨.note r call kept, rfl, rfl, rfl, rfl⟩

theorem pass (r : Run α σ η) (d : Duration) : r.HelperExtends [.awaited] (r.pass d) :=
  ⟨.pass r d, rfl, rfl, rfl, rfl⟩

theorem record (r : Run α σ η) (x : Option Violation) :
    r.HelperExtends (x.toList.map Event.recorded) (r.record x) :=
  ⟨.record r x, by simp, by simp, by simp, by simp⟩

theorem set_helper (r : Run α σ η) (h : η) : r.HelperExtends [] { r with helper := h } :=
  ⟨.of_untouched rfl rfl rfl rfl rfl rfl rfl, rfl, rfl, rfl, rfl⟩

end HelperExtends

theorem receive_extends {e : Event α}
    {f : ManualSubscriber α Nat → Option Violation × ManualSubscriber α Nat} (r : Run α σ η)
    (call : e.isCall = false) (kept : e.kept? = none)
    (subscription : (f r.tees).2.subscription = r.tees.subscription) :
    r.HelperExtends (e :: (f r.tees).1.toList.map Event.recorded) (r.receive e f) := by
  let r₀ : Run α σ η := { r with tees := (f r.tees).2 }
  have hset : r.HelperExtends [] r₀ :=
    ⟨.of_untouched rfl rfl rfl rfl rfl rfl subscription, rfl, rfl, rfl, rfl⟩
  have hnote : r₀.HelperExtends [e] (r₀.note e) := .note r₀ call kept
  exact (hset.trans hnote).trans (.record _ _)

theorem offered_extends (r : Run α σ η) (k : Nat) :
    r.HelperExtends [.teesOffered k (r.tees.onSubscribe k).1]
      (({ r with tees := (r.tees.onSubscribe k).2 } : Run α σ η).note
        (.teesOffered k (r.tees.onSubscribe k).1)) where
  history := by
    rw [history_note]
    rfl
  log := by simp [Event.recorded?]
  marks := rfl
  offers := List.prefix_refl _
  targets := by simp [Event.target?]
  second := by simp [Event.cancelsSecond]
  puppet := by simp [Event.puppet?]
  subscription := by
    rw [tees_note, ManualSubscriber.subscription_onSubscribe]
    cases (r.tees.onSubscribe k).1 <;> rfl
  blameless := by simp [Event.isBlameless]
  samePublisher := rfl
  sameProbe := rfl
  sameOffers := rfl
  sameSecond := rfl

/-- The event of a call of the helper that ends in a certain way: a panic is one, a return is
none. -/
def helperPanicEvents {π : Type} : Except π Unit → List (Event α)
  | .ok () => []
  | .error _ => [.helperPanicked]

theorem eq_helperPanicked_of_mem {π : Type} {e : Event α} {d : Except π Unit}
    (h : e ∈ helperPanicEvents d) : e = .helperPanicked := by
  cases d with
  | ok => simp [helperPanicEvents] at h
  | error => simpa [helperPanicEvents] using h

/-- What one call of the helper brings about: its signals, what is recorded for them, and perhaps a
panic. -/
theorem relay_extends {π : Type} (emission : Emission α η π) (r : Run α σ η) :
    ∃ es : List (Event α), (∀ e ∈ es, e.isSupply = true) ∧
      r.HelperExtends (es ++ helperPanicEvents (relay emission r).1) (relay emission r).2 := by
  have after {r r' : Run α σ η} {first : List (Event α)} {rest : Except π Unit × Run α σ η}
      (hfirst : ∀ e ∈ first, e.isSupply = true) (h : r.HelperExtends first r')
      (ih : ∃ es : List (Event α), (∀ e ∈ es, e.isSupply = true) ∧
        r'.HelperExtends (es ++ helperPanicEvents rest.1) rest.2) :
      ∃ es : List (Event α), (∀ e ∈ es, e.isSupply = true) ∧
        r.HelperExtends (es ++ helperPanicEvents rest.1) rest.2 := by
    obtain ⟨es, hes, h'⟩ := ih
    refine ⟨first ++ es, fun e he => ?_, by simpa using h.trans h'⟩
    rcases List.mem_append.mp he with he | he
    · exact hfirst e he
    · exact hes e he
  have supply {e : Event α} (he : e.isSupply = true) (x : Option Violation) :
      ∀ e' ∈ e :: x.toList.map Event.recorded, e'.isSupply = true := by
    intro e' he'
    rcases List.mem_cons.mp he' with rfl | he'
    · exact he
    · obtain ⟨y, -, rfl⟩ := List.mem_map.mp he'
      rfl
  induction emission generalizing r with
  | done h => exact ⟨[], nofun, .set_helper r h⟩
  | panic p h =>
    exact ⟨[], nofun, (HelperExtends.set_helper r h).trans (.note _ rfl rfl)⟩
  | next a rest ih =>
    exact after (supply rfl _) (receive_extends r rfl rfl (by simp)) (ih _)
  | error e rest ih =>
    exact after (supply rfl _) (receive_extends r rfl rfl (by simp)) (ih _)
  | complete rest ih =>
    exact after (supply rfl _) (receive_extends r rfl rfl (by simp)) (ih _)
  | offer k rest ih =>
    have h := offered_extends r k
    simp only [relay]
    split
    next t ht =>
      rw [ht] at h
      exact after (by simp [Event.isSupply]) h (ih true _)
    next t ht =>
      have hsame : t = r.tees := by
        have := ManualSubscriber.onSubscribe_of_not_kept (k := k) (m := r.tees) (by rw [ht])
        rwa [ht] at this
      rw [ht, hsame] at h
      exact after (by simp [Event.isSupply]) h (ih false _)
  | record x rest ih =>
    exact after (by simp [Event.isSupply]) (.record r (some x)) (ih _)

/-- A projection of the history that looks neither at signals of the helper nor at its panics does
not see a call of the helper. -/
theorem filterMap_relay {π β : Type} {f : Event α → Option β}
    (hsupply : ∀ e, e.isSupply = true → f e = none) (hpanic : f .helperPanicked = none)
    (emission : Emission α η π) (r : Run α σ η) :
    (relay emission r).2.history.filterMap f = r.history.filterMap f := by
  obtain ⟨es, hes, hextends⟩ := relay_extends emission r
  have hnone : (es ++ helperPanicEvents (relay emission r).1).filterMap f = [] := by
    refine List.filterMap_eq_nil_iff.mpr fun e he => ?_
    rcases List.mem_append.mp he with he | he
    · exact hsupply e (hes e he)
    · rw [eq_helperPanicked_of_mem he, hpanic]
  rw [hextends.history, List.filterMap_append, hnone, List.append_nil]

/-- Cancelling the subscription that the tees has brings about signals of the helper and no panic,
since a cancellation always returns. -/
theorem cancelTees_of_some (h : Helper α η) {r : Run α σ η} {k : Nat}
    (hk : r.tees.subscription.value = some k) : ∃ es : List (Event α),
      (∀ e ∈ es, e.isSupply = true) ∧
        r.HelperExtends (.teesCancelled k :: es) (r.cancelTees h) := by
  simp only [cancelTees, hk]
  obtain ⟨es, hsupply, hes⟩ := relay_extends (h.cancel r.helper k) (r.note (.teesCancelled k))
  have hreturn : (helperPanicEvents (relay (h.cancel r.helper k) (r.note (.teesCancelled k))).1 :
      List (Event α)) = [] := by
    rcases (relay (h.cancel r.helper k) (r.note (.teesCancelled k))).1 with p | ⟨⟩
    · exact p.elim
    · rfl
  rw [hreturn, List.append_nil] at hes
  exact ⟨es, hsupply, (HelperExtends.note r rfl rfl).trans hes⟩

/-- Cancelling the tees brings about nothing but the cancellation and signals of the helper. -/
theorem cancelTees_supply (h : Helper α η) (r : Run α σ η) : ∃ es : List (Event α),
    (∀ e ∈ es, e.isSupply = true ∨ ∃ k, e = .teesCancelled k) ∧
      r.HelperExtends es (r.cancelTees h) := by
  cases hvalue : r.tees.subscription.value with
  | none =>
    simp only [cancelTees, hvalue]
    exact ⟨[], nofun, .refl r⟩
  | some k =>
    obtain ⟨es, hsupply, hes⟩ := cancelTees_of_some h hvalue
    refine ⟨_, fun e he => ?_, hes⟩
    rcases List.mem_cons.mp he with rfl | he
    · exact .inr ⟨k, rfl⟩
    · exact .inl (hsupply e he)

/-- A projection of the history that looks neither at signals of the helper nor at the cancellation
of the tees does not see that the tees is cancelled. -/
theorem filterMap_cancelTees {β : Type} {f : Event α → Option β}
    (hsupply : ∀ e, e.isSupply = true → f e = none) (hcancel : ∀ k, f (.teesCancelled k) = none)
    (h : Helper α η) (r : Run α σ η) :
    (r.cancelTees h).history.filterMap f = r.history.filterMap f := by
  obtain ⟨es, hes, hextends⟩ := cancelTees_supply h r
  have hnone : es.filterMap f = [] := by
    refine List.filterMap_eq_nil_iff.mpr fun e he => ?_
    rcases hes e he with he | ⟨k, rfl⟩
    · exact hsupply e he
    · exact hcancel k
  rw [hextends.history, List.filterMap_append, hnone, List.append_nil]

/-- Cancelling the tees brings about neither a stimulus nor a panic. -/
theorem cancelTees_extends (h : Helper α η) (r : Run α σ η) : ∃ es : List (Event α),
    (∀ e ∈ es, e.isStimulus = false ∧ e.isPanic = false) ∧
      r.HelperExtends es (r.cancelTees h) := by
  obtain ⟨es, hsupply, hes⟩ := cancelTees_supply h r
  refine ⟨es, fun e he => ?_, hes⟩
  rcases hsupply e he with he | ⟨k, rfl⟩
  · exact ⟨Event.isStimulus_of_isSupply he, Event.isPanic_of_isSupply he⟩
  · exact ⟨rfl, rfl⟩

end Run

end StreamConformance
