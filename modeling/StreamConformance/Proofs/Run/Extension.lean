import StreamConformance.Proofs.Run.Chronology

/-!
# Extensions of a run

Whatever happens to a run adds events to its history and nothing else happens to its log, its
latches and its promises than these events say.
-/

namespace StreamConformance.Run

variable {α σ η : Type}

/-! ### Noting and recording -/

@[simp] theorem log_note (e : Event α) (r : Run α σ η) : (r.note e).log = r.log := rfl
@[simp] theorem marks_note (e : Event α) (r : Run α σ η) : (r.note e).marks = r.marks := rfl
@[simp] theorem publisher_note (e : Event α) (r : Run α σ η) :
    (r.note e).publisher = r.publisher := rfl
@[simp] theorem second_note (e : Event α) (r : Run α σ η) : (r.note e).second = r.second := rfl
@[simp] theorem offers_note (e : Event α) (r : Run α σ η) : (r.note e).offers = r.offers := rfl
@[simp] theorem probe_note (e : Event α) (r : Run α σ η) : (r.note e).probe = r.probe := rfl
@[simp] theorem tees_note (e : Event α) (r : Run α σ η) : (r.note e).tees = r.tees := rfl

@[simp] theorem marks_record (x : Option Violation) (r : Run α σ η) :
    (r.record x).marks = r.marks := by
  cases x <;> rfl

@[simp] theorem publisher_record (x : Option Violation) (r : Run α σ η) :
    (r.record x).publisher = r.publisher := by
  cases x <;> rfl

@[simp] theorem second_record (x : Option Violation) (r : Run α σ η) :
    (r.record x).second = r.second := by
  cases x <;> rfl

@[simp] theorem offers_record (x : Option Violation) (r : Run α σ η) :
    (r.record x).offers = r.offers := by
  cases x <;> rfl

@[simp] theorem probe_record (x : Option Violation) (r : Run α σ η) :
    (r.record x).probe = r.probe := by
  cases x <;> rfl

@[simp] theorem tees_record (x : Option Violation) (r : Run α σ η) :
    (r.record x).tees = r.tees := by
  cases x <;> rfl

@[simp] theorem log_record (x : Option Violation) (r : Run α σ η) :
    (r.record x).log.entries = r.log.entries ++ x.toList := by
  cases x <;> simp [record]

@[simp] theorem history_record (x : Option Violation) (r : Run α σ η) :
    (r.record x).history = r.history ++ x.toList.map .recorded := by
  cases x <;> simp [record, note, history]

/-! ### Extensions -/

/-- The run `r'` comes from `r` by the events `es`: its history goes on with them, and its log, its
second subscription, its puppet and the subscription of its tees have changed as they say. -/
structure Extends (r : Run α σ η) (es : List (Event α)) (r' : Run α σ η) : Prop where
  history : r'.history = r.history ++ es
  log : r'.log.entries = r.log.entries ++ es.filterMap Event.recorded?
  marks : r'.marks = r.marks
  offers : r.offers <+: r'.offers
  /-- Only subscriptions that have been offered are called. -/
  targets : ∀ e ∈ es, ∀ t, e.target? = some t → t ∈ r'.offers
  second : r'.second.isClosed = (r.second.isClosed || es.any Event.cancelsSecond)
  puppet : r'.probe.puppet.value.toList =
    r.probe.puppet.value.toList ++ es.filterMap Event.puppet?
  subscription : r'.tees.subscription.value.toList =
    r.tees.subscription.value.toList ++ es.filterMap Event.kept?
  /-- Nothing is recorded only if there is nothing to be blamed. -/
  blameless : es.filterMap Event.recorded? = [] → ∀ e ∈ es, e.isBlameless = true

namespace Extends

variable {r r' r'' : Run α σ η} {es es' : List (Event α)}

theorem log_eq_nil (h : r.Extends es r') (hr' : r'.log.entries = []) : r.log.entries = [] :=
  (List.append_eq_nil_iff.mp (h.log.symm.trans hr')).1

protected theorem refl (r : Run α σ η) : r.Extends [] r := by
  constructor <;> simp

protected theorem trans (h : r.Extends es r') (h' : r'.Extends es' r'') :
    r.Extends (es ++ es') r'' where
  history := by rw [h'.history, h.history, List.append_assoc]
  log := by rw [h'.log, h.log, List.filterMap_append, List.append_assoc]
  marks := h'.marks.trans h.marks
  offers := h.offers.trans h'.offers
  targets e he t ht := by
    rcases List.mem_append.mp he with he | he
    · exact h'.offers.subset (h.targets e he t ht)
    · exact h'.targets e he t ht
  second := by rw [h'.second, h.second, List.any_append, Bool.or_assoc]
  puppet := by rw [h'.puppet, h.puppet, List.filterMap_append, List.append_assoc]
  subscription := by
    rw [h'.subscription, h.subscription, List.filterMap_append, List.append_assoc]
  blameless hes e he := by
    rw [List.filterMap_append, List.append_eq_nil_iff] at hes
    rcases List.mem_append.mp he with he | he
    · exact h.blameless hes.1 e he
    · exact h'.blameless hes.2 e he

theorem subscription_of_some (h : r.Extends es r') {k : Nat}
    (hk : r.tees.subscription.value = some k) : r'.tees.subscription.value = some k := by
  have hlist := h.subscription
  rw [hk] at hlist
  cases hvalue : r'.tees.subscription.value with
  | none => simp [hvalue] at hlist
  | some k' => simp_all

theorem puppet_of_some (h : r.Extends es r') {p : Nat} (hp : r.probe.puppet.value = some p) :
    r'.probe.puppet.value = some p := by
  have hlist := h.puppet
  rw [hp] at hlist
  cases hvalue : r'.probe.puppet.value with
  | none => simp [hvalue] at hlist
  | some p' => simp_all

/-- A run whose history, log, latches and promises are left alone comes from itself by no event. -/
theorem of_untouched (past : r'.past = r.past) (log : r'.log = r.log) (marks : r'.marks = r.marks)
    (offers : r'.offers = r.offers) (second : r'.second = r.second)
    (puppet : r'.probe.puppet = r.probe.puppet)
    (subscription : r'.tees.subscription = r.tees.subscription) : r.Extends [] r' := by
  constructor <;> simp [Run.history, *]

theorem set_offers (r : Run α σ η) (t : Target) :
    r.Extends [] { r with offers := r.offers ++ [t] } where
  history := (List.append_nil _).symm
  log := (List.append_nil _).symm
  marks := rfl
  offers := List.prefix_append _ _
  targets := nofun
  second := (Bool.or_false _).symm
  puppet := (List.append_nil _).symm
  subscription := (List.append_nil _).symm
  blameless _ := nofun

/-- An event that is no call and offers the tees nothing that it keeps changes the history only. -/
theorem note (r : Run α σ η) {e : Event α} (call : e.isCall = false) (kept : e.kept? = none) :
    r.Extends [e] (r.note e) := by
  have hr := Event.recorded?_of_isCall call
  have ht := Event.target?_of_isCall call
  constructor <;> simp [Event.cancelsSecond_of_isCall call,
    Event.puppet?_of_isCall call, Event.isBlameless_of_isCall call, *]

theorem pass (r : Run α σ η) (d : Duration) : r.Extends [.awaited] (r.pass d) := by
  have htime : r.Extends [] { r with elapsed := r.elapsed.add d } :=
    .of_untouched rfl rfl rfl rfl rfl rfl rfl
  exact htime.trans (.note _ rfl rfl)

theorem record (r : Run α σ η) (x : Option Violation) :
    r.Extends (x.toList.map Event.recorded) (r.record x) := by
  cases x with
  | none => exact .refl r
  | some x =>
    constructor <;>
      simp [Run.record, Run.note, Run.history, Event.recorded?, Event.target?,
        Event.cancelsSecond, Event.puppet?, Event.kept?]

end Extends

end StreamConformance.Run
