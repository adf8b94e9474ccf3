import StreamConformance.Run.Basic

/-!
# Reading a history

The history of a run lists all that has passed between the harness, the subject and the helper. A
property of a run is mostly a property of the events of one kind in it, in their order.

## Main definitions

* `Event.recorded?`, `Event.demand?`, `Event.accepted?`, `Event.pulled?`, `Event.puppet?`,
  `Event.kept?` — the events of one kind, with what they carry.
* `Event.isCall`, `Event.isSupply` — whether the subject, or the helper, is the cause of an event.
* `Event.isBlameless` — whether an event is nothing that a violation is always recorded for.
* `Event.During` — an event has happened while the subject handled a stimulus.
-/

namespace StreamConformance

namespace Event

variable {α : Type}

/-- The violation that has been recorded. -/
def recorded? : Event α → Option Violation
  | .recorded x => some x
  | _ => none

/-- The number of elements requested on the subscription of the manual publisher. -/
def demand? : Event α → Option UInt64
  | .requested .publisher _ n => some n
  | _ => none

/-- The element that the probe has accepted. -/
def accepted? : Event α → Option α
  | .reported (.registerNext a) true => some a
  | _ => none

/-- The element that the harness has taken from the tees. -/
def pulled? : Event α → Option α
  | .pulled a => some a
  | _ => none

/-- The puppet that the probe has accepted. -/
def puppet? : Event α → Option Nat
  | .reported (.registerPuppet p) true => some p
  | _ => none

/-- The subscription that the tees has kept. -/
def kept? : Event α → Option Nat
  | .teesOffered k true => some k
  | _ => none

/-- The subscription that the subject has called. -/
def target? : Event α → Option Target
  | .requested t _ _ | .cancelled t _ => some t
  | _ => none

/-- Whether the subject has received a stimulus. -/
def isStimulus : Event α → Bool
  | .stimulated _ => true
  | _ => false

/-- Whether a callback has ended by a panic. -/
def isPanic : Event α → Bool
  | .panicked | .helperPanicked => true
  | _ => false

/-- Whether the subject has cancelled the second subscription. -/
def cancelsSecond : Event α → Bool
  | .cancelled .second _ => true
  | _ => false

/-- Whether the subject has offered the probe a puppet. -/
def offersPuppet : Event α → Bool
  | .reported (.registerPuppet _) _ => true
  | _ => false

/-- Whether the probe has accepted a completion. -/
def acceptsCompletion : Event α → Bool
  | .reported .registerComplete true => true
  | _ => false

/-- Whether the event is a call of the subject or what the harness has recorded for it. -/
def isCall : Event α → Bool
  | .requested .. | .cancelled .. | .reported .. | .recorded _ => true
  | _ => false

/-- Whether the event is a signal of the helper or what the harness has recorded for it. -/
def isSupply : Event α → Bool
  | .teesOffered .. | .teesNext _ | .teesError _ | .teesComplete | .recorded _ => true
  | _ => false

/-- Whether the event is nothing that a violation is always recorded for: no request on the second
subscription, no request for no element, and no report that the probe refuses. -/
def isBlameless : Event α → Bool
  | .requested .second _ _ => false
  | .requested .publisher _ n => n != 0
  | .reported _ accepted => accepted
  | _ => true

theorem filterMap_cons_eq {β : Type} (f : Event α → Option β) (e : Event α) (es : List (Event α)) :
    (e :: es).filterMap f = (f e).toList ++ es.filterMap f := by
  cases h : f e <;> simp [h]

/-- What an optional record shows to a projection that does not look at records. -/
theorem filterMap_records {β : Type} {f : Event α → Option β} (h : ∀ x, f (.recorded x) = none)
    (x : Option Violation) : (x.toList.map Event.recorded).filterMap f = [] := by
  cases x <;> simp [h]

theorem eq_of_puppet? {e : Event α} {p : Nat} (h : e.puppet? = some p) :
    e = .reported (.registerPuppet p) true := by
  unfold puppet? at h
  split at h <;> simp_all

theorem eq_of_kept? {e : Event α} {k : Nat} (h : e.kept? = some k) : e = .teesOffered k true := by
  unfold kept? at h
  split at h <;> simp_all

theorem eq_of_cancelsSecond {e : Event α} (h : e.cancelsSecond = true) :
    ∃ lane, e = .cancelled .second lane := by
  unfold cancelsSecond at h
  split at h
  next lane => exact ⟨lane, rfl⟩
  next => simp at h

/-! ### Events that are no calls -/

section NoCall

variable {e : Event α} (h : e.isCall = false)

include h

theorem recorded?_of_isCall : e.recorded? = none := by
  cases e <;> first | rfl | cases h

theorem target?_of_isCall : e.target? = none := by
  cases e <;> first | rfl | cases h

theorem demand?_of_isCall : e.demand? = none := by
  cases e <;> first | rfl | cases h

theorem accepted?_of_isCall : e.accepted? = none := by
  cases e <;> first | rfl | cases h

theorem puppet?_of_isCall : e.puppet? = none := by
  cases e <;> first | rfl | cases h

theorem cancelsSecond_of_isCall : e.cancelsSecond = false := by
  cases e <;> first | rfl | cases h

theorem acceptsCompletion_of_isCall : e.acceptsCompletion = false := by
  cases e <;> first | rfl | cases h

theorem isBlameless_of_isCall : e.isBlameless = true := by
  cases e <;> first | rfl | cases h

end NoCall

/-! ### Calls and signals of the helper -/

section Calls

variable {e : Event α}

theorem isStimulus_of_isCall (h : e.isCall = true) : e.isStimulus = false := by
  cases e <;> first | rfl | cases h

theorem isPanic_of_isCall (h : e.isCall = true) : e.isPanic = false := by
  cases e <;> first | rfl | cases h

theorem isStimulus_of_isSupply (h : e.isSupply = true) : e.isStimulus = false := by
  cases e <;> first | rfl | cases h

theorem isPanic_of_isSupply (h : e.isSupply = true) : e.isPanic = false := by
  cases e <;> first | rfl | cases h

end Calls

theorem ne_zero_of_demand? {es : List (Event α)} (h : ∀ e ∈ es, e.isBlameless = true) {n : UInt64}
    (hn : n ∈ es.filterMap demand?) : n ≠ 0 := by
  obtain ⟨e, he, hdemand⟩ := List.mem_filterMap.mp hn
  have hblameless := h e he
  cases e <;> simp only [demand?, reduceCtorEq] at hdemand
  next t lane n' =>
    cases t <;> simp only [Option.some.injEq, reduceCtorEq] at hdemand
    simpa [isBlameless, hdemand] using hblameless

/-- If nothing is to be blamed, all puppets that have been offered have been accepted. -/
theorem countP_offersPuppet {es : List (Event α)} (h : ∀ e ∈ es, e.isBlameless = true) :
    es.countP offersPuppet = (es.filterMap puppet?).length := by
  induction es with
  | nil => rfl
  | cons e es ih =>
    have he : (if e.offersPuppet then 1 else 0) = e.puppet?.toList.length := by
      have hblameless := h e List.mem_cons_self
      unfold offersPuppet puppet?
      split <;> simp_all [isBlameless]
    rw [List.countP_cons, filterMap_cons_eq, List.length_append, ← he,
      ih fun e' he' => h e' (List.mem_cons_of_mem e he'), Nat.add_comm]

/-! ### The time of an event -/

/-- The event `e` has happened while the subject handled the stimulus `s`. -/
def During (s : Stimulus α) (e : Event α) (history : List (Event α)) : Prop :=
  ∃ before between after, history = before ++ .stimulated s :: (between ++ e :: after) ∧
    ∀ x ∈ between, x.isStimulus = false

/-- An event of a history that has happened during a stimulus belongs to the history. -/
theorem During.mem {s : Stimulus α} {e : Event α} {history : List (Event α)}
    (h : During s e history) : e ∈ history := by
  obtain ⟨before, between, after, rfl, -⟩ := h
  simp

/-- What happens after a stimulus and before any other one happens during it. -/
theorem During.of_mem {s : Stimulus α} {e : Event α} {before during after : List (Event α)}
    (hd : ∀ x ∈ during, x.isStimulus = false) (he : e ∈ during) :
    During s e (before ++ .stimulated s :: during ++ after) := by
  obtain ⟨between, rest, rfl⟩ := List.append_of_mem he
  refine ⟨before, between, rest ++ after, by simp, fun x hx => hd x ?_⟩
  exact List.mem_append_left _ hx

end Event

end StreamConformance
