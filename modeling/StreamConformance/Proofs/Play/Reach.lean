import StreamConformance.Proofs.Play.Basic

/-!
# Programs that end as expected

A program reaches a property if it ends well, with a value and on a run that have the property; it
fails if it ends badly. Both are statements of total correctness: they say how a program ends, not
only what holds if it does.

## Main definitions

* `Play.Reaches`, `Play.Fails` — how a program ends on a run.
* `Play.EndsAs` — a program ends in the one or the other way, as said by a truth value.
* `Play.Records` — something has been recorded where a program ends.

## Main results

* `Play.Reaches.bind`, `Play.Reaches.bind_fails`, `Play.Fails.bind` — how a sequence ends.
-/

namespace StreamConformance.Play

variable {α σ η ρ ρ' : Type} {r : Run α σ η}

/-- The program ends well on the run, with a value and on a run that have the property `Q`. -/
def Reaches (p : Play α σ η ρ) (r : Run α σ η) (Q : ρ → Run α σ η → Prop) : Prop :=
  ∃ a r', p.on r = (.ok a, r') ∧ Q a r'

/-- The program ends badly on the run. -/
def Fails (p : Play α σ η ρ) (r : Run α σ η) : Prop := ∃ x r', p.on r = (.error x, r')

variable {p : Play α σ η ρ} {f : ρ → Play α σ η ρ'} {Q : ρ → Run α σ η → Prop}
  {P : ρ' → Run α σ η → Prop}

/-- The program ends badly if `isBroken` says so, and else it ends well with the property `Q`. -/
def EndsAs (p : Play α σ η ρ) (isBroken : Bool) (r : Run α σ η) (Q : ρ → Run α σ η → Prop) : Prop :=
  match isBroken with
  | true => p.Fails r
  | false => p.Reaches r Q

theorem endsAs_false : p.EndsAs false r Q ↔ p.Reaches r Q := Iff.rfl

theorem EndsAs.congr {b c : Bool} (h : p.EndsAs b r Q) (hb : c = b) : p.EndsAs c r Q := hb ▸ h

/-- A sequence reaches what its second part reaches from all that its first part reaches. -/
theorem Reaches.bind (h : p.Reaches r Q) (hf : ∀ a r', Q a r' → (f a).Reaches r' P) :
    (p >>= f).Reaches r P := by
  obtain ⟨a, r', hon, hq⟩ := h
  obtain ⟨b, r'', hon', hp⟩ := hf a r' hq
  exact ⟨b, r'', on_bind_eq_ok_iff.mpr ⟨a, r', hon, hon'⟩, hp⟩

/-- A sequence fails if its second part fails on all that its first part reaches. -/
theorem Reaches.bind_fails (h : p.Reaches r Q) (hf : ∀ a r', Q a r' → (f a).Fails r') :
    (p >>= f).Fails r := by
  obtain ⟨a, r', hon, hq⟩ := h
  obtain ⟨x, r'', hon'⟩ := hf a r' hq
  exact ⟨x, r'', on_bind_eq_error_iff.mpr (.inr ⟨a, r', hon, hon'⟩)⟩

/-- A sequence ends as its second part does on all that its first part reaches. -/
theorem Reaches.bind_endsAs {isBroken : Bool} (h : p.Reaches r Q)
    (hf : ∀ a r', Q a r' → (f a).EndsAs isBroken r' P) : (p >>= f).EndsAs isBroken r P := by
  cases isBroken with
  | true => exact h.bind_fails hf
  | false => exact h.bind hf

/-- A sequence fails if its first part does. -/
theorem Fails.bind (h : p.Fails r) (f : ρ → Play α σ η ρ') : (p >>= f).Fails r := by
  obtain ⟨x, r', hon⟩ := h
  exact ⟨x, r', on_bind_eq_error_iff.mpr (.inl hon)⟩

/-! ### Records -/

/-- Something has been recorded where the program ends, whichever way. -/
def Records (p : Play α σ η ρ) (r : Run α σ η) : Prop := (p.on r).2.log.entries ≠ []

/-- What has been recorded before a program that extends its run is there when the program ends. -/
theorem Extends.records (h : p.Extends) (hr : r.log.entries ≠ []) : p.Records r := by
  obtain ⟨es, hes⟩ := h r
  exact mt hes.log_eq_nil hr

/-- A sequence records what its second part records on all that its first part reaches. -/
theorem Reaches.bind_records (h : p.Reaches r Q) (hf : ∀ a r', Q a r' → (f a).Records r') :
    (p >>= f).Records r := by
  obtain ⟨a, r', hon, hq⟩ := h
  rw [Records, on_bind, hon]
  exact hf a r' hq

/-! ### Single programs -/

theorem Reaches.pure {a : ρ} (h : Q a r) : (pure a : Play α σ η ρ).Reaches r Q :=
  ⟨a, r, rfl, h⟩

theorem Reaches.modify {g : Run α σ η → Run α σ η} {Q : Unit → Run α σ η → Prop}
    (h : Q () (g r)) : (modify g : Play α σ η Unit).Reaches r Q :=
  ⟨(), g r, rfl, h⟩

theorem Reaches.orPanic {g : Run α σ η → Except Panic ρ × Run α σ η} {a : ρ} {r' : Run α σ η}
    (hg : g r = (.ok a, r')) (h : Q a r') : (orPanic g).Reaches r Q :=
  ⟨a, r', on_orPanic_eq_ok_iff.mpr hg, h⟩

/-- Something that is done unless the program panics is done where it ends well. -/
theorem Reaches.unlessPanic {last : Run α σ η → Run α σ η} {Q' : ρ → Run α σ η → Prop}
    (h : p.Reaches r Q) (hlast : ∀ a r', Q a r' → Q' a (last r')) :
    (unlessPanic p last).Reaches r Q' := by
  obtain ⟨a, r', hon, hq⟩ := h
  exact ⟨a, last r', on_unlessPanic_eq_ok_iff.mpr ⟨r', hon, rfl⟩, hlast a r' hq⟩

theorem Reaches.ask {g : Run α σ η → Except Violation ρ} {a : ρ} (hg : g r = .ok a) (h : Q a r) :
    (ask g).Reaches r Q :=
  ⟨a, r, on_ask_eq_ok_iff.mpr ⟨hg, rfl⟩, h⟩

/-- What is expected of a part of the run with success is awaited with success. -/
theorem Reaches.await {τ : Type} {get : Run α σ η → τ} {set : Run α σ η → τ → Run α σ η}
    {e : Expectation τ ρ} {a : ρ} {t : τ} (he : e.now (get r) = (.ok a, t))
    (h : ∀ d, Q a ((set r t).pass d)) : (await (e.onPart get set)).Reaches r Q :=
  ⟨a, _, (on_await_onPart_eq_ok_iff get set).mpr ⟨t, he, rfl⟩, h _⟩

/-- The outcome of what is expected of a part of the run is decided by that part. -/
theorem Reaches.outcome {τ : Type} {get : Run α σ η → τ} {set : Run α σ η → τ → Run α σ η}
    {e : Expectation τ ρ} {x : Except Violation ρ} {t : τ} (he : e.now (get r) = (x, t))
    {Q : Except Violation ρ → Run α σ η → Prop} (h : ∀ d, Q x ((set r t).pass d)) :
    (outcome (e.onPart get set)).Reaches r Q := by
  refine ⟨x, (set r t).pass ((e.onPart get set).cost r), ?_, h _⟩
  rw [on_outcome, Expectation.now_onPart, he]

/-- What is expected of a part of the run in vain is awaited in vain. -/
theorem Fails.await {τ : Type} {get : Run α σ η → τ} {set : Run α σ η → τ → Run α σ η}
    {e : Expectation τ ρ} {x : Violation} {t : τ} (he : e.now (get r) = (.error x, t)) :
    (await (e.onPart get set) : Play α σ η ρ).Fails r :=
  ⟨_, _, (on_await_onPart_eq_error_iff get set).mpr ⟨x, t, rfl, he, rfl⟩⟩

end StreamConformance.Play
