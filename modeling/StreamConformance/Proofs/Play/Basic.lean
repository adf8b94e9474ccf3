import StreamConformance.Run.Play
import StreamConformance.Proofs.Run.Extension

/-!
# Programs on a run

How the parts of a program make up its effect: a sequence ends well if and only if all its parts do,
and whatever every part does to a run, the whole program does.

## Main definitions

* `Play.on` — what comes of a program that is played on a run.
* `Play.Extends` — a program that only extends the run on which it is played.

## Main results

* `Play.on_bind_eq_ok_iff`, `Play.on_bind_eq_error_iff` — how a sequence ends well, and how not.
* `Play.Extends.bind` and its companions — programs made of such programs are such programs.
-/

namespace StreamConformance.Play

variable {α σ η ρ ρ' : Type}

/-- What comes of a program that is played on a run: its end, and the run that is left. -/
def on (p : Play α σ η ρ) (r : Run α σ η) : Except Halt ρ × Run α σ η := p.run r

/-! ### The parts of a program -/

@[simp] theorem on_pure (a : ρ) (r : Run α σ η) :
    (pure a : Play α σ η ρ).on r = (.ok a, r) := rfl

@[simp] theorem on_modify (f : Run α σ η → Run α σ η) (r : Run α σ η) :
    (modify f : Play α σ η Unit).on r = (.ok (), f r) := rfl

/-- A sequence goes on where its first part ends well, and ends where that does not. -/
theorem on_bind (x : Play α σ η ρ) (f : ρ → Play α σ η ρ') (r : Run α σ η) :
    (x >>= f).on r =
      match x.on r with
      | (.ok a, r) => (f a).on r
      | (.error h, r) => (.error h, r) := by
  simp only [on, ExceptT.run, bind, ExceptT.bind, ExceptT.mk, StateT.bind, ExceptT.bindCont]
  rcases x r with ⟨_ | a, r'⟩ <;> rfl

@[simp] theorem mapError_ok {ε ε' : Type} (f : ε → ε') (a : ρ) :
    (Except.ok a : Except ε ρ).mapError f = .ok a := rfl

@[simp] theorem mapError_error {ε ε' : Type} (f : ε → ε') (x : ε) :
    (Except.error x : Except ε ρ).mapError f = .error (f x) := rfl

theorem on_orPanic (f : Run α σ η → Except Panic ρ × Run α σ η) (r : Run α σ η) :
    (orPanic f).on r = ((f r).1.mapError .panic, (f r).2) := by
  simp only [on, orPanic, ExceptT.run_mk]
  rcases f r with ⟨_ | a, r'⟩ <;> rfl

theorem on_orViolation (f : Run α σ η → Except Violation ρ × Run α σ η) (r : Run α σ η) :
    (orViolation f).on r = ((f r).1.mapError .violation, (f r).2) := by
  simp only [on, orViolation, ExceptT.run_mk]
  rcases f r with ⟨_ | a, r'⟩ <;> rfl

theorem on_ask (f : Run α σ η → Except Violation ρ) (r : Run α σ η) :
    (ask f).on r = ((f r).mapError .violation, r) :=
  on_orViolation _ r

theorem on_await (e : Expectation (Run α σ η) ρ) (r : Run α σ η) :
    (await e).on r = ((e.now r).1.mapError .violation, (e.now r).2.pass (e.cost r)) :=
  on_orViolation _ r

theorem on_outcome (e : Expectation (Run α σ η) ρ) (r : Run α σ η) :
    (outcome e).on r = (.ok (e.now r).1, (e.now r).2.pass (e.cost r)) := rfl

theorem on_ensuring (body : Play α σ η ρ) (last : Run α σ η → Run α σ η) (r : Run α σ η) :
    (ensuring body last).on r = ((body.on r).1, last (body.on r).2) := rfl

/-- Where a program panics, something that is done unless it panics is not done. -/
theorem on_unlessPanic_of_panic {body : Play α σ η ρ} {last : Run α σ η → Run α σ η}
    {r : Run α σ η} {p : Panic} (h : (body.on r).1 = .error (.panic p)) :
    (unlessPanic body last).on r = body.on r := by
  simp only [on, unlessPanic, ExceptT.run_mk] at h ⊢
  rcases hr : body.run r with ⟨d, r'⟩
  obtain rfl : d = .error (.panic p) := by rw [← h, hr]
  rfl

/-- Where a program does not panic, something that is done unless it panics is done to the run that
is left. -/
theorem on_unlessPanic_of_calm {body : Play α σ η ρ} {last : Run α σ η → Run α σ η}
    {r : Run α σ η} (h : ∀ p, (body.on r).1 ≠ .error (.panic p)) :
    (unlessPanic body last).on r = ((body.on r).1, last (body.on r).2) := by
  simp only [on, unlessPanic, ExceptT.run_mk] at h ⊢
  split
  next p r' hr => exact absurd (congrArg Prod.fst hr) (h p)
  next hr => rw [hr]

/-- Something that is done unless the program panics is done to the run that is left, or nothing
is. -/
theorem on_unlessPanic (body : Play α σ η ρ) (last : Run α σ η → Run α σ η) (r : Run α σ η) :
    (unlessPanic body last).on r = body.on r ∨
      (unlessPanic body last).on r = ((body.on r).1, last (body.on r).2) := by
  by_cases h : ∃ p, (body.on r).1 = .error (.panic p)
  · exact .inl (on_unlessPanic_of_panic h.choose_spec)
  · exact .inr (on_unlessPanic_of_calm fun p hp => h ⟨p, hp⟩)

/-! ### Ending well -/

/-- A sequence ends well if and only if all its parts do. -/
theorem on_bind_eq_ok_iff {x : Play α σ η ρ} {f : ρ → Play α σ η ρ'} {r r' : Run α σ η} {b : ρ'} :
    (x >>= f).on r = (.ok b, r') ↔
      ∃ a r₁, x.on r = (.ok a, r₁) ∧ (f a).on r₁ = (.ok b, r') := by
  rw [on_bind]
  rcases x.on r with ⟨_ | a, r₁⟩
  · simp
  · constructor
    · exact fun h => ⟨a, r₁, rfl, h⟩
    · rintro ⟨a', r₁', h, h'⟩
      obtain ⟨rfl, rfl⟩ : a = a' ∧ r₁ = r₁' := by simpa using h
      exact h'

/-- A sequence ends badly if and only if one of its parts does, after those before it have ended
well. -/
theorem on_bind_eq_error_iff {x : Play α σ η ρ} {f : ρ → Play α σ η ρ'} {r r' : Run α σ η}
    {h : Halt} : (x >>= f).on r = (.error h, r') ↔ x.on r = (.error h, r') ∨
      ∃ a r₁, x.on r = (.ok a, r₁) ∧ (f a).on r₁ = (.error h, r') := by
  rw [on_bind]
  rcases x.on r with ⟨_ | a, r₁⟩
  · simp
  · constructor
    · exact fun h => .inr ⟨a, r₁, rfl, h⟩
    · rintro (h | ⟨a', r₁', h, h'⟩)
      · simp at h
      · obtain ⟨rfl, rfl⟩ : a = a' ∧ r₁ = r₁' := by simpa using h
        exact h'

section Parts

variable {r r' : Run α σ η} {a : ρ} {x : Halt}

theorem on_orPanic_eq_ok_iff {f : Run α σ η → Except Panic ρ × Run α σ η} :
    (orPanic f).on r = (.ok a, r') ↔ f r = (.ok a, r') := by
  rw [on_orPanic]
  rcases f r with ⟨_ | b, r₁⟩ <;> simp

theorem on_orPanic_eq_error_iff {f : Run α σ η → Except Panic ρ × Run α σ η} :
    (orPanic f).on r = (.error x, r') ↔ ∃ p, x = .panic p ∧ f r = (.error p, r') := by
  rw [on_orPanic]
  rcases f r with ⟨p | b, r₁⟩
  · simp only [mapError_error, Prod.mk.injEq, Except.error.injEq]
    constructor
    · rintro ⟨rfl, rfl⟩
      exact ⟨p, rfl, rfl, rfl⟩
    · rintro ⟨_, rfl, rfl, rfl⟩
      exact ⟨rfl, rfl⟩
  · simp

theorem on_orViolation_eq_ok_iff {f : Run α σ η → Except Violation ρ × Run α σ η} :
    (orViolation f).on r = (.ok a, r') ↔ f r = (.ok a, r') := by
  rw [on_orViolation]
  rcases f r with ⟨_ | b, r₁⟩ <;> simp

theorem on_ask_eq_ok_iff {f : Run α σ η → Except Violation ρ} :
    (ask f).on r = (.ok a, r') ↔ f r = .ok a ∧ r' = r := by
  rw [on_ask]
  rcases f r with _ | b <;> simp [eq_comm]

theorem on_ask_eq_error_iff {f : Run α σ η → Except Violation ρ} :
    (ask f).on r = (.error x, r') ↔ ∃ y, x = .violation y ∧ f r = .error y ∧ r' = r := by
  rw [on_ask]
  rcases f r with y | b
  · simp only [mapError_error, Prod.mk.injEq, Except.error.injEq]
    constructor
    · rintro ⟨rfl, rfl⟩
      exact ⟨y, rfl, rfl, rfl⟩
    · rintro ⟨_, rfl, rfl, rfl⟩
      exact ⟨rfl, rfl⟩
  · simp

/-- What is awaited with success is there at once or has come in the time of the wait. -/
theorem on_await_eq_ok_iff {e : Expectation (Run α σ η) ρ} :
    (await e).on r = (.ok a, r') ↔
      ∃ r₁, e.now r = (.ok a, r₁) ∧ r' = r₁.pass (e.cost r) := by
  rw [on_await]
  rcases e.now r with ⟨_ | b, r₁⟩
  · simp
  · constructor
    · intro h
      obtain ⟨rfl, rfl⟩ : b = a ∧ r₁.pass (e.cost r) = r' := by simpa using h
      exact ⟨r₁, rfl, rfl⟩
    · rintro ⟨r₂, h, rfl⟩
      obtain ⟨rfl, rfl⟩ : b = a ∧ r₁ = r₂ := by simpa using h
      rfl

theorem on_await_onPart_eq_ok_iff {τ : Type} (get : Run α σ η → τ)
    (set : Run α σ η → τ → Run α σ η) {e : Expectation τ ρ} :
    (await (e.onPart get set)).on r = (.ok a, r') ↔
      ∃ t, e.now (get r) = (.ok a, t) ∧ r' = (set r t).pass (e.cost (get r)) := by
  rw [on_await_eq_ok_iff, Expectation.now_onPart]
  constructor
  · rintro ⟨r₁, h, rfl⟩
    obtain ⟨hok, rfl⟩ := Prod.mk.inj h
    exact ⟨_, Prod.ext hok rfl, rfl⟩
  · rintro ⟨t, h, rfl⟩
    exact ⟨set r t, by rw [h], rfl⟩

/-- What is awaited of a part of the run in vain leaves the rest of the run as it is. -/
theorem on_await_onPart_eq_error_iff {τ : Type} (get : Run α σ η → τ)
    (set : Run α σ η → τ → Run α σ η) {e : Expectation τ ρ} :
    (await (e.onPart get set)).on r = (.error x, r') ↔ ∃ y t, x = .violation y ∧
      e.now (get r) = (.error y, t) ∧ r' = (set r t).pass (e.cost (get r)) := by
  rw [on_await, Expectation.now_onPart]
  rcases e.now (get r) with ⟨y | b, t⟩
  · simp only [mapError_error, Prod.mk.injEq, Except.error.injEq]
    constructor
    · rintro ⟨rfl, rfl⟩
      exact ⟨y, t, rfl, ⟨rfl, rfl⟩, rfl⟩
    · rintro ⟨_, _, rfl, ⟨rfl, rfl⟩, rfl⟩
      exact ⟨rfl, rfl⟩
  · simp

theorem on_ensuring_eq_ok_iff {body : Play α σ η ρ} {last : Run α σ η → Run α σ η} :
    (ensuring body last).on r = (.ok a, r') ↔ ∃ r₁, body.on r = (.ok a, r₁) ∧ r' = last r₁ := by
  rw [on_ensuring]
  rcases body.on r with ⟨_ | b, r₁⟩ <;> simp [eq_comm, and_comm]

/-- Something that is done unless the program panics is done where the program ends well. -/
theorem on_unlessPanic_eq_ok_iff {body : Play α σ η ρ} {last : Run α σ η → Run α σ η} :
    (unlessPanic body last).on r = (.ok a, r') ↔ ∃ r₁, body.on r = (.ok a, r₁) ∧ r' = last r₁ := by
  by_cases hpanic : ∃ p, (body.on r).1 = .error (.panic p)
  · obtain ⟨p, hp⟩ := hpanic
    rw [on_unlessPanic_of_panic hp]
    constructor
    · intro hon
      simp [hon] at hp
    · rintro ⟨r₁, hon, -⟩
      simp [hon] at hp
  · rw [on_unlessPanic_of_calm fun p hp => hpanic ⟨p, hp⟩]
    rcases body.on r with ⟨_ | b, r₁⟩ <;> simp [eq_comm, and_comm]

/-- What is done at the end is done after the body also where that ends badly. -/
theorem on_ensuring_eq_error_iff {body : Play α σ η ρ} {last : Run α σ η → Run α σ η} :
    (ensuring body last).on r = (.error x, r') ↔
      ∃ r₁, body.on r = (.error x, r₁) ∧ r' = last r₁ := by
  rw [on_ensuring]
  rcases body.on r with ⟨y | b, r₁⟩ <;> simp [eq_comm, and_comm]

end Parts

/-! ### Programs that only extend the run -/

/-- Whatever the program does to a run extends it. -/
def Extends (p : Play α σ η ρ) : Prop := ∀ r : Run α σ η, ∃ es, r.Extends es (p.on r).2

namespace Extends

protected theorem pure (a : ρ) : (pure a : Play α σ η ρ).Extends := fun r =>
  ⟨[], .refl r⟩

protected theorem throw (h : Halt) : (throw h : Play α σ η ρ).Extends := fun r =>
  ⟨[], .refl r⟩

protected theorem get : (get : Play α σ η (Run α σ η)).Extends := fun r => ⟨[], .refl r⟩

protected theorem modify {f : Run α σ η → Run α σ η}
    (hf : ∀ r : Run α σ η, ∃ es, r.Extends es (f r)) : (modify f : Play α σ η Unit).Extends := hf

/-- A sequence of programs that extend the run extends it. -/
protected theorem bind {x : Play α σ η ρ} {f : ρ → Play α σ η ρ'} (hx : x.Extends)
    (hf : ∀ a, (f a).Extends) : (x >>= f).Extends := by
  intro r
  obtain ⟨es, h⟩ := hx r
  rw [on_bind]
  rcases hr : x.on r with ⟨_ | a, r'⟩ <;> rw [hr] at h
  · exact ⟨es, h⟩
  · obtain ⟨es', h'⟩ := hf a r'
    exact ⟨es ++ es', h.trans h'⟩

protected theorem ite {c : Prop} [Decidable c] {x y : Play α σ η ρ} (hx : x.Extends)
    (hy : y.Extends) : (if c then x else y).Extends := by
  split
  · exact hx
  · exact hy

protected theorem orPanic {f : Run α σ η → Except Panic ρ × Run α σ η}
    (hf : ∀ r : Run α σ η, ∃ es, r.Extends es (f r).2) : (orPanic f).Extends := by
  intro r
  rw [on_orPanic]
  exact hf r

protected theorem orViolation {f : Run α σ η → Except Violation ρ × Run α σ η}
    (hf : ∀ r : Run α σ η, ∃ es, r.Extends es (f r).2) : (orViolation f).Extends := by
  intro r
  rw [on_orViolation]
  exact hf r

protected theorem ask (f : Run α σ η → Except Violation ρ) : (ask f).Extends :=
  .orViolation fun r => ⟨[], .refl r⟩

/-- What is awaited extends the run if what follows the wait leaves the run as it is, up to the
queues. -/
protected theorem await {e : Expectation (Run α σ η) ρ}
    (he : ∀ r : Run α σ η, r.Extends [] (e.now r).2) : (await e).Extends := by
  intro r
  rw [on_await]
  exact ⟨_, (he r).trans (.pass _ _)⟩

protected theorem outcome {e : Expectation (Run α σ η) ρ}
    (he : ∀ r : Run α σ η, r.Extends [] (e.now r).2) : (outcome e).Extends := by
  intro r
  rw [on_outcome]
  exact ⟨_, (he r).trans (.pass _ _)⟩

protected theorem ensuring {body : Play α σ η ρ} {last : Run α σ η → Run α σ η}
    (hb : body.Extends) (hl : ∀ r : Run α σ η, ∃ es, r.Extends es (last r)) :
    (ensuring body last).Extends := by
  intro r
  obtain ⟨es, h⟩ := hb r
  obtain ⟨es', h'⟩ := hl (body.on r).2
  exact ⟨es ++ es', h.trans h'⟩

protected theorem unlessPanic {body : Play α σ η ρ} {last : Run α σ η → Run α σ η}
    (hb : body.Extends) (hl : ∀ r : Run α σ η, ∃ es, r.Extends es (last r)) :
    (unlessPanic body last).Extends := by
  intro r
  rcases on_unlessPanic body last r with h | h <;> rw [h]
  · exact hb r
  · exact Extends.ensuring hb hl r

end Extends

end StreamConformance.Play
