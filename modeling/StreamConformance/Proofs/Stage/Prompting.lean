import StreamConformance.Proofs.Run.Attestation
import StreamConformance.Proofs.Stage.Balance
import StreamConformance.Proofs.Stage.Extension
import StreamConformance.Proofs.Stage.Wiring

/-!
# Prompting the subject

Between the setting of a stage and its first assertion a scenario does nothing but prompt the
subject. Such a program takes nothing from the queues, so everything that the subject has reported
is still there, and it ends badly only if a callback panics.

## Main definitions

* `Stage.Untapped` — a run on a stage from whose queues nothing has been taken.
* `Stage.Prompts` — a program that only prompts the subject.

## Main results

* `Stage.untapped_of_ok` — a stage that has just been set is untapped.
* `Stage.Prompts.bind` and its companions — programs that only prompt the subject.
-/

namespace StreamConformance.Stage

open Play

variable {α σ η ρ ρ' : Type} [Element α] {v : Verification α σ η} {r r' : Run α σ η}

/-- Nothing has been taken from the queues of a run on which the subject has been subscribed and has
registered its puppet. -/
structure Untapped (r : Run α σ η) : Prop where
  balanced : r.Balanced ⟨[], [], []⟩
  attested : r.Attested
  subscribed : r.publisher.subscriber.value = some 0
  registered : ∃ p, r.probe.puppet.value = some p

/-- What the subject does with a stimulus takes nothing from the queues. -/
theorem Untapped.deliver (h : Untapped r) (v : Verification α σ η) (s : Stimulus α) :
    Untapped (r.deliver v s).2 where
  balanced := h.balanced.deliver v s
  attested := h.attested.deliver v s
  subscribed := by rw [Run.subscriber_deliver, h.subscribed]
  registered := by
    obtain ⟨p, hp⟩ := h.registered
    obtain ⟨es, -, hes⟩ := r.deliver_extends v s
    exact ⟨p, hes.puppet_of_some hp⟩

/-- A stage that has just been set is untapped. -/
theorem untapped_of_ok {marks : Marks} {h : Helper α η} {u : Unit}
    (htees : (subscribeTees v h).on (.start v marks) = (.ok u, r))
    (hsubject : (setSubject v).on r = (.ok u, r')) : Untapped r' := by
  have hattested : r.Attested := by
    obtain ⟨answer, hsupply, hes, -⟩ := answer_of_subscribeTees htees
    refine (Run.Attested.start v marks).of_helper hes fun e he => ?_
    simp only [List.cons_append, List.mem_cons, List.mem_append, List.not_mem_nil, or_false] at he
    rcases he with rfl | he | rfl
    · rfl
    · exact Event.attests_of_isSupply (hsupply e he)
    · rfl
  have hfresh := fresh_of_subscribeTees htees
  obtain ⟨r₁, p, hr₁, hp, rfl⟩ := on_setSubject_eq_ok_iff.mp hsubject
  rw [Run.subscribeSubject_of_fresh v (by exact hfresh)] at hr₁
  have haccepting : ((r.note .subjectCreated).accepting 0).Attested :=
    (hattested.note (e := .subjectCreated) rfl).of_untouched rfl rfl rfl
  have hdelivered := haccepting.deliver v (.onSubscribe (r.note .subjectCreated).offers.length)
  have hsubscriber := Run.subscriber_deliver v ((r.note .subjectCreated).accepting 0)
    (.onSubscribe (r.note .subjectCreated).offers.length)
  rw [hr₁] at hdelivered hsubscriber
  exact {
    balanced := setSubject_balanced (subscribeTees_balanced (.start v marks) htees) hsubject
    attested := hdelivered.pass _
    subscribed := congrArg Promise.value hsubscriber
    registered := ⟨p, hp⟩ }

/-! ### Programs that only prompt -/

/-- The program only prompts the subject: it takes nothing from the queues of an untapped run, and
it ends badly if and only if it leaves a panic. -/
structure Prompts (p : Play α σ η ρ) : Prop where
  extends_run : p.Extends
  untapped : ∀ {r : Run α σ η}, Untapped r → Untapped (p.on r).2
  panicked : ∀ {r : Run α σ η}, Untapped r → (.panicked ∈ (p.on r).2.history ↔
    .panicked ∈ r.history ∨ ∃ x, (p.on r).1 = .error x)

namespace Prompts

protected theorem deliver (v : Verification α σ η) (s : Stimulus α) :
    Prompts (Play.orPanic (Run.deliver v s)) where
  extends_run := .orPanic fun r => r.exists_deliver_extends v s
  untapped h := by
    rw [on_orPanic]
    exact h.deliver v s
  panicked {r} _ := by
    rw [on_orPanic, Run.panicked_mem_deliver]
    rcases (r.deliver v s).1 with p | ⟨⟩ <;> simp

omit [Element α] in
/-- A question that is answered on an untapped run only prompts the subject, in that it leaves
everything as it is. -/
protected theorem ask {f : Run α σ η → Except Violation ρ}
    (hf : ∀ r, Untapped r → ∃ a, f r = .ok a) : Prompts (Play.ask f) where
  extends_run := .ask f
  untapped h := by
    rw [on_ask]
    exact h
  panicked {r} h := by
    obtain ⟨a, ha⟩ := hf r h
    rw [on_ask, ha]
    simp

omit [Element α] in
/-- A sequence of programs that only prompt the subject only prompts it. -/
protected theorem bind {x : Play α σ η ρ} {f : ρ → Play α σ η ρ'} (hx : Prompts x)
    (hf : ∀ a, Prompts (f a)) : Prompts (x >>= f) where
  extends_run := hx.extends_run.bind fun a => (hf a).extends_run
  untapped {r} h := by
    have hfirst := hx.untapped h
    rw [on_bind]
    rcases hr : x.on r with ⟨_ | a, r'⟩ <;> rw [hr] at hfirst
    · exact hfirst
    · exact (hf a).untapped hfirst
  panicked {r} h := by
    have hfirst := hx.untapped h
    have hpanicked := hx.panicked h
    rw [on_bind]
    rcases hr : x.on r with ⟨y | a, r'⟩ <;> rw [hr] at hfirst hpanicked
    · simpa using hpanicked
    · have hnext := (hf a).panicked hfirst
      simp only [reduceCtorEq, exists_false, or_false] at hpanicked
      rw [hpanicked] at hnext
      exact hnext

variable (v)

omit [Element α] in
theorem puppet : Prompts (Stage.puppet v) := by
  refine .ask fun r h => ?_
  obtain ⟨p, hp⟩ := h.registered
  exact ⟨p, by simp [hp]⟩

theorem triggerRequest (puppet : Nat) (n : UInt64) : Prompts (Stage.triggerRequest v puppet n) :=
  .deliver v _

omit [Element α] in
theorem subscriberFor (action : String) :
    Prompts (Play.ask fun r : Run α σ η => r.publisher.subscriberFor action) :=
  .ask fun r h => ⟨0, by simp [ManualPublisher.subscriberFor, h.subscribed]⟩

theorem sendCompletion : Prompts (Stage.sendCompletion v) :=
  (subscriberFor _).bind fun _ => .deliver v _

theorem sendError (e : StreamError) : Prompts (Stage.sendError v e) :=
  (subscriberFor _).bind fun _ => .deliver v _

end Prompts

end StreamConformance.Stage
