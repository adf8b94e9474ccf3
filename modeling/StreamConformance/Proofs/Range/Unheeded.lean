import StreamConformance.Proofs.Range.Emission

/-!
# Requests that nobody heeds

An emitter looks at the ledger of its subscription only where it looks for demand, and there a
cancellation comes first. So of the ledger of a cancelled subscription it is only visible that the
subscription has been cancelled, and a request on it is visible to nobody. If all requests that
follow a cancellation are left out of a run, the rest of the run can still be done, and everybody
sees the same.

## Main definitions

* `Ledger.visible` — what an emitter can find out about a ledger.
* `Publisher.visible` — a publisher with nothing but what can be found out.

## Main results

* `Publisher.step_visible` — what comes of a step depends on what is visible only.
* `Publisher.run_unheeded` — requests that follow a cancellation can be left out of a run.
-/

namespace StreamConformance.Range

variable {ι : Type}

/-! ### Ledgers and emitters -/

namespace Ledger

/-- What an emitter can find out about a ledger: if the subscription has been cancelled, no more
than that. -/
def visible (l : Ledger) : Ledger := if l.isCancelled then ⟨0, true, false⟩ else l

theorem visible_of_cancelled {l : Ledger} (h : l.isCancelled = true) :
    l.visible = ⟨0, true, false⟩ := if_pos h

theorem visible_of_live {l : Ledger} (h : l.isCancelled = false) : l.visible = l :=
  if_neg (by simp [h])

@[simp] theorem isCancelled_visible (l : Ledger) : l.visible.isCancelled = l.isCancelled := by
  cases h : l.isCancelled
  · rw [visible_of_live h, h]
  · rw [visible_of_cancelled h]

@[simp] theorem isCancelled_request (n : UInt64) (l : Ledger) :
    (l.request n).isCancelled = l.isCancelled := by
  unfold request
  split <;> rfl

@[simp] theorem isCancelled_take (l : Ledger) : l.take.2.isCancelled = l.isCancelled := by
  unfold take
  repeat' split
  all_goals rfl

theorem take_visible (l : Ledger) : l.visible.take = (l.take.1, l.take.2.visible) := by
  cases h : l.isCancelled
  · rw [visible_of_live h, visible_of_live (by rw [isCancelled_take, h])]
  · have htake : l.take = (.cancelled, l) := if_pos h
    rw [htake, visible_of_cancelled h]
    rfl

@[simp] theorem visible_visible (l : Ledger) : l.visible.visible = l.visible := by
  cases h : l.isCancelled
  · rw [visible_of_live h, visible_of_live h]
  · rw [visible_of_cancelled (by simp [h]), visible_of_cancelled h]

theorem visible_eq_of_cancelled {l l' : Ledger} (h : l.isCancelled = true)
    (h' : l'.isCancelled = true) : l.visible = l'.visible := by
  rw [visible_of_cancelled h, visible_of_cancelled h']

/-- A change that leaves a cancelled subscription cancelled can be made to what is visible. -/
theorem visible_change {f : Ledger → Ledger}
    (hf : ∀ l : Ledger, l.isCancelled = true → (f l).isCancelled = true) (l : Ledger) :
    (f l.visible).visible = (f l).visible := by
  cases h : l.isCancelled with
  | false => rw [visible_of_live h]
  | true => exact visible_eq_of_cancelled (hf _ (by simp [h])) (hf l h)

end Ledger

/-- What is visible of the ledger that a step leaves. -/
def Move.visible : Move → Move
  | .silent e l => .silent e l.visible
  | m => m

/-- An emitter does what it does by what is visible of the ledger. -/
theorem Emitter.step_visible (count : UInt64) (l : Ledger) (e : Emitter) :
    e.step count l.visible = (e.step count l).visible := by
  unfold Emitter.step
  split
  · split <;> rfl
  · rw [Ledger.take_visible]
    rcases l.take with ⟨_ | _ | _ | _, l'⟩ <;> rfl
  all_goals rfl

/-- No step of an emitter cancels its subscription, or revokes that. -/
theorem Emitter.isCancelled_of_silent {count : UInt64} {l l' : Ledger} {e e' : Emitter}
    (h : e.step count l = .silent e' l') : l'.isCancelled = l.isCancelled := by
  have of_take {v : Verdict} (htake : l.take = (v, l')) : l'.isCancelled = l.isCancelled := by
    rw [← l.isCancelled_take, htake]
  rcases of_silent h with ⟨-, -, rfl, -⟩ | ⟨-, -, rfl, -⟩ | ⟨-, htake, -⟩ | ⟨-, htake, -⟩ |
    ⟨-, htake, -⟩
  · rfl
  · rfl
  · exact of_take htake
  · exact of_take htake
  · exact of_take htake

/-! ### Publishers -/

/-- What is visible of a subscription. -/
def Subscription.visible (s : Subscription ι) : Subscription ι :=
  { s with ledger := s.ledger.visible }

@[simp] theorem Subscription.visible_visible (s : Subscription ι) :
    s.visible.visible = s.visible := by
  simp [visible]

namespace Publisher

/-- A publisher with nothing but what is visible of its subscriptions. -/
def visible (p : Publisher ι) : Publisher ι :=
  { p with subscriptions := p.subscriptions.map Subscription.visible }

section

variable (p : Publisher ι)

@[simp] theorem visible_visible : p.visible.visible = p.visible := by
  simp [visible, Function.comp_def]

theorem getElem?_visible (k : Nat) :
    p.visible.subscriptions[k]? = p.subscriptions[k]?.map Subscription.visible :=
  List.getElem?_map

theorem setSubscription_visible (k : Nat) (s : Subscription ι) :
    p.visible.setSubscription k s.visible = (p.setSubscription k s).visible := by
  simp only [setSubscription, visible, List.map_set]

theorem setWorker_visible (k : Nat) (w : Worker) :
    p.visible.setWorker k w = (p.setWorker k w).visible := by
  have hmodify : (p.subscriptions.map Subscription.visible).modify k
      (fun s => { s with worker := w }) =
        (p.subscriptions.modify k fun s => { s with worker := w }).map Subscription.visible := by
    refine List.ext_getElem? fun j => ?_
    simp only [List.getElem?_modify, List.getElem?_map]
    cases p.subscriptions[j]? with
    | none => simp
    | some s => by_cases hj : k = j <;> simp [hj, Subscription.visible]
  simp only [setWorker, visible, hmodify]

theorem updateLedger_visible (k : Nat) {f : Ledger → Ledger}
    (hf : ∀ l : Ledger, l.isCancelled = true → (f l).isCancelled = true) :
    (p.visible.updateLedger k f).map visible = (p.updateLedger k f).map visible := by
  simp only [updateLedger, getElem?_visible, Option.map_map]
  refine Option.map_congr fun s _ => ?_
  have hchanged : Subscription.visible { s.visible with ledger := f s.visible.ledger } =
      Subscription.visible { s with ledger := f s.ledger } := by
    simp only [Subscription.visible, Ledger.visible_change hf]
  simp only [Function.comp_apply]
  rw [← setSubscription_visible, ← setSubscription_visible, visible_visible, hchanged]

theorem resume_visible (call : Nat) (panics : Bool) :
    p.visible.resume call panics = (p.resume call panics).map visible := by
  have hcalls : p.visible.calls = p.calls := rfl
  simp only [resume, hcalls, setWorker_visible]
  rcases p.calls[call]?.map SubscribeCall.phase with _ | _ | _ | _ | _ | _ <;> cases panics <;> rfl

theorem finish_visible (k : Nat) (panics : Bool) :
    p.visible.finish k panics = (p.finish k panics).map visible := by
  have hworker : (p.visible.subscriptions[k]?).map Subscription.worker =
      p.subscriptions[k]?.map Subscription.worker := by
    rw [getElem?_visible, Option.map_map]
    rfl
  simp only [finish, hworker, setWorker_visible]
  rcases p.subscriptions[k]?.map Subscription.worker with _ | _ | _ | _ | _ | _ <;> rfl

variable [DecidableEq ι]

theorem abort_visible (call : Nat) : p.visible.abort call = (p.abort call).map visible := by
  have hcalls : p.visible.calls = p.calls := rfl
  simp only [abort, hcalls]
  cases p.calls[call]? with
  | none => rfl
  | some c =>
    dsimp only
    cases c.phase with
    | offering number =>
      have hworker := setWorker_visible { p with registry := p.registry.strike c.subscriber } number
        .unstarted
      exact congrArg (fun q => some (q.setCall call .failing [.onUnstarted])) hworker
    | refusing | failing | returned | panicked => rfl

theorem subscribe_visible (i : ι) : p.visible.subscribe i = (p.subscribe i).visible := by
  by_cases hi : i ∈ p.registry.active
  · rw [subscribe_of_mem hi, subscribe_of_mem (p := p.visible) hi]
    rfl
  · rw [subscribe_of_notMem hi, subscribe_of_notMem (p := p.visible) hi]
    simp [visible, Subscription.visible, Ledger.visible, Ledger.empty]

theorem work_visible (k : Nat) : p.visible.work k = (p.work k).map visible := by
  have hcount : p.visible.count = p.count := rfl
  have hregistry : p.visible.registry = p.registry := rfl
  simp only [work, getElem?_visible, hcount]
  cases p.subscriptions[k]? with
  | none => rfl
  | some s =>
    have hworker : s.visible.worker = s.worker := rfl
    simp only [Option.map_some, hworker]
    cases s.worker with
    | unborn | lost | unstarted | signalling => rfl
    | running e =>
      have hstep : e.step p.count s.visible.ledger = (e.step p.count s.ledger).visible :=
        Emitter.step_visible p.count s.ledger e
      simp only [hstep]
      cases e.step p.count s.ledger with
      | blocked => rfl
      | silent e' l' =>
        exact congrArg some (p.setSubscription_visible k
          { s with ledger := l', worker := .running e' })
      | signal o e' =>
        exact congrArg some (p.setSubscription_visible k
          { s with worker := .signalling o e', signals := s.signals ++ [o] })
      | leave e' =>
        exact congrArg some
          (setWorker_visible { p with registry := p.registry.strike s.subscriber } k (.running e'))

/-- What comes of a step depends on what is visible only. -/
theorem step_visible (l : Label ι) : (p.visible.step l).map visible = (p.step l).map visible := by
  have of_eq {f f' : Option (Publisher ι)} (h : f = f'.map visible) :
      f.map visible = f'.map visible := by
    rw [h, Option.map_map]
    exact Option.map_congr fun q _ => q.visible_visible
  cases l with
  | subscribe i => exact of_eq (congrArg some (p.subscribe_visible i))
  | resume call panics => exact of_eq (p.resume_visible call panics)
  | abort call => exact of_eq (p.abort_visible call)
  | request k n => exact p.updateLedger_visible k fun l hl => by rw [Ledger.isCancelled_request, hl]
  | cancel k => exact p.updateLedger_visible k fun _ _ => rfl
  | work k => exact of_eq (p.work_visible k)
  | finish k panics => exact of_eq (p.finish_visible k panics)

end

variable [DecidableEq ι] {p p' : Publisher ι} {k : Nat}

theorem run_cons (p : Publisher ι) (l : Label ι) (labels : List (Label ι)) :
    p.run (l :: labels) = (p.step l).bind fun q => q.run labels := rfl

theorem run_visible (h : p.visible = p'.visible) (labels : List (Label ι)) :
    (p.run labels).map visible = (p'.run labels).map visible := by
  induction labels generalizing p p' with
  | nil => exact congrArg some h
  | cons l rest ih =>
    have hstep : (p.step l).map visible = (p'.step l).map visible := by
      rw [← p.step_visible, h, p'.step_visible]
    rw [run_cons, run_cons]
    cases hq : p.step l with
    | none =>
      rw [hq] at hstep
      rw [Option.map_eq_none_iff.mp hstep.symm]
    | some q =>
      rw [hq] at hstep
      obtain ⟨q', hq', hvisible⟩ := Option.map_eq_some_iff.mp hstep.symm
      rw [hq']
      exact ih hvisible.symm

/-! ### Requests after a cancellation -/

omit [DecidableEq ι] in
/-- The subscription with the number `k` has been cancelled. -/
def IsCancelled (p : Publisher ι) (k : Nat) : Prop :=
  ∃ s, p.subscriptions[k]? = some s ∧ s.ledger.isCancelled = true

end Publisher

theorem Label.eq_of_demand? {k : Nat} {l : Label ι} {n : UInt64} (h : l.demand? k = some n) :
    l = .request k n := by
  cases l <;> simp only [demand?, reduceCtorEq] at h
  split at h
  next hk => rw [hk, Option.some.inj h]
  next => cases h

theorem Turn.isCancelled {count : UInt64} {k : Nat} {l : Label ι} {s : Subscription ι}
    {o : Option (Subscription ι)} (hturn : Turn count k l (some s) o)
    (h : s.ledger.isCancelled = true) :
    ∃ t, o = some t ∧ t.ledger.isCancelled = true := by
  cases hturn with
  | idle | born | lost | aborted | signalled | left | returned | unwound => exact ⟨_, rfl, h⟩
  | requested n => exact ⟨_, rfl, (Ledger.isCancelled_request n s.ledger).trans h⟩
  | cancelled => exact ⟨_, rfl, rfl⟩
  | advanced hw hstep => exact ⟨_, rfl, (Emitter.isCancelled_of_silent hstep).trans h⟩

namespace Publisher

variable [DecidableEq ι] {p p' : Publisher ι} {k : Nat}

theorem IsCancelled.step (h : p.IsCancelled k) (hp : p.Coherent) {l : Label ι}
    (hstep : p.step l = some p') : p'.IsCancelled k := by
  obtain ⟨s, hs, hcancelled⟩ := h
  have hturn := hp.turn hstep k
  rw [hs] at hturn
  exact hturn.isCancelled hcancelled

/-- A request on a cancelled subscription can be made, and nobody sees it. -/
theorem IsCancelled.request (h : p.IsCancelled k) (n : UInt64) :
    ∃ q, p.step (.request k n) = some q ∧ q.visible = p.visible := by
  obtain ⟨s, hs, hcancelled⟩ := h
  have hsame : Subscription.visible { s with ledger := s.ledger.request n } = s.visible := by
    have hledger : (s.ledger.request n).visible = s.ledger.visible :=
      Ledger.visible_eq_of_cancelled (by rw [Ledger.isCancelled_request, hcancelled]) hcancelled
    simp only [Subscription.visible, hledger]
  have hself : p.setSubscription k s = p := by
    obtain ⟨hlt, rfl⟩ := List.getElem?_eq_some_iff.mp hs
    simp only [setSubscription, List.set_getElem_self]
  refine ⟨p.setSubscription k { s with ledger := s.ledger.request n }, ?_, ?_⟩
  · simp only [Publisher.step, updateLedger, hs, Option.map_some]
  · rw [← setSubscription_visible, hsame, setSubscription_visible, hself]

/-- Requests on a cancelled subscription can be left out of a run. -/
theorem IsCancelled.run_unheeded (h : p.IsCancelled k) (hp : p.Coherent)
    (labels : List (Label ι)) :
    (p.run (labels.filter fun l => (l.demand? k).isNone)).map visible =
      (p.run labels).map visible := by
  induction labels generalizing p with
  | nil => rfl
  | cons l rest ih =>
    cases hl : l.demand? k with
    | none =>
      rw [List.filter_cons_of_pos (by simp [hl]), run_cons, run_cons]
      cases hstep : p.step l with
      | none => rfl
      | some q => exact ih (h.step hp hstep) (hp.step hstep)
    | some n =>
      -- The request is left out on one side only. What is visible is the same after it, and the rest
      -- of the run depends on no more.
      obtain rfl := Label.eq_of_demand? hl
      obtain ⟨q, hq, hvisible⟩ := h.request n
      rw [List.filter_cons_of_neg (by simp [hl]), ih h hp, run_cons, hq]
      exact run_visible hvisible.symm rest

/-- A cancellation that can be made has cancelled its subscription. -/
theorem isCancelled_of_cancel (h : p.step (.cancel k) = some p') : p'.IsCancelled k := by
  obtain ⟨s, hs, rfl⟩ := of_updateLedger h
  exact ⟨{ s with ledger := s.ledger.cancel }, by rw [getElem?_setSubscription hs, if_pos rfl], rfl⟩

/-- Requests that follow a cancellation can be left out of a run, and everybody sees the same. -/
theorem run_unheeded (hp : p.Coherent) {labels : List (Label ι)} {q : Publisher ι}
    (hrun : p.run (.cancel k :: labels) = some q) :
    ∃ q', p.run (.cancel k :: labels.filter fun l => (l.demand? k).isNone) = some q' ∧
      q'.visible = q.visible := by
  rw [run_cons] at hrun
  obtain ⟨p', hcancel, hrest⟩ := Option.bind_eq_some_iff.mp hrun
  have hunheeded := (isCancelled_of_cancel hcancel).run_unheeded (hp.step hcancel) labels
  rw [hrest] at hunheeded
  obtain ⟨q', hq', hvisible⟩ := Option.map_eq_some_iff.mp hunheeded
  exact ⟨q', by rw [run_cons, hcancel, Option.bind_some, hq'], hvisible⟩

omit [DecidableEq ι] in
theorem signals_of_visible (h : p.visible = p'.visible) :
    p.subscriptions.map Subscription.signals = p'.subscriptions.map Subscription.signals := by
  have hsignals (p : Publisher ι) : p.visible.subscriptions.map Subscription.signals =
      p.subscriptions.map Subscription.signals := List.map_map ..
  rw [← hsignals p, h, hsignals p']

end Publisher

end StreamConformance.Range
