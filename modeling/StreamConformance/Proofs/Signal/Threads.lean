import StreamConformance.Signal.Threads

/-!
# The marks are those of the scopes that are alive

Scopes of one kind cannot be told apart by their marks, and dropping one takes the innermost mark of
its kind, whichever scope had made it. Still a thread carries as many marks of a kind as scopes of
this kind are alive on it: so much is kept by every event, in whatever order scopes are dropped. It
follows that a drop never takes a mark deeper than those made by a span of events that drops only
what it has entered. Deliveries are such spans, also when they are left by a panic, and therefore
they give back the marks in the order in which they found them.

## Main definitions

* `ScopeEvent.thread`, `ScopeEvent.onMarks` — where an event happens, and what it does to the marks.
* `ScopedThreads.Marked` — the marks of each thread are, in number, its scopes.
* `ScopeEvent.own` — the events on one thread.
* `ScopeEvent.Closed` — the events that drop all the scopes that they enter, and no others.
* `Nesting.outcome`, `Nesting.trace` — how deliveries end, and their events.

## Main results

* `ScopedThreads.marked_of_run` — the invariant of every run.
* `ScopedThreads.count_alive_of_run` — the scopes alive are those entered less those dropped.
* `ScopedThreads.marks_of_run` — the marks of a thread are what its own events make of them.
* `ScopeEvent.Closed.marks_eq` — closed events restore the marks, whatever happens elsewhere.
* `Nesting.deliver_run` — what happens inside a delivery finds its mark, what follows does not.
* `ScopedThreads.run_trace` — the events of deliveries are closed.
* `ScopedThreads.marks_of_scopes` — the account of the marks in all runs.
-/

namespace StreamConformance

/-! ### Events -/

namespace ScopeEvent

/-- The thread on which an event happens. -/
def thread : ScopeEvent → Nat
  | enter k _ => k
  | drop k _ => k

/-- What an event does to the marks of its thread. -/
def onMarks : ScopeEvent → Marks → Marks
  | enter _ s => Marks.enter s
  | drop _ s => Marks.leave s

/-- The events on a thread. -/
def own (k : Nat) (events : List ScopeEvent) : List ScopeEvent :=
  events.filter (·.thread = k)

theorem own_own (k : Nat) (es : List ScopeEvent) : own k (own k es) = own k es := by
  simp [own]

theorem own_cons_self {k : Nat} {e : ScopeEvent} (h : e.thread = k) (es : List ScopeEvent) :
    own k (e :: es) = e :: own k es :=
  List.filter_cons_of_pos (by simpa using h)

theorem own_cons_of_ne {k : Nat} {e : ScopeEvent} (h : e.thread ≠ k) (es : List ScopeEvent) :
    own k (e :: es) = own k es :=
  List.filter_cons_of_neg (by simpa using h)

/-- What events on one thread make of its marks. -/
def marksAfter (m : Marks) (events : List ScopeEvent) : Marks :=
  events.foldl (fun m e => e.onMarks m) m

end ScopeEvent

namespace ScopedThreads

open ScopeEvent (own marksAfter)

variable {t t' : ScopedThreads} {e : ScopeEvent} {events : List ScopeEvent} {k : Nat} {s : Signal}

@[simp] theorem update_self (f : Marks → Marks) : t.update k f k = f (t.marks k) := if_pos rfl

theorem update_of_ne {k' : Nat} (h : k' ≠ k) (f : Marks → Marks) : t.update k f k' = t.marks k' :=
  if_neg h

/-! ### One event -/

/-- All that an event can be: a scope is entered, or one that is alive is dropped. -/
theorem step_cases (h : t.step e = some t') :
    (∃ k s, e = .enter k s ∧ t' = ⟨t.update k (.enter s), (k, s) :: t.alive⟩) ∨
    (∃ k s, e = .drop k s ∧ (k, s) ∈ t.alive ∧
      t' = ⟨t.update k (.leave s), t.alive.erase (k, s)⟩) := by
  cases e with
  | enter k s => exact .inl ⟨k, s, rfl, by simpa [step] using h.symm⟩
  | drop k s =>
    simp only [step] at h
    split at h
    next hs => exact .inr ⟨k, s, rfl, hs, by simpa using h.symm⟩
    next => cases h

theorem run_cons : t.run (e :: events) = (t.step e).bind (·.run events) := rfl

theorem run_append {es es' : List ScopeEvent} :
    t.run (es ++ es') = (t.run es).bind (·.run es') := by
  simp [run]

theorem marks_step (h : t.step e = some t') (k : Nat) :
    t'.marks k = if k = e.thread then e.onMarks (t.marks k) else t.marks k := by
  obtain ⟨k', s, rfl, rfl⟩ | ⟨k', s, rfl, -, rfl⟩ := step_cases h <;> rfl

theorem count_alive_step (h : t.step e = some t') (k : Nat) (s : Signal) :
    t'.alive.count (k, s) + [e].count (.drop k s) =
      t.alive.count (k, s) + [e].count (.enter k s) := by
  obtain ⟨k', s', rfl, rfl⟩ | ⟨k', s', rfl, halive, rfl⟩ := step_cases h
  · simp [List.count_cons]
  · by_cases hks : (k', s') = (k, s)
    · obtain ⟨rfl, rfl⟩ := Prod.mk.inj hks
      have hpos : 0 < t.alive.count (k', s') := List.count_pos_iff.mpr halive
      have henter : [ScopeEvent.drop k' s'].count (.enter k' s') = 0 := rfl
      rw [List.count_erase_self, List.count_singleton_self, henter]
      omega
    · have hdrop : ScopeEvent.drop k' s' ≠ .drop k s := by simpa using hks
      simp [List.count_erase_of_ne (Ne.symm hks), hdrop]

/-! ### Marks and scopes -/

/-- Each thread has as many marks of a kind as scopes of this kind are alive on it. -/
def Marked (t : ScopedThreads) : Prop :=
  ∀ (k : Nat) (s : Signal), (t.marks k).count s = t.alive.count (k, s)

theorem Marked.mem_iff (h : t.Marked) : s ∈ t.marks k ↔ (k, s) ∈ t.alive := by
  rw [← List.count_pos_iff, h k s, List.count_pos_iff]

theorem Marked.isActive_iff (h : t.Marked) : (t.marks k).isActive s = true ↔ (k, s) ∈ t.alive := by
  rw [Marks.isActive, List.contains_iff_mem, h.mem_iff]

theorem Marked.eq_nil (h : t.Marked) (hk : ∀ s, (k, s) ∉ t.alive) : t.marks k = [] :=
  List.eq_nil_iff_forall_not_mem.mpr fun s hs => hk s (h.mem_iff.mp hs)

theorem marked_start : start.Marked := fun _ _ => rfl

/-- Every event keeps the marks in step with the scopes: a drop takes a mark of its kind, be it the
dropped scope's or another's. -/
theorem Marked.step (ht : t.Marked) (h : t.step e = some t') : t'.Marked := by
  intro k s
  obtain ⟨k', s', rfl, rfl⟩ | ⟨k', s', rfl, -, rfl⟩ := step_cases h <;>
    rcases Decidable.em (k = k') with rfl | hk
  · simp [Marks.enter, List.count_cons, ht k s]
  · simp [update_of_ne hk, Ne.symm hk, ht k s]
  · simp [Marks.leave, List.count_erase, ht k s]
  · have hne : (k, s) ≠ (k', s') := fun h => hk (congrArg Prod.fst h)
    simp [update_of_ne hk, List.count_erase_of_ne hne, ht k s]

theorem Marked.run (ht : t.Marked) (h : t.run events = some t') : t'.Marked := by
  induction events generalizing t with
  | nil => cases h; exact ht
  | cons e es ih =>
    obtain ⟨u, hstep, hrun⟩ := Option.bind_eq_some_iff.mp h
    exact ih (ht.step hstep) hrun

/-- In every run, the marks of each thread are, in number, its scopes. -/
theorem marked_of_run (h : start.run events = some t) : t.Marked := marked_start.run h

/-- The scopes that are alive are those entered less those dropped. -/
theorem count_alive_run (h : t.run events = some t') (k : Nat) (s : Signal) :
    t'.alive.count (k, s) + events.count (.drop k s) =
      t.alive.count (k, s) + events.count (.enter k s) := by
  induction events generalizing t with
  | nil => cases h; rfl
  | cons e es ih =>
    obtain ⟨u, hstep, hrun⟩ := Option.bind_eq_some_iff.mp h
    have hfirst := count_alive_step hstep k s
    have hrest := ih hrun
    rw [← List.singleton_append, List.count_append, List.count_append]
    omega

theorem count_alive_of_run (h : start.run events = some t) (k : Nat) (s : Signal) :
    t.alive.count (k, s) + events.count (.drop k s) = events.count (.enter k s) := by
  simpa [start] using count_alive_run h k s

/-! ### One thread among others -/

/-- Over other marks, the events of a run do on a thread what they do without: a scope that is
dropped has a mark in front of those. -/
theorem marksAfter_append (ht : t.Marked) (h : t.run events = some t') (base : Marks) :
    marksAfter (t.marks k ++ base) (own k events) = t'.marks k ++ base := by
  induction events generalizing t with
  | nil => cases h; rfl
  | cons e es ih =>
    obtain ⟨u, hstep, hrun⟩ := Option.bind_eq_some_iff.mp h
    have hmarks := marks_step hstep k
    have hu := ih (ht.step hstep) hrun
    by_cases hk : e.thread = k
    · rw [ScopeEvent.own_cons_self hk, ← hu, hmarks, if_pos hk.symm]
      have happend : e.onMarks (t.marks k ++ base) = e.onMarks (t.marks k) ++ base := by
        obtain ⟨k', s', rfl, -⟩ | ⟨k', s', rfl, halive, -⟩ := step_cases hstep
        · rfl
        · -- The dropped scope is alive here, so a mark of its kind stands in front of `base`.
          cases hk
          exact List.erase_append_left _ (ht.mem_iff.mpr halive)
      rw [← happend]
      rfl
    · rw [ScopeEvent.own_cons_of_ne hk, ← hu, hmarks, if_neg (Ne.symm hk)]

/-- The marks of a thread are what its own events make of them, whatever happens on others. -/
theorem Marked.marks_run (ht : t.Marked) (h : t.run events = some t') (k : Nat) :
    t'.marks k = marksAfter (t.marks k) (own k events) := by
  simpa using (marksAfter_append ht h []).symm

theorem marks_of_run (h : start.run events = some t) (k : Nat) :
    t.marks k = marksAfter [] (own k events) :=
  marked_start.marks_run h k

end ScopedThreads

/-! ### Closed events -/

namespace ScopeEvent

/-- On their own, the events drop all the scopes that they enter, in whatever order. -/
def Closed (events : List ScopeEvent) : Prop :=
  ∃ t, ScopedThreads.start.run events = some t ∧ t.alive = []

theorem Closed.marksAfter_eq {events : List ScopeEvent} (h : Closed events) (k : Nat) (m : Marks) :
    marksAfter m (own k events) = m := by
  obtain ⟨t, hrun, halive⟩ := h
  have hnil : t.marks k = [] :=
    (ScopedThreads.marked_of_run hrun).eq_nil fun s => by simp [halive]
  have happend := ScopedThreads.marksAfter_append (k := k) ScopedThreads.marked_start hrun m
  rwa [hnil] at happend

/-- So do they among the events of other threads. -/
theorem Closed.marks_eq {t t' : ScopedThreads} {events : List ScopeEvent} {k : Nat}
    (h : Closed (own k events)) (ht : t.Marked) (hrun : t.run events = some t') :
    t'.marks k = t.marks k := by
  rw [ht.marks_run hrun k, ← own_own, h.marksAfter_eq]

end ScopeEvent

/-! ### Deliveries -/

namespace Nesting

/-- How deliveries end on a thread with the given marks. -/
def outcome (k : Nat) (n : Nesting) (m : Marks) : Except Panic Unit := (n.run k ⟨m, []⟩).1

/-- The events of deliveries on a thread with the given marks. -/
def trace (k : Nat) (n : Nesting) (m : Marks) : List ScopeEvent := (n.run k ⟨m, []⟩).2.events

/-- What happens inside a delivery finds its mark. When it gives back the marks that it finds, so
does the delivery, however it ends. -/
theorem deliver_of_eq {k : Nat} {s : Signal} {m : Marks} {es es' : List ScopeEvent}
    {body : TracedThread → Except Panic Unit × TracedThread} {r : Except Panic Unit}
    (h : body ⟨Marks.enter s m, es ++ [.enter k s]⟩ =
      (r, ⟨Marks.enter s m, es ++ [.enter k s] ++ es'⟩)) :
    (TracedThread.scopes k).deliver s body ⟨m, es⟩ =
      (r, ⟨m, es ++ .enter k s :: (es' ++ [.drop k s])⟩) := by
  simp only [Scopes.deliver, TracedThread.scopes, h, Marks.leave_enter, List.append_assoc,
    List.cons_append, List.nil_append]

/-- Deliveries give back the marks that they find, and add their events to those before them. -/
theorem run_eq (k : Nat) (n : Nesting) (m : Marks) (es : List ScopeEvent) :
    n.run k ⟨m, es⟩ = (n.outcome k m, ⟨m, es ++ n.trace k m⟩) := by
  suffices ∃ r new, ∀ es, n.run k ⟨m, es⟩ = (r, ⟨m, es ++ new⟩) by
    obtain ⟨r, new, h⟩ := this
    simp only [outcome, trace, h, List.nil_append]
  clear es
  induction n generalizing m with
  | done => exact ⟨.ok (), [], fun es => by simp [run]⟩
  | panic p => exact ⟨.error p, [], fun es => by simp [run]⟩
  | look next ih => exact ih m m
  | deliver s inside rest ihinside ihrest =>
    obtain ⟨r, new, hinside⟩ := ihinside (Marks.enter s m)
    obtain ⟨r', new', hrest⟩ := ihrest m
    have hdeliver (es : List ScopeEvent) := deliver_of_eq (hinside (es ++ [.enter k s]))
    cases r with
    | ok _ =>
      refine ⟨r', .enter k s :: (new ++ [.drop k s]) ++ new', fun es => ?_⟩
      rw [run, hdeliver, ← List.append_assoc]
      exact hrest _
    | error p => exact ⟨.error p, _, fun es => by rw [run, hdeliver]⟩
  | caught s inside rest ihinside ihrest =>
    obtain ⟨r, new, hinside⟩ := ihinside (Marks.enter s m)
    obtain ⟨r', new', hrest⟩ := ihrest m
    have hdeliver (es : List ScopeEvent) := deliver_of_eq (hinside (es ++ [.enter k s]))
    refine ⟨r', .enter k s :: (new ++ [.drop k s]) ++ new', fun es => ?_⟩
    rw [run, hdeliver, hrest, List.append_assoc]

/-- A delivery runs what happens inside it with its mark, and returns what comes of that or is
unwound by its panic, with the marks as they were. -/
theorem deliver_run (k : Nat) (n : Nesting) (s : Signal) (m : Marks) (es : List ScopeEvent) :
    (TracedThread.scopes k).deliver s (n.run k) ⟨m, es⟩ =
      (n.outcome k (Marks.enter s m),
        ⟨m, es ++ .enter k s :: (n.trace k (Marks.enter s m) ++ [.drop k s])⟩) :=
  deliver_of_eq (n.run_eq k _ _)

/-- A panic inside a delivery drops its scope too, and nothing follows. -/
theorem trace_deliver (k : Nat) (s : Signal) (inside rest : Nesting) (m : Marks) :
    (deliver s inside rest).trace k m =
      .enter k s :: (inside.trace k (Marks.enter s m) ++ .drop k s ::
        match inside.outcome k (Marks.enter s m) with
        | .ok () => rest.trace k m
        | .error _ => []) := by
  rw [trace, run, deliver_run]
  cases inside.outcome k (Marks.enter s m) with
  | ok _ => simp [run_eq]
  | error p => simp

theorem trace_caught (k : Nat) (s : Signal) (inside rest : Nesting) (m : Marks) :
    (caught s inside rest).trace k m =
      .enter k s :: (inside.trace k (Marks.enter s m) ++ .drop k s :: rest.trace k m) := by
  rw [trace, run, deliver_run, run_eq]
  simp

end Nesting

namespace ScopedThreads

open ScopeEvent (own marksAfter)

variable {t : ScopedThreads} {events : List ScopeEvent}

theorem run_scope {inside : List ScopeEvent} (h : ∀ t : ScopedThreads, t.run inside = some t)
    (t : ScopedThreads) (k : Nat) (s : Signal) (rest : List ScopeEvent) :
    t.run (.enter k s :: (inside ++ .drop k s :: rest)) = t.run rest := by
  let u : ScopedThreads := ⟨t.update k (.enter s), (k, s) :: t.alive⟩
  have henter : t.step (.enter k s) = some u := rfl
  have hdrop : u.step (.drop k s) = some t := by
    have hmarks : u.update k (.leave s) = t.marks := by
      funext k'
      simp only [update, u]
      split
      next => exact Marks.leave_enter s _
      next => rfl
    simp [step, hmarks, u]
  rw [run_cons, henter, Option.bind_some, run_append, h u, Option.bind_some, run_cons, hdrop,
    Option.bind_some]

/-- The events of deliveries are those of a run, and change nothing in the end. -/
theorem run_trace (n : Nesting) (k : Nat) (m : Marks) (t : ScopedThreads) :
    t.run (n.trace k m) = some t := by
  induction n generalizing m t with
  | done => rfl
  | panic p => rfl
  | look next ih => exact ih m m t
  | deliver s inside rest ihinside ihrest =>
    rw [Nesting.trace_deliver, run_scope (ihinside _)]
    cases inside.outcome k (Marks.enter s m) with
    | ok _ => exact ihrest m t
    | error p => rfl
  | caught s inside rest ihinside ihrest =>
    rw [Nesting.trace_caught, run_scope (ihinside _)]
    exact ihrest m t

theorem closed_trace (n : Nesting) (k : Nat) (m : Marks) : ScopeEvent.Closed (n.trace k m) :=
  ⟨start, run_trace n k m start, rfl⟩

/-! ### All runs -/

/-- The account of the marks after any run. They are in number the scopes entered and not dropped,
so that a signal is active just when such a scope is alive; they are made by the events of their
own thread; deliveries on a thread among any events of other threads leave them as they were; and
so does each delivery, whether it returns or is unwound, while what happens inside it finds its mark
in front of them. -/
theorem marks_of_scopes (h : start.run events = some t) :
    (∀ k s, (t.marks k).count s = t.alive.count (k, s) ∧
      t.alive.count (k, s) + events.count (.drop k s) = events.count (.enter k s)) ∧
    (∀ k s, (t.marks k).isActive s = true ↔ (k, s) ∈ t.alive) ∧
    (∀ k, t.marks k = marksAfter [] (own k events)) ∧
    (∀ (n : Nesting) k during t', t.run during = some t' → own k during = n.trace k (t.marks k) →
      t'.marks k = t.marks k) ∧
    ∀ (n : Nesting) k s m es, (TracedThread.scopes k).deliver s (n.run k) ⟨m, es⟩ =
      (n.outcome k (Marks.enter s m),
        ⟨m, es ++ .enter k s :: (n.trace k (Marks.enter s m) ++ [.drop k s])⟩) := by
  have hmarked := marked_of_run h
  refine ⟨fun k s => ⟨hmarked k s, count_alive_of_run h k s⟩, fun k s => hmarked.isActive_iff,
    marks_of_run h, ?deliveries, fun n k => n.deliver_run k⟩
  case deliveries =>
    intro n k during t' hduring hown
    have hclosed : ScopeEvent.Closed (own k during) := hown ▸ closed_trace n k (t.marks k)
    exact hclosed.marks_eq hmarked hduring

/-- Two scopes of one kind are entered around another and all are dropped in the order of their
entering, while one of the kind stays alive on a second thread. -/
theorem marks_of_scopes_in_entering_order :
    ∃ t, start.run [.enter 0 .onNext, .enter 1 .onNext, .enter 0 .onComplete, .enter 0 .onNext,
        .drop 0 .onNext, .drop 0 .onComplete, .drop 0 .onNext] = some t ∧
      (∀ k s, (t.marks k).isActive s = true ↔ (k, s) ∈ t.alive) ∧ t.alive = [(1, .onNext)] := by
  obtain ⟨t, h⟩ : ∃ t, start.run [.enter 0 .onNext, .enter 1 .onNext, .enter 0 .onComplete,
      .enter 0 .onNext, .drop 0 .onNext, .drop 0 .onComplete, .drop 0 .onNext] = some t := ⟨_, rfl⟩
  refine ⟨t, h, (marks_of_scopes h).2.1, ?_⟩
  cases h
  rfl

end ScopedThreads

end StreamConformance
