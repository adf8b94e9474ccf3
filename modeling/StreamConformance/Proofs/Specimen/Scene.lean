import StreamConformance.Proofs.Manual.Publisher
import StreamConformance.Proofs.Probe.Terminal
import StreamConformance.Proofs.Stage.Feed
import StreamConformance.Proofs.Specimen.Traits

/-!
# Scenes

A scene describes a specimen on its stage as far as the scenarios can tell: the requests that wait,
whether the subscription has been cancelled, the puppet, and what has been reported to the probe. A
run shows a scene as long as it is fed, so that nothing has been recorded.
Each call of the specimen changes one item of the scene.

## Main definitions

* `Scene`, `Run.Shows` — a scene, and the runs that show it.

## Main results

* `Run.Shows.deliver` — what a stimulus does to the scene.
-/

namespace StreamConformance

open Stream' (Seq)

variable {α σ η : Type}

/-- What the scenarios can tell of a specimen on its stage. -/
structure Scene (α : Type) where
  /-- The values that the helper has left. -/
  left : Seq α
  /-- The requests that wait to be looked at. -/
  requests : List UInt64
  isCancelled : Bool
  puppet : Option Nat
  /-- The reported elements that wait to be looked at. -/
  reports : List α
  /-- The terminal signal that has been reported, if any. -/
  terminals : List (Call α)

/-- The run shows the scene: the specimen holds the publisher's subscription, which is the only one
that it has been offered. -/
structure Run.Shows (v : Verification α (Option Nat) η) (number : Nat) (Left : Seq α → η → Prop)
    (s : Scene α) (r : Run α (Option Nat) η) : Prop extends r.Fed v number Left s.left where
  subject : r.subject = some 0
  offers : r.offers = [.publisher]
  second : r.second.isClosed = false
  publisher : r.publisher.Shows v.config.capacity s.requests s.isCancelled
  puppet : r.probe.puppet.value = s.puppet
  probe : r.probe.blackbox.Shows v.config.capacity s.reports s.terminals

theorem Run.reportBy_of_accepted {c : Call α} {r : Run α σ η} {p : WhiteboxProbe α Nat}
    {f : WhiteboxProbe α Nat → Option Violation × WhiteboxProbe α Nat}
    (hf : f r.probe = (none, p)) :
    r.reportBy c f = ({ r with probe := p } : Run α σ η).note (.reported c true) := by
  simp only [reportBy, hf]
  rfl

/-- A specimen answers a stimulus by its calls and never panics. The marks of the thread are those
of the signal meanwhile. -/
theorem Run.deliver_specimen [Element α] {v : Verification α (Option Nat) η} {k : Specimen}
    (hv : v.subject = k.subject) (x : Stimulus α) (r : Run α (Option Nat) η) : ∃ m m',
      r.deliver v x = (.ok (), { (k.respond r.subject x).1.foldl (fun r c => r.perform v c.1 c.2)
        (({ r with marks := m, subject := (k.respond r.subject x).2 } :
          Run α (Option Nat) η).note (.stimulated x)) with marks := m' }) := by
  have hstimulate (r : Run α (Option Nat) η) : r.stimulate v x =
      (.ok (), (k.respond r.subject x).1.foldl (fun r c => r.perform v c.1 c.2)
        (({ r with subject := (k.respond r.subject x).2 } : Run α (Option Nat) η).note
          (.stimulated x))) := by
    simp only [stimulate, hv]
    rfl
  rw [deliver_eq]
  split
  · exact ⟨r.marks, _, hstimulate r⟩
  · rw [hstimulate]
    exact ⟨_, _, rfl⟩

namespace Run.Shows

variable {v : Verification α (Option Nat) η} {number : Nat} {Left : Seq α → η → Prop}
  {s s' : Scene α} {r : Run α (Option Nat) η} [Element α]

theorem request (h : r.Shows v number Left s) (lane : Lane) {n : UInt64} (hn : n ≠ 0)
    (hroom : s.requests.length < v.config.capacity) :
    (r.perform v lane (.request 0 n)).Shows v number Left
      { s with requests := s.requests ++ [n] } := by
  obtain ⟨p, hrequest, hp⟩ := h.publisher.request hn hroom
  have hperform : r.perform v lane (.request 0 n) =
      { r.note (.requested .publisher lane n) with publisher := p } := by
    simp only [perform, h.offers, requestOn, publisher_note, hrequest]
    rfl
  rw [hperform]
  exact { h with publisher := hp }

theorem request_full (h : r.Shows v number Left s) (lane : Lane) {n : UInt64} (hn : n ≠ 0)
    (hfull : v.config.capacity ≤ s.requests.length) :
    (r.perform v lane (.request 0 n)).log.entries =
      [ManualPublisher.requestOverflow v.config.capacity] := by
  have hrequest := h.publisher.request_full hn hfull
  have hperform : r.perform v lane (.request 0 n) = (r.note (.requested .publisher lane n)).record
      (some (ManualPublisher.requestOverflow v.config.capacity)) := by
    simp only [perform, h.offers, requestOn, publisher_note, hrequest]
    rfl
  rw [hperform, log_record, log_note, h.log]
  rfl

theorem requests (h : r.Shows v number Left s) {ns : List UInt64} (hns : 0 ∉ ns)
    (hroom : s.requests.length + ns.length ≤ v.config.capacity) :
    ((Specimen.requests 0 ns).foldl (fun r c => r.perform v c.1 c.2) r).Shows v number Left
      { s with requests := s.requests ++ ns } := by
  induction ns generalizing r s with
  | nil => simpa using h
  | cons n ns ih =>
    simp only [List.mem_cons, not_or, List.length_cons] at hns hroom
    have hfirst := h.request .delivering (Ne.symm hns.1) (by omega)
    have hrest := ih hfirst hns.2 (by simp only [List.length_append, List.length_singleton]; omega)
    simpa using hrest

theorem cancel (h : r.Shows v number Left s) (lane : Lane) :
    (r.perform v lane (.cancel 0)).Shows v number Left { s with isCancelled := true } := by
  have hperform : r.perform v lane (.cancel 0) =
      { r.note (.cancelled .publisher lane) with publisher := r.publisher.cancel } := by
    simp only [perform, h.offers]
    rfl
  rw [hperform]
  exact { h with publisher := h.publisher.cancel }

theorem registerPuppet (h : r.Shows v number Left s) (hs : s.puppet = none) (lane : Lane)
    (puppet : Nat) : (r.perform v lane (.registerPuppet puppet)).Shows v number Left
      { s with puppet := some puppet } := by
  have hnone : r.probe.puppet.isCompleted = false := by
    rw [Promise.isCompleted, h.puppet, hs]
    rfl
  have hregister : WhiteboxProbe.registerPuppet (r.subjectName v) puppet r.probe =
      (none, { r.probe with puppet := .completed puppet }) := by
    simp [WhiteboxProbe.registerPuppet, Promise.complete, hnone]
  rw [perform, reportBy_of_accepted hregister]
  exact { h with puppet := rfl }

omit [Element α] in
theorem report (h : r.Shows v number Left s) {c : Call α}
    {f : BlackboxProbe α → Option Violation × BlackboxProbe α} {p : BlackboxProbe α}
    (hf : f r.probe.blackbox = (none, p)) {as : List α} {calls : List (Call α)}
    (hp : p.Shows v.config.capacity as calls) :
    (r.reportBy c (WhiteboxProbe.report f)).Shows v number Left
      { s with reports := as, terminals := calls } := by
  have hreport : WhiteboxProbe.report f r.probe = (none, { r.probe with blackbox := p }) := by
    rw [WhiteboxProbe.report, hf]
  rw [reportBy_of_accepted hreport]
  exact { h with probe := hp }

/-- Before the terminal signal an element for which there is room is reported. -/
theorem registerNext (h : r.Shows v number Left s) (hs : s.terminals = [])
    (hroom : s.reports.length < v.config.capacity) (lane : Lane) (a : α) :
    (r.perform v lane (.registerNext a)).Shows v number Left
      { s with reports := s.reports ++ [a] } := by
  have hprobe := h.probe
  rw [hs] at hprobe
  obtain ⟨p, hregister, hp⟩ := hprobe.registerNext hroom (r.subjectName v) a
  have hshows := h.report (c := .registerNext a) hregister hp
  rwa [← hs] at hshows

theorem registerComplete (h : r.Shows v number Left s) (hs : s.terminals = []) (lane : Lane) :
    (r.perform v lane .registerComplete).Shows v number Left
      { s with terminals := [.registerComplete] } := by
  have hprobe := h.probe
  rw [hs] at hprobe
  obtain ⟨p, hregister, hp⟩ := hprobe.registerComplete
  exact h.report hregister hp

theorem registerError (h : r.Shows v number Left s) (hs : s.terminals = []) (lane : Lane)
    (e : StreamError) : (r.perform v lane (.registerError e)).Shows v number Left
      { s with terminals := [.registerError e] } := by
  have hprobe := h.probe
  rw [hs] at hprobe
  obtain ⟨p, hregister, hp⟩ := hprobe.registerError e
  exact h.report hregister hp

/-! ### Stimuli -/

/-- What a specimen does in a terminal signal, besides reporting it, may change the requests and the
cancellation. -/
theorem terminalCalls (number : Nat) (Left : Seq α → η → Prop) (k : Specimen)
    (hroom : s.requests.length + k.farewell.length ≤ v.config.capacity) :
    ∃ requests isCancelled, ∀ r : Run α (Option Nat) η, r.Shows v number Left s →
      ((k.terminalCalls (some 0)).foldl (fun r c => r.perform v c.1 c.2) r).Shows v number Left
        { s with requests, isCancelled } := by
  cases k
  case reentrant =>
    exact ⟨_, _, fun r h => (h.request .delivering (by decide) hroom).cancel .delivering⟩
  case deferredReentrant => exact ⟨_, _, fun r h => h.cancel .other⟩
  all_goals exact ⟨_, _, fun r h => h⟩

variable {k : Specimen}

/-- What a stimulus does to a scene is what the calls that answer it do. -/
theorem deliver_of (h : ({ r with subject := some 0 } : Run α (Option Nat) η).Shows v number Left s)
    (hv : v.subject = k.subject) {x : Stimulus α} {calls : List (Lane × Call α)}
    (hrespond : k.respond r.subject x = (calls, some 0))
    (hcalls : ∀ r : Run α (Option Nat) η, r.Shows v number Left s →
      (calls.foldl (fun r c => r.perform v c.1 c.2) r).Shows v number Left s') :
    ∃ r', r.deliver v x = (.ok (), r') ∧ r'.Shows v number Left s' := by
  obtain ⟨m, m', hdeliver⟩ := Run.deliver_specimen hv x r
  rw [hrespond] at hdeliver
  have hstart : (({ r with marks := m, subject := some 0 } : Run α (Option Nat) η).note
      (.stimulated x)).Shows v number Left s := { h with subject := rfl }
  exact ⟨_, hdeliver, { hcalls _ hstart with }⟩

/-- What a stimulus does to a scene is what the calls that answer it do, if the specimen keeps its
subscription. -/
theorem deliver (h : r.Shows v number Left s) (hv : v.subject = k.subject) {x : Stimulus α}
    {calls : List (Lane × Call α)} (hrespond : k.respond (some 0) x = (calls, some 0))
    (hcalls : ∀ r : Run α (Option Nat) η, r.Shows v number Left s →
      (calls.foldl (fun r c => r.perform v c.1 c.2) r).Shows v number Left s') :
    ∃ r', r.deliver v x = (.ok (), r') ∧ r'.Shows v number Left s' := by
  have hset : ({ r with subject := some 0 } : Run α (Option Nat) η).Shows v number Left s :=
    { h with subject := rfl }
  exact hset.deliver_of hv (h.subject ▸ hrespond) hcalls

end Run.Shows

end StreamConformance
