import StreamConformance.Proofs.Cell.Queue

/-!
# Queues as bounded sequences

Seen from outside, a queue is a bounded sequence of elements with a mark that it has ended. Inside,
the elements and the end marker stand in one line, and each operation finds and removes what it
wants in a way of its own. The two agree, call by call, as long as the marker stands behind all
elements; and it does, since no call puts anything behind it and none takes it away. Handles of one
queue share the line and the mark, and each of them knows the capacity.

## Main definitions

* `BoundedSequence` — the abstract state, with what each call does to it.
* `QueueCall`, `QueueAnswer` — the calls on a queue and what they are answered with.
* `Queue.view` — the bounded sequence that a queue shows.
* `SharedQueue` — a queue behind several handles.

## Main results

* `Queue.Ordered.front` — what can stand at the front of a queue.
* `QueueCall.answer_view` — one call, on the queue and on what it shows.
* `SharedQueue.answers_run` — any calls through any handles.
-/

namespace StreamConformance

variable {α : Type}

/-! ### Bounded sequences -/

/-- A sequence of at most `capacity` elements that may end. -/
structure BoundedSequence (α : Type) where
  capacity : Nat
  elements : List α
  isEnded : Bool
  deriving DecidableEq

namespace BoundedSequence

/-- A sequence without elements that has not ended. -/
def empty (capacity : Nat) : BoundedSequence α := ⟨capacity, [], false⟩

/-- An element is appended if the sequence has not ended and has room. -/
def add (a : α) (s : BoundedSequence α) : Except Refusal Unit × BoundedSequence α :=
  if s.isEnded then (.error .alreadyCompleted, s)
  else if s.elements.length < s.capacity then
    (.ok (), { s with elements := s.elements ++ [a] })
  else (.error (.overflow s.capacity), s)

/-- The sequence ends, if it has not ended yet, however many elements it has. -/
def complete (s : BoundedSequence α) : Except Refusal Unit × BoundedSequence α :=
  if s.isEnded then (.error .alreadyCompleted, s) else (.ok (), { s with isEnded := true })

/-- The mismatch of the end where an element is expected. -/
def endForElement (message : String) : Violation :=
  .mismatch ("Expected element but got end-of-stream (" ++ message ++ ")")

/-- The first element is taken; without one the end is a mismatch, and otherwise the time passes. -/
def next (timeout : Duration) (message : String) (s : BoundedSequence α) :
    Except Violation α × BoundedSequence α :=
  match s.elements with
  | a :: rest => (.ok a, { s with elements := rest })
  | [] => (.error (if s.isEnded then endForElement message else .timeout message timeout), s)

/-- The first element is taken, `n` times or up to the first failure. -/
def nextN (timeout : Duration) (message : String) :
    Nat → BoundedSequence α → Except Violation (List α) × BoundedSequence α
  | 0, s => (.ok [], s)
  | n + 1, s =>
    match s.next timeout message with
    | (.error v, s) => (.error v, s)
    | (.ok a, s) => Prod.map (Except.map (a :: ·)) id (nextN timeout message n s)

variable [Element α]

/-- The mismatch of an element where the end is expected. -/
def elementForEnd (message : String) (a : α) : Violation :=
  .mismatch ("Expected end-of-stream but got element [" ++ Element.debugText a ++ "] (" ++
    message ++ ")")

/-- The end is there if there is no element and the sequence has ended. The first element is taken
and reported; without one the time passes. -/
def completion (timeout : Duration) (message : String) (s : BoundedSequence α) :
    Except Violation Unit × BoundedSequence α :=
  match s.elements with
  | a :: rest => (.error (elementForEnd message a), { s with elements := rest })
  | [] => (if s.isEnded then .ok () else .error (.timeout message timeout), s)

/-- The oversupply of an element where nothing is expected. -/
def elementForNothing (message : String) (a : α) : Violation :=
  .oversupply (message ++ ": expected no element but got [" ++ Element.debugText a ++ "]")

/-- The mismatch of the end where nothing is expected. -/
def endForNothing (message : String) : Violation :=
  .mismatch (message ++ ": expected no element but got onComplete")

/-- Nothing is there if there is no element and the sequence has not ended. The first element is
taken and reported; without one the end is reported. -/
def silence (message : String) (s : BoundedSequence α) :
    Except Violation Unit × BoundedSequence α :=
  match s.elements with
  | a :: rest => (.error (elementForNothing message a), { s with elements := rest })
  | [] => (if s.isEnded then .error (endForNothing message) else .ok (), s)

end BoundedSequence

/-! ### Calls -/

/-- What can be called on a queue. -/
inductive QueueCall (α : Type) where
  | add (a : α)
  | complete
  | next (timeout : Duration) (message : String)
  | nextN (timeout : Duration) (message : String) (n : Nat)
  | completion (timeout : Duration) (message : String)
  | silence (within : Duration) (message : String)
  | length
  | isCompleted

/-- What a call on a queue is answered with. -/
inductive QueueAnswer (α : Type) where
  | written (r : Except Refusal Unit)
  | element (r : Except Violation α)
  | elements (r : Except Violation (List α))
  | verdict (r : Except Violation Unit)
  | number (n : Nat)
  | flag (b : Bool)

namespace QueueCall

variable [Element α]

/-- The answer of a queue while nothing else happens to it, and the queue afterwards. -/
def answer (q : Queue α) : QueueCall α → QueueAnswer α × Queue α
  | add a => (q.add a).map .written id
  | complete => q.complete.map .written id
  | next timeout message => ((Queue.next timeout message).now q).map .element id
  | nextN timeout message n => (Queue.nextN timeout message n q).map .elements id
  | completion timeout message => ((Queue.completion timeout message).now q).map .verdict id
  | silence within message => ((Queue.silence within message).now q).map .verdict id
  | length => (.number q.length, q)
  | isCompleted => (.flag q.isCompleted, q)

/-- The answer of a bounded sequence, and the sequence afterwards. -/
def abstractAnswer (s : BoundedSequence α) : QueueCall α → QueueAnswer α × BoundedSequence α
  | add a => (s.add a).map .written id
  | complete => s.complete.map .written id
  | next timeout message => (s.next timeout message).map .element id
  | nextN timeout message n => (s.nextN timeout message n).map .elements id
  | completion timeout message => (s.completion timeout message).map .verdict id
  | silence _ message => (s.silence message).map .verdict id
  | length => (.number s.elements.length, s)
  | isCompleted => (.flag s.isEnded, s)

end QueueCall

namespace Queue

/-! ### The front of a queue -/

/-- The bounded sequence that a queue shows. -/
def view (q : Queue α) : BoundedSequence α := ⟨q.capacity, q.elements, q.isCompleted⟩

/-- What is at the front of a queue, with what the queue shows. -/
inductive Front (q : Queue α) : Prop where
  /-- An element, with the other elements and the end marker behind it. -/
  | element (a : α) (rest : List α) (helements : q.elements = a :: rest)
      (hentries : q.entries =
        .element a :: (rest.map .element ++ if q.isCompleted then [.endMarker] else []))
  /-- The end marker, with nothing behind it. -/
  | endMarker (helements : q.elements = []) (hended : q.isCompleted = true)
      (hentries : q.entries = [.endMarker])
  /-- Nothing. -/
  | nothing (helements : q.elements = []) (hopen : q.isCompleted = false)
      (hentries : q.entries = [])

variable {q : Queue α}

/-- At the front of an ordered queue is its first element, or else the end marker if the queue has
ended. -/
theorem Ordered.front (h : q.Ordered) : q.Front := by
  cases helements : q.elements with
  | cons a rest =>
    rw [Ordered, helements] at h
    exact .element a rest helements h
  | nil =>
    rw [Ordered, helements] at h
    cases hended : q.isCompleted with
    | true => exact .endMarker helements hended (by rw [h, hended]; rfl)
    | false => exact .nothing helements hended (by rw [h, hended]; rfl)

/-! ### One call -/

/-- An element is added to an ordered queue as it is to the sequence that the queue shows. -/
theorem Ordered.add_view (h : q.Ordered) (a : α) :
    (q.add a).map id view = q.view.add a := by
  cases hended : q.isCompleted with
  | true => simp [Queue.add, BoundedSequence.add, view, hended]
  | false =>
    have hholds := Holds.of_ordered h hended
    by_cases hroom : q.elements.length < q.capacity
    · obtain ⟨r, hadd, hr⟩ := hholds.add hroom a
      simp [hadd, BoundedSequence.add, view, hended, hroom, hr.capacity_eq, hr.elements_eq,
        hr.isOpen]
    · simp [hholds.add_full (Nat.le_of_not_lt hroom), BoundedSequence.add, view, hended, hroom]

theorem complete_view (q : Queue α) : q.complete.map id view = q.view.complete := by
  cases hended : q.isCompleted with
  | true => simp [complete, BoundedSequence.complete, view, hended]
  | false =>
    simp [complete, BoundedSequence.complete, view, hended, elements, entries, Queued.element?]

/-- An element is taken from an ordered queue as it is from the sequence that the queue shows. -/
theorem Ordered.next_view (h : q.Ordered) (timeout : Duration) (message : String) :
    ((Queue.next timeout message).now q).map id view = q.view.next timeout message ∧
      ((Queue.next timeout message).now q).2.Ordered := by
  cases h.front with
  | element a rest helements hentries =>
    obtain ⟨hready, line, hpop, hline⟩ := pop_of_entries hentries
    obtain ⟨hrest, hordered⟩ := ordered_of_entries (q := { q with line := line }) hline
    have hnow : (Queue.next timeout message).now q = (.ok a, { q with line := line }) := by
      simp [Expectation.now, Queue.next, hready, hpop]
    rw [hnow]
    exact ⟨by simp [BoundedSequence.next, view, helements, hrest], hordered⟩
  | endMarker helements hended hentries =>
    obtain ⟨hready, line, hpop, -⟩ := pop_of_entries hentries
    have hnow : (Queue.next timeout message).now q =
        (.error (BoundedSequence.endForElement message), q) := by
      simp [Expectation.now, Queue.next, hready, hpop, BoundedSequence.endForElement]
    rw [hnow]
    exact ⟨by simp [BoundedSequence.next, view, helements, hended], h⟩
  | nothing helements hopen hentries =>
    have hready : q.line.isEmpty = true := Fifo.isEmpty_iff.mpr hentries
    have hnow : (Queue.next timeout message).now q = (.error (.timeout message timeout), q) := by
      simp [Expectation.now, Queue.next, hready]
    rw [hnow]
    exact ⟨by simp [BoundedSequence.next, view, helements, hopen], h⟩

/-- Elements are taken one after the other, and from the queue as from the sequence. -/
theorem Ordered.nextN_view (h : q.Ordered) (timeout : Duration) (message : String) (n : Nat) :
    (Queue.nextN timeout message n q).map id view = q.view.nextN timeout message n ∧
      (Queue.nextN timeout message n q).2.Ordered := by
  induction n generalizing q with
  | zero => exact ⟨rfl, h⟩
  | succ n ih =>
    obtain ⟨hview, hordered⟩ := h.next_view timeout message
    rcases hnow : (Queue.next timeout message).now q with ⟨x | a, r⟩
    · rw [hnow] at hview hordered
      have hnextN : Queue.nextN timeout message (n + 1) q = (.error x, r) := by
        rw [Queue.nextN, Expectation.collect, hnow]
      rw [hnextN, BoundedSequence.nextN, ← hview]
      exact ⟨rfl, hordered⟩
    · rw [hnow] at hview hordered
      obtain ⟨hrest, hlast⟩ := ih hordered
      have hnextN : Queue.nextN timeout message (n + 1) q =
          (Queue.nextN timeout message n r).map (Except.map (a :: ·)) id := by
        rw [Queue.nextN, Expectation.collect, hnow, Queue.nextN]
        dsimp only
        rcases Expectation.collect (Queue.next timeout message).now n r with ⟨x | as, r'⟩ <;> rfl
      rw [hnextN, BoundedSequence.nextN, ← hview]
      refine ⟨?_, hlast⟩
      simp only [Prod.map, id]
      rw [← hrest]
      rfl

variable [Element α]

/-- The end of an ordered queue is expected as that of the sequence that the queue shows. -/
theorem Ordered.completion_view (h : q.Ordered) (timeout : Duration) (message : String) :
    ((Queue.completion timeout message).now q).map id view =
        q.view.completion timeout message ∧
      ((Queue.completion timeout message).now q).2.Ordered := by
  cases h.front with
  | element a rest helements hentries =>
    obtain ⟨hready, line, hpop, hline⟩ := pop_of_entries hentries
    obtain ⟨hrest, hordered⟩ := ordered_of_entries (q := { q with line := line }) hline
    have hnow : (Queue.completion timeout message).now q =
        (.error (BoundedSequence.elementForEnd message a), { q with line := line }) := by
      simp [Expectation.now, Queue.completion, hready, hpop, BoundedSequence.elementForEnd]
    rw [hnow]
    exact ⟨by simp [BoundedSequence.completion, view, helements, hrest], hordered⟩
  | endMarker helements hended hentries =>
    obtain ⟨hready, line, hpop, -⟩ := pop_of_entries hentries
    have hnow : (Queue.completion timeout message).now q = (.ok (), q) := by
      simp [Expectation.now, Queue.completion, hready, hpop]
    rw [hnow]
    exact ⟨by simp [BoundedSequence.completion, view, helements, hended], h⟩
  | nothing helements hopen hentries =>
    have hready : q.line.isEmpty = true := Fifo.isEmpty_iff.mpr hentries
    have hnow : (Queue.completion timeout message).now q =
        (.error (.timeout message timeout), q) := by
      simp [Expectation.now, Queue.completion, hready]
    rw [hnow]
    exact ⟨by simp [BoundedSequence.completion, view, helements, hopen], h⟩

/-- Silence is expected of an ordered queue as it is of the sequence that the queue shows: the
element that breaks it is looked for in the whole line, and it is found at the front. -/
theorem Ordered.silence_view (h : q.Ordered) (within : Duration) (message : String) :
    ((Queue.silence within message).now q).map id view = q.view.silence message ∧
      ((Queue.silence within message).now q).2.Ordered := by
  cases h.front with
  | element a rest helements hentries =>
    have hready : (q.entries.any fun x => x.element?.isSome) = true := by
      simp [hentries, Queued.element?]
    let line : Fifo (Queued α) :=
      .ofList (rest.map .element ++ if q.isCompleted then [.endMarker] else [])
    have hextract : q.line.extract? Queued.element? = some (a, line) :=
      Fifo.extract?_of_toList_eq_cons hentries rfl
    obtain ⟨hrest, hordered⟩ :=
      ordered_of_entries (q := { q with line := line }) (Fifo.toList_ofList _)
    have hnow : (Queue.silence within message).now q =
        (.error (BoundedSequence.elementForNothing message a), { q with line := line }) := by
      simp [Expectation.now, Queue.silence, hready, hextract, BoundedSequence.elementForNothing]
    rw [hnow]
    exact ⟨by simp [BoundedSequence.silence, view, helements, hrest], hordered⟩
  | endMarker helements hended hentries =>
    have hextract : q.line.extract? Queued.element? = none :=
      Fifo.extract?_eq_none_iff.mpr fun x hx => by
        have hx : x ∈ q.entries := hx
        rw [hentries, List.mem_singleton] at hx
        rw [hx, Queued.element?]
    have hnow : (Queue.silence within message).now q =
        (.error (BoundedSequence.endForNothing message), q) := by
      simp [Expectation.now, Queue.silence, hended, hextract, BoundedSequence.endForNothing]
    rw [hnow]
    exact ⟨by simp [BoundedSequence.silence, view, helements, hended], h⟩
  | nothing helements hopen hentries =>
    have hnow : (Queue.silence within message).now q = (.ok (), q) := by
      simp [Expectation.now, Queue.silence, hentries, hopen]
    rw [hnow]
    exact ⟨by simp [BoundedSequence.silence, view, helements, hopen], h⟩

end Queue

/-- A call on an ordered queue is answered as by the sequence that the queue shows, it changes the
two alike, and nothing comes to stand behind the end marker. -/
theorem QueueCall.answer_view [Element α] {q : Queue α} (h : q.Ordered) (c : QueueCall α) :
    (c.answer q).map id Queue.view = c.abstractAnswer q.view ∧ (c.answer q).2.Ordered := by
  have lift {ρ : Type} {r : ρ × Queue α} {s : ρ × BoundedSequence α} (f : ρ → QueueAnswer α)
      (hview : r.map id Queue.view = s) :
      (r.map f id).map id Queue.view = s.map f id := by
    rw [← hview]
    rfl
  cases c with
  | add a => exact ⟨lift .written (h.add_view a), h.add a⟩
  | complete => exact ⟨lift .written q.complete_view, h.complete⟩
  | next timeout message =>
    obtain ⟨hview, hordered⟩ := h.next_view timeout message
    exact ⟨lift .element hview, hordered⟩
  | nextN timeout message n =>
    obtain ⟨hview, hordered⟩ := h.nextN_view timeout message n
    exact ⟨lift .elements hview, hordered⟩
  | completion timeout message =>
    obtain ⟨hview, hordered⟩ := h.completion_view timeout message
    exact ⟨lift .verdict hview, hordered⟩
  | silence within message =>
    obtain ⟨hview, hordered⟩ := h.silence_view within message
    exact ⟨lift .verdict hview, hordered⟩
  | length => exact ⟨rfl, h⟩
  | isCompleted => exact ⟨rfl, h⟩

namespace BoundedSequence

variable {s : BoundedSequence α}

/-- Taking the first elements leaves no more elements than there were, and the capacity. -/
theorem nextN_le (timeout : Duration) (message : String) (n : Nat) (s : BoundedSequence α) :
    (s.nextN timeout message n).2.capacity = s.capacity ∧
      (s.nextN timeout message n).2.elements.length ≤ s.elements.length := by
  induction n generalizing s with
  | zero => exact ⟨rfl, Nat.le_refl _⟩
  | succ n ih =>
    rcases s with ⟨capacity, _ | ⟨a, rest⟩, isEnded⟩
    · exact ⟨rfl, Nat.le_refl _⟩
    · obtain ⟨hcapacity, hlength⟩ := ih ⟨capacity, rest, isEnded⟩
      exact ⟨hcapacity, Nat.le_succ_of_le hlength⟩

/-- No call changes the capacity, and none makes the sequence longer than that. -/
theorem length_le_of_answer [Element α] (h : s.elements.length ≤ s.capacity) (c : QueueCall α) :
    (c.abstractAnswer s).2.capacity = s.capacity ∧
      (c.abstractAnswer s).2.elements.length ≤ s.capacity := by
  rcases s with ⟨capacity, elements, isEnded⟩
  cases c with
  | add a =>
    simp only [QueueCall.abstractAnswer, add, Prod.map_snd, id] at h ⊢
    split
    · exact ⟨rfl, h⟩
    · split
      next hroom => exact ⟨rfl, by simpa using Nat.succ_le_of_lt hroom⟩
      next => exact ⟨rfl, h⟩
  | complete => cases isEnded <;> exact ⟨rfl, h⟩
  | nextN timeout message n =>
    obtain ⟨hcapacity, hlength⟩ := nextN_le timeout message n ⟨capacity, elements, isEnded⟩
    exact ⟨hcapacity, Nat.le_trans hlength h⟩
  | next | completion | silence =>
    cases elements with
    | nil => exact ⟨rfl, h⟩
    | cons a rest => exact ⟨rfl, Nat.le_of_succ_le h⟩
  | length => exact ⟨rfl, h⟩
  | isCompleted => exact ⟨rfl, h⟩

/-- The answers to calls that are made one after the other, and the sequence afterwards. -/
def answers [Element α] :
    List (QueueCall α) → BoundedSequence α → List (QueueAnswer α) × BoundedSequence α
  | [], s => ([], s)
  | c :: rest, s =>
    let r := c.abstractAnswer s
    let d := answers rest r.2
    (r.1 :: d.1, d.2)

end BoundedSequence

/-! ### Handles -/

/-- A queue behind several handles: they share the line and the mark, and each of them knows the
capacity. -/
structure SharedQueue (α : Type) where
  line : Fifo (Queued α)
  isCompleted : Bool
  /-- The capacities that the handles know, in the order in which the handles have been made. -/
  capacities : List Nat

namespace SharedQueue

/-- What can be done with a shared queue; handles are known by their numbers. -/
inductive Use (α : Type) where
  /-- Makes another handle of a handle. -/
  | clone (handle : Nat)
  /-- Makes a call through a handle. -/
  | call (handle : Nat) (c : QueueCall α)

/-- The calls that are made through handles that there are, when there are `handles` at first. -/
def Use.calls : Nat → List (Use α) → List (QueueCall α)
  | _, [] => []
  | handles, .clone handle :: rest => calls (if handle < handles then handles + 1 else handles) rest
  | handles, .call handle c :: rest =>
    if handle < handles then c :: calls handles rest else calls handles rest

/-- An empty queue with one handle. -/
def start (capacity : Nat) : SharedQueue α := ⟨.empty, false, [capacity]⟩

/-- The queue as it is for a handle. -/
def through (handle : Nat) (s : SharedQueue α) : Option (Queue α) :=
  s.capacities[handle]?.map fun capacity => ⟨capacity, s.line, s.isCompleted⟩

variable [Element α]

/-- Uses the queue once. A call is answered, if there is the handle that it is made through. -/
def use (s : SharedQueue α) : Use α → Option (QueueAnswer α) × SharedQueue α
  | .clone handle => (none, { s with capacities := s.capacities ++ s.capacities[handle]?.toList })
  | .call handle c =>
    match s.through handle with
    | none => (none, s)
    | some q =>
      let r := c.answer q
      (some r.1, { s with line := r.2.line, isCompleted := r.2.isCompleted })

/-- The answers to uses, in their order, and the queue afterwards. -/
def run : List (Use α) → SharedQueue α → List (QueueAnswer α) × SharedQueue α
  | [], s => ([], s)
  | u :: rest, s =>
    let r := s.use u
    let d := run rest r.2
    (r.1.toList ++ d.1, d.2)

/-- What a shared queue shows through all its handles: the elements stand in one line, in front of
the end marker, which is there once if the queue has ended and not at all otherwise. -/
structure Shows (s : SharedQueue α) (b : BoundedSequence α) : Prop where
  capacities : ∀ capacity ∈ s.capacities, capacity = b.capacity
  bounded : b.elements.length ≤ b.capacity
  ended : s.isCompleted = b.isEnded
  line : s.line.toList = b.elements.map .element ++ if b.isEnded then [.endMarker] else []

namespace Shows

variable {s : SharedQueue α} {b : BoundedSequence α}

omit [Element α] in
protected theorem start (capacity : Nat) :
    (start capacity : SharedQueue α).Shows (.empty capacity) where
  capacities := by simp [SharedQueue.start, BoundedSequence.empty]
  bounded := Nat.zero_le _
  ended := rfl
  line := rfl

omit [Element α] in
/-- The queue of a handle is ordered, and it shows what the shared queue does. -/
theorem of_through (h : s.Shows b) {handle : Nat} {q : Queue α} (hq : s.through handle = some q) :
    q.Ordered ∧ q.view = b := by
  obtain ⟨capacity, hcapacity, rfl⟩ := Option.map_eq_some_iff.mp hq
  obtain ⟨helements, hordered⟩ :=
    Queue.ordered_of_entries (q := ⟨capacity, s.line, s.isCompleted⟩) (h.ended ▸ h.line)
  refine ⟨hordered, ?_⟩
  rw [Queue.view, helements, h.capacities capacity (List.mem_of_getElem? hcapacity), h.ended]

/-- A call through a handle is answered as by the sequence that the shared queue shows. -/
theorem call (h : s.Shows b) {handle : Nat} (hhandle : handle < s.capacities.length)
    (c : QueueCall α) : (s.use (.call handle c)).1 = some (c.abstractAnswer b).1 ∧
      (s.use (.call handle c)).2.Shows (c.abstractAnswer b).2 ∧
      (s.use (.call handle c)).2.capacities = s.capacities := by
  obtain ⟨q, hq⟩ : ∃ q, s.through handle = some q := by
    rw [through, List.getElem?_eq_getElem hhandle]
    exact ⟨_, rfl⟩
  obtain ⟨hordered, rfl⟩ := h.of_through hq
  obtain ⟨hview, hordered'⟩ := c.answer_view hordered
  obtain ⟨hcapacity, hlength⟩ := BoundedSequence.length_le_of_answer h.bounded c
  simp only [use, hq]
  rw [← hview] at hcapacity hlength ⊢
  refine ⟨rfl, ⟨fun capacity hmem => ?_, ?_, rfl, hordered'⟩, trivial⟩
  · rw [hcapacity]
    exact h.capacities capacity hmem
  · rw [hcapacity]
    exact hlength

theorem clone (h : s.Shows b) (handle : Nat) :
    (s.use (.clone handle)).2.Shows b ∧ (s.use (.clone handle)).2.capacities.length =
      if handle < s.capacities.length then s.capacities.length + 1 else s.capacities.length := by
  refine ⟨⟨fun capacity hmem => ?_, h.bounded, h.ended, h.line⟩, ?_⟩
  · rcases List.mem_append.mp hmem with hmem | hmem
    · exact h.capacities capacity hmem
    · exact h.capacities capacity (List.mem_of_getElem? (Option.mem_toList.mp hmem))
  · rw [use, List.length_append]
    split
    next hlt => rw [List.getElem?_eq_getElem hlt]; rfl
    next hge => rw [List.getElem?_eq_none (Nat.le_of_not_lt hge)]; rfl

/-- What is answered through the handles of a queue, and what the queue shows afterwards; `handles`
is the number of the handles that have been made. -/
theorem run (h : s.Shows b) (uses : List (Use α)) :
    (SharedQueue.run uses s).1 = (b.answers (Use.calls s.capacities.length uses)).1 ∧
      (SharedQueue.run uses s).2.Shows (b.answers (Use.calls s.capacities.length uses)).2 := by
  induction uses generalizing s b with
  | nil => exact ⟨rfl, h⟩
  | cons u rest ih =>
    cases u with
    | clone handle =>
      obtain ⟨hshows, hlength⟩ := h.clone handle
      have hrest := ih hshows
      rw [hlength] at hrest
      exact hrest
    | call handle c =>
      by_cases hhandle : handle < s.capacities.length
      · obtain ⟨hanswer, hshows, hcapacities⟩ := h.call hhandle c
        obtain ⟨hrest, hlast⟩ := ih hshows
        rw [hcapacities] at hrest hlast
        rw [Use.calls, if_pos hhandle, SharedQueue.run, BoundedSequence.answers, hanswer]
        exact ⟨congrArg _ hrest, hlast⟩
      · have hnone : s.through handle = none := by
          rw [through, List.getElem?_eq_none (Nat.le_of_not_lt hhandle)]
          rfl
        have huse : s.use (.call handle c) = (none, s) := by
          rw [use, hnone]
        rw [Use.calls, if_neg hhandle, SharedQueue.run, huse]
        exact ih h

end Shows

/-- A queue is a bounded sequence with a mark that it has ended: whatever is called on it through
any handles, the answers are those of the sequence, and the end marker stands behind all elements,
once and if and only if the sequence has ended. -/
theorem answers_run (capacity : Nat) (uses : List (Use α)) :
    (run uses (.start capacity)).1 =
        ((BoundedSequence.empty capacity).answers (Use.calls 1 uses)).1 ∧
      (run uses (.start capacity)).2.Shows
        ((BoundedSequence.empty capacity).answers (Use.calls 1 uses)).2 :=
  (Shows.start capacity).run uses

end SharedQueue

end StreamConformance
