import StreamConformance.Signal.Basic

/-!
# Scopes on many threads

Every thread has marks of its own. A scope is entered and dropped on one thread, but scopes need not
be dropped in the reverse order of their entering. Deliveries nest, and a panic inside leaves all
scopes that it passes.

## Main definitions

* `ScopedThreads`, `ScopedThreads.step` — the marks of all threads with the scopes that are alive.
* `Nesting`, `Nesting.run` — deliveries within deliveries, any of which may look at the marks of its
  thread or panic.
-/

namespace StreamConformance

/-- What happens to scopes. -/
inductive ScopeEvent where
  /-- A scope is entered on a thread. -/
  | enter (thread : Nat) (s : Signal)
  /-- A scope is dropped on the thread on which it was entered. -/
  | drop (thread : Nat) (s : Signal)
  deriving DecidableEq, Inhabited

/-- The marks of each thread, and the scopes that are alive. -/
structure ScopedThreads where
  marks : Nat → Marks
  /-- The scopes that have been entered and not dropped, each with its thread. -/
  alive : List (Nat × Signal)

namespace ScopedThreads

/-- No scope has been entered. -/
def start : ScopedThreads := ⟨fun _ => [], []⟩

/-- Changes the marks of a thread. -/
def update (t : ScopedThreads) (thread : Nat) (f : Marks → Marks) : Nat → Marks := fun k =>
  if k = thread then f (t.marks k) else t.marks k

/-- What comes of an event; only a scope that is alive can be dropped. -/
def step (t : ScopedThreads) : ScopeEvent → Option ScopedThreads
  | .enter thread s => some ⟨t.update thread (.enter s), (thread, s) :: t.alive⟩
  | .drop thread s =>
    if (thread, s) ∈ t.alive then
      some ⟨t.update thread (.leave s), t.alive.erase (thread, s)⟩
    else none

/-- What comes of events one after the other. -/
def run (t : ScopedThreads) (events : List ScopeEvent) : Option ScopedThreads :=
  events.foldlM step t

end ScopedThreads

/-- A thread with its marks, and the events on it so far. -/
structure TracedThread where
  marks : Marks
  events : List ScopeEvent
  deriving DecidableEq, Inhabited

/-- The scopes on the thread with the number `k`. -/
def TracedThread.scopes (k : Nat) : Scopes TracedThread where
  enter s t := ⟨Marks.enter s t.marks, t.events ++ [.enter k s]⟩
  leave s t := ⟨Marks.leave s t.marks, t.events ++ [.drop k s]⟩

/-- Deliveries on one thread, one after the other and within each other. -/
inductive Nesting where
  | done
  | panic (p : Panic)
  /-- Looks at the marks of the thread, on which it depends what follows. -/
  | look (next : Marks → Nesting)
  /-- A delivery with what happens inside it, and what follows unless that panics. -/
  | deliver (s : Signal) (inside rest : Nesting)
  /-- The same, but a panic inside is caught. -/
  | caught (s : Signal) (inside rest : Nesting)
  deriving Inhabited

/-- What comes of deliveries on the thread with the number `k`. -/
def Nesting.run (k : Nat) : Nesting → TracedThread → Except Panic Unit × TracedThread
  | done, t => (.ok (), t)
  | panic p, t => (.error p, t)
  | look next, t => (next t.marks).run k t
  | deliver s inside rest, t =>
    match (TracedThread.scopes k).deliver s (inside.run k) t with
    | (.ok (), t) => rest.run k t
    | (.error p, t) => (.error p, t)
  | caught s inside rest, t => rest.run k ((TracedThread.scopes k).deliver s (inside.run k) t).2

end StreamConformance
