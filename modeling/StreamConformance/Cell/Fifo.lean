/-!
# First in, first out

A sequence that is read at its front and grows at its end. It is kept in two parts, the later one
with its last item first; the later part is turned round when the earlier one is used up, so that
reading and adding cost little however long the sequence is.

## Main definitions

* `Fifo` — the sequence, which knows its size.
* `Fifo.toList` — its items, front first.
* `Fifo.push`, `Fifo.pop?` — adds at the end, reads at the front.
* `Fifo.extract?` — reads at the first place where there is something to be read.

## Main results

* `Fifo.toList_push`, `Fifo.toList_of_pop?`, `Fifo.pop?_eq_none_iff` — what the two do to the items.
* `Fifo.extract?_of_toList_eq_cons` — where the first item is what is looked for, it is taken.
* `Fifo.size_eq_length` — the size is the number of items.
-/

namespace StreamConformance

/-- A sequence that is read at its front and grows at its end. -/
structure Fifo (α : Type) where
  /-- The first items, front first. -/
  front : List α
  /-- The other items, the last one first. -/
  back : List α
  size : Nat
  size_eq : size = front.length + back.length

namespace Fifo

variable {α β : Type}

/-- A sequence without items. -/
def empty : Fifo α := ⟨[], [], 0, rfl⟩

/-- The sequence of the items `as`, front first. -/
def ofList (as : List α) : Fifo α := ⟨as, [], as.length, rfl⟩

/-- The items, front first. -/
def toList (q : Fifo α) : List α := q.front ++ q.back.reverse

/-- Whether there are no items. -/
def isEmpty (q : Fifo α) : Bool := q.front.isEmpty && q.back.isEmpty

/-- Adds an item at the end. -/
def push (a : α) (q : Fifo α) : Fifo α :=
  ⟨q.front, a :: q.back, q.size + 1, by simp [q.size_eq, Nat.add_assoc]⟩

/-- The item at the front, and the sequence without it. -/
def pop? (q : Fifo α) : Option (α × Fifo α) :=
  match hf : q.front with
  | a :: rest => some (a, ⟨rest, q.back, q.size - 1, by grind [q.size_eq]⟩)
  | [] =>
    match hb : q.back.reverse with
    | a :: rest => some (a, ⟨rest, [], q.size - 1, by
        have := congrArg List.length hb
        simp_all [q.size_eq]⟩)
    | [] => none

/-- What `f` reads at the first item of which it reads anything, at whatever place that stands, and
the sequence without this item. -/
def extract? (f : α → Option β) (q : Fifo α) : Option (β × Fifo α) :=
  (q.toList.findSome? f).map fun b => (b, ofList (q.toList.eraseP fun a => (f a).isSome))

@[simp] theorem toList_empty : (empty : Fifo α).toList = [] := rfl

/-- An addition puts an item behind all others. -/
@[simp] theorem toList_push (a : α) (q : Fifo α) : (q.push a).toList = q.toList ++ [a] := by
  simp [toList, push]

/-- What is read is the first item, and the others stay in order. -/
theorem toList_of_pop? {q r : Fifo α} {a : α} (h : q.pop? = some (a, r)) :
    q.toList = a :: r.toList := by
  unfold pop? at h
  split at h
  next hf => grind [toList]
  next hf =>
    split at h
    next hb => grind [toList]
    next => simp at h

/-- Only a sequence without items has nothing at its front. -/
theorem pop?_eq_none_iff {q : Fifo α} : q.pop? = none ↔ q.toList = [] := by
  unfold pop?
  split
  next hf => simp [toList, hf]
  next hf =>
    split
    next hb => simp_all [toList]
    next hb => simp_all [toList]

@[simp] theorem toList_ofList (as : List α) : (ofList as).toList = as := by
  simp [toList, ofList]

theorem extract?_eq_none_iff {f : α → Option β} {q : Fifo α} :
    q.extract? f = none ↔ ∀ a ∈ q.toList, f a = none := by
  simp [extract?, List.findSome?_eq_none_iff]

/-- Where `f` reads something of the first item, that item is extracted. -/
theorem extract?_of_toList_eq_cons {f : α → Option β} {q : Fifo α} {a : α} {b : β}
    {as : List α} (h : q.toList = a :: as) (hf : f a = some b) :
    q.extract? f = some (b, ofList as) := by
  simp [extract?, h, hf]

/-- The size is the number of items. -/
theorem size_eq_length (q : Fifo α) : q.size = q.toList.length := by
  simp [toList, q.size_eq]

theorem isEmpty_iff {q : Fifo α} : q.isEmpty = true ↔ q.toList = [] := by
  simp [toList, isEmpty]

end Fifo

end StreamConformance
