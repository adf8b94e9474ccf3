/-!
# Chronicles

A chronicle is a sequence that only grows at its end. It is kept with the latest item first, so that
an addition costs the same however long the chronicle has become.

## Main definitions

* `Chronicle` — a sequence that grows at its end.
* `Chronicle.toList` — its items, in the order of their addition.

## Main results

* `Chronicle.toList_add` — an addition puts an item behind all others.
* `Chronicle.toList_inj` — a chronicle is determined by its items.
-/

namespace StreamConformance

/-- A sequence that grows at its end. -/
structure Chronicle (α : Type) where
  /-- The items, the latest first. -/
  latestFirst : List α
  deriving DecidableEq, Inhabited

namespace Chronicle

variable {α : Type}

/-- A chronicle without items. -/
def empty : Chronicle α := ⟨[]⟩

/-- Adds an item. -/
def add (a : α) (c : Chronicle α) : Chronicle α := ⟨a :: c.latestFirst⟩

/-- The items, in the order of their addition. -/
def toList (c : Chronicle α) : List α := c.latestFirst.reverse

/-- The number of items. -/
def size (c : Chronicle α) : Nat := c.latestFirst.length

/-- Whether nothing has been added. -/
def isEmpty (c : Chronicle α) : Bool := c.latestFirst.isEmpty

@[simp] theorem toList_empty : (empty : Chronicle α).toList = [] := rfl

/-- An addition puts an item behind all others. -/
@[simp] theorem toList_add (a : α) (c : Chronicle α) : (c.add a).toList = c.toList ++ [a] := by
  simp [toList, add]

theorem isEmpty_iff {c : Chronicle α} : c.isEmpty = true ↔ c.toList = [] := by
  simp [toList, isEmpty]

/-- A chronicle is determined by its items. -/
theorem toList_inj {c d : Chronicle α} : c.toList = d.toList ↔ c = d := by
  cases c
  cases d
  simp [toList]

end Chronicle

end StreamConformance
