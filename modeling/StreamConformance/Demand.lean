/-!
# Demand

Demand is counted in 64-bit words. Sums stop at the largest word, which also stands for demand
without bound.

## Main definitions

* `Demand.unbounded` — the largest word.
* `Demand.add` — the sum that stops there; `Demand.times` the product.
* `Demand.total` — the exact sum of a list of demands.
-/

namespace StreamConformance.Demand

/-- Demand without bound. -/
def unbounded : UInt64 := 18446744073709551615

/-- The word for a number, or the largest one if the number is too large. -/
def clamp (n : Nat) : UInt64 := if n < UInt64.size then UInt64.ofNat n else unbounded

/-- The sum of two demands. -/
def add (a b : UInt64) : UInt64 := clamp (a.toNat + b.toNat)

/-- The product of two demands. -/
def times (a b : UInt64) : UInt64 := clamp (a.toNat * b.toNat)

/-- The exact sum of demands, which stops nowhere. -/
def total (ns : List UInt64) : Nat := ns.foldr (fun n sum => n.toNat + sum) 0

/-- A clamped number is the number or the largest word, whichever is less. -/
theorem toNat_clamp (n : Nat) : (clamp n).toNat = min n (UInt64.size - 1) := by
  unfold clamp
  split
  · rename_i h
    rw [UInt64.toNat_ofNat_of_lt' h]
    omega
  · rename_i h
    have hu : unbounded.toNat = UInt64.size - 1 := by decide
    omega

theorem toNat_add (a b : UInt64) : (add a b).toNat = min (a.toNat + b.toNat) (UInt64.size - 1) :=
  toNat_clamp _

theorem total_append (ms ns : List UInt64) : total (ms ++ ns) = total ms + total ns := by
  induction ms with
  | nil => simp [total]
  | cons m ms ih =>
    change m.toNat + total (ms ++ ns) = m.toNat + total ms + total ns
    omega

/-- Demands that are added one after the other make up their exact sum, unless that is too large for
a word. -/
theorem toNat_foldl_add (ns : List UInt64) (n : UInt64) :
    (ns.foldl add n).toNat = min (n.toNat + total ns) (UInt64.size - 1) := by
  induction ns generalizing n with
  | nil =>
    have := n.toNat_lt_size
    rw [List.foldl_nil, total, List.foldr_nil]
    omega
  | cons m ns ih =>
    have htotal : total (m :: ns) = m.toNat + total ns := rfl
    rw [List.foldl_cons, ih, toNat_add, htotal]
    omega

/-- Demands that are added one after the other from nothing make up their clamped sum. -/
theorem foldl_add_zero (ns : List UInt64) : ns.foldl add 0 = clamp (total ns) := by
  apply UInt64.toNat_inj.mp
  rw [toNat_foldl_add, toNat_clamp, UInt64.toNat_zero, Nat.zero_add]

/-- It does not matter whether sums are clamped before they are added. -/
theorem add_clamp (m n : Nat) : add (clamp m) (clamp n) = clamp (m + n) := by
  apply UInt64.toNat_inj.mp
  rw [toNat_add, toNat_clamp, toNat_clamp, toNat_clamp]
  omega

theorem clamp_toNat (n : UInt64) : clamp n.toNat = n := by
  apply UInt64.toNat_inj.mp
  have := n.toNat_lt_size
  rw [toNat_clamp]
  omega

end StreamConformance.Demand
