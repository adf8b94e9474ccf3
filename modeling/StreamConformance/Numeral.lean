/-!
# Numerals in settings

A setting is a sequence of bytes. It is read as a number below `2 ^ 64` if it is an optional `+`
followed by one or more ASCII digits, with any number of leading zeros.

## Main definitions

* `Numeral.parse?` — the number that a sequence of bytes denotes.
-/

namespace StreamConformance.Numeral

/-- The value of an ASCII digit. -/
def digit? (b : UInt8) : Option Nat :=
  if 48 ≤ b.toNat ∧ b.toNat ≤ 57 then some (b.toNat - 48) else none

/-- The number whose digits are those of `n` followed by the given ones, as long as it stays below
`2 ^ 64`. -/
def extend? (n : Nat) : List UInt8 → Option Nat
  | [] => some n
  | b :: rest =>
    match digit? b with
    | none => none
    | some d => if 10 * n + d < UInt64.size then extend? (10 * n + d) rest else none

/-- The number denoted by one or more digits. -/
def digits? : List UInt8 → Option Nat
  | [] => none
  | bytes => extend? 0 bytes

/-- The number below `2 ^ 64` that a sequence of bytes denotes. -/
def parse? : List UInt8 → Option Nat
  | 43 :: rest => digits? rest
  | bytes => digits? bytes

end StreamConformance.Numeral
