/-!
# Spans of time

A span of time is a number of nanoseconds. Its text takes the largest of the units `s`, `ms`, `µs`,
`ns` that fits at least once and gives the rest as an exact decimal fraction.

## Main definitions

* `Duration` — a span of time.
* `Duration.fits` — whether the span is short enough to be named.
* `Duration.text` — the span as it is written in messages.
-/

namespace StreamConformance

/-- A span of time in nanoseconds. -/
structure Duration where
  nanos : Nat
  deriving DecidableEq, Inhabited

namespace Duration

/-- The span of no time. -/
def zero : Duration := ⟨0⟩

/-- The span of `n` microseconds. -/
def ofMicros (n : Nat) : Duration := ⟨n * 1000⟩

/-- The span of `n` milliseconds. -/
def ofMillis (n : Nat) : Duration := ⟨n * 1000000⟩

/-- The span of `secs` seconds and `nanos` nanoseconds. -/
def ofSeconds (secs nanos : Nat) : Duration := ⟨secs * 1000000000 + nanos⟩

/-- Whether the whole seconds of a span are a 64-bit word; no other span can be named. -/
def fits (d : Duration) : Bool := d.nanos / 1000000000 < UInt64.size

/-- The sum of two spans. -/
def add (a b : Duration) : Duration := ⟨a.nanos + b.nanos⟩

/-- The whole milliseconds of a span. -/
def millis (d : Duration) : Nat := d.nanos / 1000000

/-- The decimal fraction `value / 10 ^ places` with its point and without trailing zeros; nothing
for the fraction zero. -/
def fractionText (places value : Nat) : String :=
  let digits := Nat.toDigits 10 value
  let padded := List.replicate (places - digits.length) '0' ++ digits
  let kept := (padded.reverse.dropWhile (· == '0')).reverse
  if kept.isEmpty then "" else "." ++ String.ofList kept

/-- A span counted in units of `10 ^ places` nanoseconds, followed by the name of the unit. -/
def inUnit (nanos places : Nat) (unit : String) : String :=
  let scale := Nat.pow 10 places
  toString (nanos / scale) ++ fractionText places (nanos % scale) ++ unit

/-- The span as it is written in messages. -/
def text (d : Duration) : String :=
  if d.nanos ≥ 1000000000 then inUnit d.nanos 9 "s"
  else if d.nanos ≥ 1000000 then inUnit d.nanos 6 "ms"
  else if d.nanos ≥ 1000 then inUnit d.nanos 3 "µs"
  else inUnit d.nanos 0 "ns"

end Duration

end StreamConformance
