import StreamConformance.Duration
import StreamConformance.Numeral

/-!
# Configuration

How long the harness waits and how many signals it queues. Both are read from settings, each by
itself; a setting that is absent, no numeral or zero leaves the standard value.

## Main definitions

* `Config` — the bound of every wait and the capacity of every queue.
* `Config.ofSettings` — the configuration that settings ask for.
-/

namespace StreamConformance

/-- The settings of a process: the bytes of each variable that is set. -/
abbrev Settings := String → Option (List UInt8)

/-- The bound of every wait, which is also the length of a quiet window, and the capacity of every
queue. -/
structure Config where
  timeout : Duration
  capacity : Nat
  deriving DecidableEq, Inhabited

namespace Config

/-- The standard bound of a wait, in milliseconds. -/
def standardTimeoutMillis : Nat := 100

/-- The standard capacity of a queue. -/
def standardCapacity : Nat := 32

/-- The configuration without any setting. -/
def standard : Config := ⟨.ofMillis standardTimeoutMillis, standardCapacity⟩

/-- The setting for the bound of a wait, in milliseconds. -/
def timeoutSetting : String := "RSTREAMS_TCK_DEFAULT_TIMEOUT_MS"

/-- The setting for the capacity of a queue. -/
def capacitySetting : String := "RSTREAMS_TCK_RECEPTACLE_CAPACITY"

/-- The positive number that a setting denotes, or else the standard value. -/
def positiveOr (standard : Nat) (setting : Option (List UInt8)) : Nat :=
  match setting.bind Numeral.parse? with
  | some n => if 0 < n then n else standard
  | none => standard

/-- The configuration that settings ask for. -/
def ofSettings (settings : Settings) : Config where
  timeout := .ofMillis (positiveOr standardTimeoutMillis (settings timeoutSetting))
  capacity := positiveOr standardCapacity (settings capacitySetting)

/-- The configuration with another bound of waits. -/
def withTimeout (c : Config) (timeout : Duration) : Config := { c with timeout }

/-- The configuration with another capacity of queues. -/
def withCapacity (c : Config) (capacity : Nat) : Config := { c with capacity }

/-- The configuration as a value. -/
def debugText (c : Config) : String :=
  "TckConfig \x7b default_timeout: " ++ c.timeout.text ++ ", receptacle_capacity: " ++
    toString c.capacity ++ " \x7d"

end Config

end StreamConformance
