import StreamConformance.Panic
import StreamConformance.Violation

/-!
# Early ends

A test ends early when an assertion finds a violation, or when something panics.
-/

namespace StreamConformance

/-- How a test ends early. -/
inductive Halt where
  | violation (v : Violation)
  | panic (p : Panic)
  deriving DecidableEq, Inhabited

/-- What remains of an early end for somebody who can read only fixed texts of panics. -/
def Halt.fixedOnly : Halt → Halt
  | violation v => violation v
  | panic p => panic p.fixedOnly

end StreamConformance
