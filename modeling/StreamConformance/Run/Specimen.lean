import StreamConformance.Range.Helper
import StreamConformance.Run.Basic
import StreamConformance.Subject.Specimen

/-!
# Verifying specimens

What is verified when a specimen is tried on the rules: its helpers are range publishers, and its
elements are numbers.
-/

namespace StreamConformance

/-- How many elements a subject may still report when it should be quiet, unless something else is
said. -/
def Verification.standardMaxSignals : UInt64 := 100

/-- The verification of a specimen. -/
def Specimen.verification (k : Specimen) (config : Config) :
    Verification UInt64 (Option Nat) Range.HelperState where
  config := config
  maxSignals := Verification.standardMaxSignals
  subject := k.subject
  helper := Range.helper id

end StreamConformance
