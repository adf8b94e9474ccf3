import StreamConformance.Halt
import StreamConformance.Run.Basic

/-!
# Playing on a run

A scenario is a program on a run. It ends with a value, or early with a violation that an assertion
has found, or by a panic of the subject or the helper. Whatever has happened to the run stays.

## Main definitions

* `Play` — the programs.
* `Play.await` — an expectation on the run, which takes its time.
* `Play.ensuring` — something that is done whichever way a program ends.
-/

namespace StreamConformance

/-- Programs on a run. -/
abbrev Play (α σ η : Type) := ExceptT Halt (StateM (Run α σ η))

namespace Play

variable {α σ η ρ : Type}

/-- A program that may panic. -/
def orPanic (f : Run α σ η → Except Panic ρ × Run α σ η) : Play α σ η ρ :=
  ExceptT.mk fun r =>
    match f r with
    | (.ok a, r) => (.ok a, r)
    | (.error p, r) => (.error (.panic p), r)

/-- A program that may find a violation. -/
def orViolation (f : Run α σ η → Except Violation ρ × Run α σ η) : Play α σ η ρ :=
  ExceptT.mk fun r =>
    match f r with
    | (.ok a, r) => (.ok a, r)
    | (.error v, r) => (.error (.violation v), r)

/-- A question about the run, the answer to which may be a violation. -/
def ask (f : Run α σ η → Except Violation ρ) : Play α σ η ρ := orViolation fun r => (f r, r)

/-- The outcome of an expectation, which is awaited. -/
def outcome (e : Expectation (Run α σ η) ρ) : Play α σ η (Except Violation ρ) :=
  ExceptT.mk fun r =>
    let d := e.now r
    (.ok d.1, d.2.pass (e.cost r))

/-- Awaits an expectation. -/
def await (e : Expectation (Run α σ η) ρ) : Play α σ η ρ :=
  orViolation fun r =>
    let d := e.now r
    (d.1, d.2.pass (e.cost r))

/-- Does something to the run after `body`, whichever way `body` ends. -/
def ensuring (body : Play α σ η ρ) (last : Run α σ η → Run α σ η) : Play α σ η ρ :=
  ExceptT.mk fun r =>
    let d := body.run r
    (d.1, last d.2)

/-- Does something to the run after `body`, unless `body` panics. -/
def unlessPanic (body : Play α σ η ρ) (last : Run α σ η → Run α σ η) : Play α σ η ρ :=
  ExceptT.mk fun r =>
    match body.run r with
    | (.error (.panic p), r) => (.error (.panic p), r)
    | (d, r) => (d, last r)

end Play

end StreamConformance
