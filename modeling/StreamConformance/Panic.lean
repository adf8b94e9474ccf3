/-!
# Panics

A callback may end by a panic instead of returning. The panic carries a text, which is either fixed
or put together when the panic comes, or something that is no text.
-/

namespace StreamConformance

/-- What a panic carries. -/
inductive Panic where
  /-- A fixed text. -/
  | text (message : String)
  /-- A text that has been put together for the occasion. -/
  | composed (message : String)
  /-- Something that is no text. -/
  | other
  deriving DecidableEq, Inhabited

namespace Panic

/-- The text of a panic, or `fallback` if it carries none. -/
def messageOr (fallback : String) : Panic → String
  | text message | composed message => message
  | other => fallback

/-- What remains of a panic for somebody who can read only fixed texts. -/
def fixedOnly : Panic → Panic
  | text message => text message
  | composed _ | other => other

/-- What comes of a panic on a thread that has been started and is awaited: the panic of the one who
waits, which does not say why. -/
def ofThread : Panic := text "a scoped thread panicked"

/-- The panic of reserving more storage than there can be. -/
def capacityOverflow : Panic := text "capacity overflow"

/-- The panic of naming a span of time that is too long. -/
def spanOverflow : Panic := composed "overflow in Duration::new"

end Panic

end StreamConformance
