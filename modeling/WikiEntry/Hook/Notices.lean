/-!
# Notices about deprecated handlers

A deprecated handler is mentioned in the log when it first runs for an event, and never again.
What has been mentioned is a list of pairs of an event and the identity of a handler.
-/

namespace WikiEntry.Hook

/-- The pairs of an event and a handler that have been mentioned, latest first. -/
structure Notices where
  given : List (String × String) := []
  deriving DecidableEq, Repr

namespace Notices

def mentions (n : Notices) (event handler : String) : Bool := n.given.contains (event, handler)

def mention (n : Notices) (event handler : String) : Notices :=
  if n.mentions event handler then n else ⟨(event, handler) :: n.given⟩

def count (n : Notices) : Nat := n.given.length

end Notices

end WikiEntry.Hook
