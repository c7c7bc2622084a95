import WikiEntry.Request

/-!
# What a redirect depends on

The parts of a request that the choice of a canonical URL looks at. Handlers may change them
before the choice is made.
-/

namespace WikiEntry.Redirect

/-- The parts of a request that decide about a canonical redirect: the requested title as it was
sent, the action, and the names of all parameters other than those two. -/
structure Snapshot where
  method : String
  url : String
  title : Option String
  action : String
  extraParams : List String
  deriving DecidableEq, Repr

namespace Snapshot

def ofRequest (r : Request) : Snapshot where
  method := Request.upperAscii r.method
  url := r.fullUrl
  title := if r.has "title" then some (r.valueD "title" "") else none
  action := r.valueD "action" "view"
  extraParams := r.names ["action", "title"]

def wasPosted (s : Snapshot) : Bool := s.method == "POST"

/-- Whether the request only wants to see a page: such requests may be sent elsewhere. -/
def isPlainView (s : Snapshot) : Bool :=
  s.action == "view" && !s.wasPosted && s.extraParams.isEmpty

end Snapshot

end WikiEntry.Redirect
