import WikiEntry.Hook.Outcome
import WikiEntry.Title.Error

/-!
# The log

What a wiki reports while it runs: each line is a fact with the things it is about. How a line is
worded, and whether it is a warning or an error, follows from the fact.
-/

namespace WikiEntry

open Hook (Outcome DispatchError)

inductive LogLine where
  | deprecated (event handler version : String)
  /-- A handler failed, and its event with it. -/
  | handlerFailed (event handler : String) (error : DispatchError)
  /-- A handler wanted to stop an event that cannot be stopped. -/
  | invalidReturn (event handler : String) (outcome : Outcome)
  /-- A handler does not fit the arguments of its event. -/
  | invalidHandler (event handler : String) (error : DispatchError)
  /-- A handler failed, and the next one ran all the same. -/
  | handlerSkipped (event handler : String) (error : DispatchError)
  /-- The namespaces are served without what handlers contribute. -/
  | namespacesFallBack (error : DispatchError)
  | specialPagesFallBack (error : DispatchError)
  /-- The canonical URL of a title names no title. -/
  | unreadableTarget (url : String) (error : TitleError)
  | redirectLoop (url : String)

namespace LogLine

/-- Whether the line reports an error and not just a warning. -/
def isError : LogLine → Bool
  | handlerFailed .. => true
  | invalidHandler .. => true
  | _ => false

/-- The line in words, without the things it is about. -/
def message : LogLine → String
  | deprecated event handler version =>
    "Use of " ++ event ++ " hook (used in " ++ handler ++ ") was deprecated in MediaWiki " ++
      version ++ "."
  | handlerFailed .. => "hook handler failed"
  | invalidReturn .. => "invalid return from handler for unabortable hook"
  | invalidHandler .. => "invalid hook handler"
  | handlerSkipped .. => "hook handler failed; continuing"
  | namespacesFallBack .. => "CanonicalNamespaces hook failed; using configured namespaces"
  | specialPagesFallBack .. => "SpecialPage_initList hook failed; using core special pages"
  | unreadableTarget .. => "canonical URL does not parse back"
  | redirectLoop .. => "redirect loop detected"

/-- The things the line is about, by the names of their fields. Kinds of arguments go by the names
that `label` gives them. -/
def fields (label : Hook.Kind → String) : LogLine → List (String × String)
  | deprecated event handler _ => [("event", event), ("handler", handler)]
  | handlerFailed event handler error | invalidHandler event handler error
  | handlerSkipped event handler error =>
    [("event", event), ("handler", handler), ("error", error.message label)]
  | invalidReturn event handler outcome =>
    [("event", event), ("handler", handler), ("outcome", outcome.label)]
  | namespacesFallBack error | specialPagesFallBack error => [("error", error.message label)]
  | unreadableTarget url error => [("url", url), ("error", error.message)]
  | redirectLoop url => [("url", url)]

end LogLine

end WikiEntry
