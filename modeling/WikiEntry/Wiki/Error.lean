import WikiEntry.Config.Basic
import WikiEntry.Hook.Outcome
import WikiEntry.Redirect.Decision
import WikiEntry.Title.Error

/-!
# Why a wiki cannot answer

The failures that a wiki hands to whoever called it, and their wording.
-/

namespace WikiEntry

inductive WikiError where
  | malformedTitle (error : TitleError)
  | hook (error : Hook.DispatchError)
  | redirectLoop (loop : Redirect.Loop)
  | config (error : ConfigError)
  | custom (text : String)

def WikiError.message (label : Hook.Kind → String) : WikiError → String
  | malformedTitle error => "bad title: " ++ error.message
  | hook error => "hook error: " ++ error.message label
  | redirectLoop loop => loop.message
  | config error => "configuration error: " ++ error.message
  | custom text => text

end WikiEntry
