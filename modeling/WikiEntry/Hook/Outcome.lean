import WikiEntry.Hook.Argument
import WikiEntry.Text.Quoted

/-!
# What handlers answer

A handler either fails or says what happens next: go on, stop, or stop with a fatal message.
Handlers may answer in several forms, and every form has one meaning: nothing and true go on,
false stops, and a text is fatal, whatever it says.
-/

namespace WikiEntry.Hook

/-- What happens after a handler. -/
inductive Outcome where
  | proceed
  | abort
  /-- No further handler runs, and the event fails with the message. -/
  | fatal (message : String)
  deriving DecidableEq, Repr

def Outcome.label : Outcome → String
  | proceed => "Continue"
  | abort => "Abort"
  | fatal message => "Fatal(" ++ Text.quote message ++ ")"

mutual

inductive Failure where
  /-- The arguments or the bound data were not what it asked for. -/
  | argument (error : ArgumentError)
  /-- An event that it ran itself failed. -/
  | dispatch (error : DispatchError)
  | reason (text : String)

/-- Why the dispatch of an event failed. A position counts in the list of handlers that were run
for the event. -/
inductive DispatchError where
  /-- The handler does not fit the arguments. -/
  | invocation (event : String) (index : Nat) (handler : String) (reason : ArgumentError)
  /-- The handler asked for the request to end with a message. -/
  | fatal (event handler message : String)
  /-- The handler failed for any other reason. -/
  | handlerFailed (event : String) (index : Nat) (handler : String) (cause : Failure)
  | clearInOperation (event : String)
  /-- Handlers ran events that ran handlers, and so on beyond the limit. -/
  | nestedTooDeep (event : String)

end

/-- Why a dispatch failed, in words. The cause of a failed handler is not part of it. -/
def DispatchError.message (label : Kind → String) : DispatchError → String
  | invocation event index handler reason =>
    "invalid handler #" ++ toString index ++ " (" ++ handler ++ ") for hook " ++ event ++ ": " ++
      reason.message label
  | fatal _ _ message => message
  | handlerFailed event index handler _ =>
    "handler #" ++ toString index ++ " (" ++ handler ++ ") for hook " ++ event ++ " failed"
  | clearInOperation event => "cannot reset hook " ++ event ++ " in operation"
  | nestedTooDeep event => "hook " ++ event ++ " is nested too deeply"

def Failure.message (label : Kind → String) : Failure → String
  | argument error => error.message label
  | dispatch error => error.message label
  | reason text => text

/-- The forms in which a handler may answer. -/
inductive Answer where
  | nothing
  | flag (value : Bool)
  | text (value : String)
  /-- An answer that may be left out. -/
  | optional (value : Option Answer)
  | outcome (value : Outcome)
  | failure (cause : Failure)

def Answer.result : Answer → Except Failure Outcome
  | nothing => .ok .proceed
  | flag value => .ok (if value then .proceed else .abort)
  | text value => .ok (.fatal value)
  | optional none => .ok .proceed
  | optional (some answer) => answer.result
  | outcome value => .ok value
  | failure cause => .error cause

end WikiEntry.Hook
