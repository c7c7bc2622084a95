import WikiEntry.Text.Quoted
import WikiEntry.Title.Basic

/-!
# Malformed titles

The causes for which a text is refused as a title, the sentence that describes each, and the
message key under which a wiki translates it for its readers.
-/

namespace WikiEntry

inductive TitleError where
  /-- Nothing is left once prefixes and blanks are taken away. -/
  | empty
  | nullByte
  | invalidCharacters (offending : String)
  /-- The percent code cannot be read, or an escape is left after reading it. -/
  | invalidEncoding
  | relativePath
  /-- Three tildes are a signature. -/
  | magicTilde
  | tooLong (length max : Nat)
  | unknownNamespace (ns : Int)
  /-- A talk page cannot belong to another wiki. -/
  | interwikiTalk
  deriving DecidableEq, Repr

namespace TitleError

def message : TitleError → String
  | empty => "the requested page title is empty or contains only the name of a namespace"
  | nullByte => "the requested page title contains a null byte"
  | invalidCharacters offending =>
    "the requested page title contains invalid characters: " ++ Text.quote offending
  | invalidEncoding =>
    "the requested page title contains an invalid percent-encoded sequence"
  | relativePath => "the requested page title contains relative path components"
  | magicTilde => "the requested page title contains a sequence of three or more tildes"
  | tooLong length max =>
    "the requested page title is too long (" ++ toString length ++ " bytes, limit " ++
      toString max ++ ")"
  | unknownNamespace ns => "namespace " ++ toString ns ++ " is not a registered namespace"
  | interwikiTalk => "the requested page title is a talk page for an external wiki"

def messageKey : TitleError → String
  | empty => "title-invalid-empty"
  | nullByte => "title-invalid-characters"
  | invalidCharacters _ => "title-invalid-characters"
  | invalidEncoding => "title-invalid-utf8"
  | relativePath => "title-invalid-relative"
  | magicTilde => "title-invalid-magic-tilde"
  | tooLong _ _ => "title-invalid-too-long"
  | unknownNamespace _ => "title-invalid-bad-namespace"
  | interwikiTalk => "title-invalid-talk-namespace"

end TitleError

/-- A title from a stored key. Stored keys are not empty, have no underscore at either end and no
blank that a form field could have left in them. -/
def Title.ofKey (ns : Int) (key fragment interwiki : String) : Except TitleError Title :=
  if key.isEmpty then .error .empty
  else if key.toList.head? = some '_' || key.toList.getLast? = some '_' ||
      key.toList.any [' ', '\r', '\n', '\t'].contains then
    .error (.invalidCharacters key)
  else .ok (.make ns key fragment interwiki)

end WikiEntry
