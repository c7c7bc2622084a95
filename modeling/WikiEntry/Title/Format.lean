import WikiEntry.Percent
import WikiEntry.Title.Resolver
import WikiEntry.Title.Basic

/-!
# Writing titles

The forms in which a title leaves the wiki: the prefixed key, the prefixed text that readers see,
and URLs. A page of another wiki is addressed by that wiki's template; a page of this wiki by the
article path or, if there is a query, by the script.
-/

namespace WikiEntry.Resolver

variable {m : Type → Type} [Monad m]

def namespaceText (r : Resolver m) (ns : Int) : m String := do
  return (← r.namespaces).text ns

/-- `name` with the prefixes of the title before it. -/
def prefixed (r : Resolver m) (t : Title) (name : String) : m String := do
  let wiki := if t.isExternal then t.interwiki ++ ":" else ""
  if t.ns = Namespace.main then return wiki ++ name
  let text ← r.namespaceText t.ns
  return wiki ++ text ++ ":" ++ name

def prefixedKey (r : Resolver m) (t : Title) : m String := do
  return String.ofList (Text.exchange ' ' '_' (← r.prefixed t t.key).toList)

def prefixedText (r : Resolver m) (t : Title) : m String := do
  return String.ofList (Text.exchange '_' ' ' (← r.prefixed t t.text).toList)

/-- The prefixed text with the fragment. -/
def fullText (r : Resolver m) (t : Title) : m String := do
  let text ← r.prefixedText t
  return if t.hasFragment then text ++ "#" ++ t.fragment else text

/-- Percent code as this wiki's server can stand it. -/
def encode (r : Resolver m) (text : String) : String :=
  Percent.encode text r.settings.colonEncodingBroken

def prefixedUrl (r : Resolver m) (t : Title) : m String := do
  return r.encode (← r.prefixedKey t)

def fill (template value : String) : String :=
  String.ofList (Text.fill value.toList template.toList)

/-- The URL of a page of another wiki, if the title is one and the wiki is known. -/
def remoteUrl? (r : Resolver m) (t : Title) (query : String) : m (Option String) := do
  if !t.isExternal then return none
  match r.settings.interwikis[t.interwiki]? with
  | none => return none
  | some template =>
    let start ←
      if t.ns = Namespace.main then pure ""
      else (· ++ ":") <$> r.namespaceText t.ns
    let url := fill template (r.encode (start ++ t.key))
    if query.isEmpty then return some url
    return some (url ++ (if url.toList.contains '?' then "&" else "?") ++ query)

/-- The URL of a page without the server. -/
def localUrl (r : Resolver m) (t : Title) (query : String) : m String := do
  match ← r.remoteUrl? t query with
  | some url => return url
  | none =>
    let key ← r.prefixedUrl t
    if query.isEmpty then return fill r.settings.articlePath key
    return r.settings.script ++ "?title=" ++ key ++ "&" ++ query

def fullUrl (r : Resolver m) (t : Title) (query : String) : m String := do
  let url ← match ← r.remoteUrl? t query with
    | some url => pure url
    | none => (r.settings.server ++ ·) <$> r.localUrl t query
  if !t.hasFragment then return url
  return url ++ "#" ++
    r.encode (String.ofList (Text.exchange ' ' '_' t.fragment.toList))

end WikiEntry.Resolver
