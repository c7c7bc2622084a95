import WikiEntry.ArticlePath
import WikiEntry.Services
import WikiEntry.Title.Format
import WikiEntry.Title.Parse
import WikiEntry.Wiki.Error

/-!
# Canonical redirects

A page can be reached by many URLs, and one of them is canonical. A request for a page that names
the title differently is sent there, unless a handler refuses or the request is more than a look
at the page. Aliases of special pages are not canonical, even if typed exactly.

Before a request is sent away the decision is made once more, for a request of the target: it has
to come down to the same title. Otherwise the redirect would be followed by another one, and it
is refused.
-/

namespace WikiEntry.Redirect

open Hook (Arguments)

/-- All that is needed to decide about redirects. Without an article path, titles are not read
back out of the target's URL. -/
structure Canonical (m : Type → Type) where
  resolver : Resolver m
  services : Services m
  articlePath : Option ArticlePath
  usePathInfo : Bool

namespace Canonical

variable {m : Type → Type} [Monad m]

/-- Asks the handlers about a redirect. The answer is whether none of them refused, and what they
have made of the request and the title. -/
def consult (c : Canonical m) (request : Snapshot) (title : Title) :
    ExceptT WikiError m (Bool × Snapshot × Title) := do
  let (answer, args) ← (c.services.run Event.testCanonicalRedirect.name
    [⟨.snapshot, request⟩, ⟨.title, title⟩] : m _)
  match answer with
  | .ok agreed => return (agreed, args.getD .snapshot 0 request, args.getD .title 1 title)
  | .error error => throw (.hook error)

/-- The title with the alias of a special page put right; the fragment is kept. -/
def resolveSpecial (c : Canonical m) (title : Title) : m Title := do
  if !title.isSpecial then return title
  match (← c.services.specialPages).resolve? title.key with
  | none => return title
  | some (name, sub) =>
    let target := SpecialPage.title name sub
    return if title.hasFragment then target.withFragment title.fragment else target

/-- The part of a URL of this wiki that is the title, still in percent code. -/
def titlePart? (c : Canonical m) (url : String) : Option String := do
  let articlePath ← c.articlePath
  let path ← Text.after? c.resolver.settings.server.toList url.toList
  articlePath.match? (String.ofList (path.takeWhile (· ≠ '#')))

/-- Whether a request of `url` comes down to `target` again. -/
def returns (c : Canonical m) (target : Title) (url : String) : ExceptT WikiError m Bool := do
  let read : Except TitleError Title ← match c.titlePart? url with
    | some code => (c.resolver.parseUrl code).run
    | none => pure (.ok target)
  match read with
  | .error error =>
    c.services.report (.unreadableTarget url error)
    return false
  | .ok found =>
    let found := if target.hasFragment then found.withFragment target.fragment else found
    let named ← c.resolver.prefixedKey target
    let (agreed, _, found) ← c.consult
      { method := "GET", url := url, title := some named, action := "view", extraParams := [] }
      found
    if !agreed then return true
    return (← c.resolveSpecial found) = target

def refuse (c : Canonical m) (url : String) : ExceptT WikiError m Decision := do
  c.services.report (.redirectLoop url)
  throw (.redirectLoop (.through url c.usePathInfo))

def decide (c : Canonical m) (request : Snapshot) (title : Title) :
    ExceptT WikiError m Decision := do
  let (agreed, request, title) ← c.consult request title
  if !agreed then return .stay title .vetoed
  if !request.isPlainView then return .stay title .notAView
  let target ← c.resolveSpecial title
  if request.title = some (← c.resolver.prefixedKey target) then
    return .stay target .alreadyCanonical
  let url ← c.resolver.fullUrl target ""
  if url = request.url then c.refuse url
  else if !(← c.returns target url) then c.refuse url
  else return .redirect target url

end Canonical

end WikiEntry.Redirect
