import WikiEntry.Title.Basic

/-!
# What is decided about a redirect

A request is either sent to the canonical URL of its title or left alone for a reason. A redirect
that would lead back to the same request is refused, with a page that tells the people who run
the wiki what to look at.
-/

namespace WikiEntry.Redirect

def status : Nat := 301

/-- How long shared caches may keep a canonical redirect, in seconds. -/
def maxAge : Nat := 1200

/-- The status of the page about a redirect that would never end. -/
def loopStatus : Nat := 500

inductive Reason where
  | vetoed
  /-- The request does more than see a page. -/
  | notAView
  /-- The request names its title canonically. -/
  | alreadyCanonical
  deriving DecidableEq, Repr

/-- What is decided about a request, with the title it comes down to. -/
inductive Decision where
  | redirect (target : Title) (url : String)
  | stay (target : Title) (reason : Reason)
  deriving DecidableEq, Repr

namespace Decision

def target : Decision → Title
  | redirect target _ => target
  | stay target _ => target

/-- Where the request is sent; empty if it is left alone. -/
def url : Decision → String
  | redirect _ url => url
  | stay _ _ => ""

def reason? : Decision → Option Reason
  | redirect _ _ => none
  | stay _ reason => some reason

end Decision

/-- What the page about an endless redirect says. Where titles are read from paths, that is the
first suspect; where they are not, it is that they should be. -/
def loopMessage (usePathInfo : Bool) : String :=
  "Redirect loop detected!\n\n" ++
  "This means the wiki got confused about what page was requested; this sometimes happens when " ++
  "moving a wiki to a new server or changing the server configuration.\n\n" ++
  if usePathInfo then
    "The wiki is trying to interpret the page title from the URL path portion (PATH_INFO), " ++
    "which sometimes fails depending on the web server. Try setting " ++
    "\"$wgUsePathInfo = false;\" in your LocalSettings.php, or check that $wgArticlePath is " ++
    "correct."
  else
    "Your web server was detected as possibly not supporting URL path components (PATH_INFO) " ++
    "correctly; check your LocalSettings.php for a customized $wgArticlePath setting and/or " ++
    "toggle $wgUsePathInfo to true."

/-- A redirect that would never end. -/
structure Loop where
  status : Nat
  targetUrl : String
  message : String
  deriving DecidableEq, Repr

def Loop.through (url : String) (usePathInfo : Bool) : Loop :=
  ⟨loopStatus, url, loopMessage usePathInfo⟩

end WikiEntry.Redirect
