import WikiEntry.Redirect.Canonical

/-!
# From a request to an outcome

A wiki takes a request to a decision: the page to show, or where the client has to go instead.
The title comes from the `title` parameter, from the path, or is the search page or the main page;
handlers see it before anything is decided, and may put another in its place.
-/

namespace WikiEntry

open Hook (Arguments)

/-- A wiki as configured. It has an article path exactly if it reads titles out of paths. -/
structure Wiki where
  titles : Title.Settings
  namespaces : Namespace.Settings
  specialPages : SpecialPage.Settings
  articlePath : Option ArticlePath
  mainPage : String
  usePathInfo : Bool

namespace Wiki

def ofConfig (c : Config) : Except ConfigError Wiki := do
  let usePathInfo ← c.flag "UsePathInfo"
  let articlePath ←
    if usePathInfo then do
      let template ← c.text "ArticlePath"
      match ArticlePath.ofTemplate template with
      | .ok path => pure (some path)
      | .error fault => throw (.articlePath template fault)
    else pure none
  let extension ← c.numbered "ExtensionNamespaces"
  let extra ← c.numbered "ExtraNamespaces"
  let capitalLinks ← c.flag "CapitalLinks"
  let server ← c.text "Server"
  let template ← c.text "ArticlePath"
  let script ← c.text "Script"
  let interwikis ← c.textTable "InterwikiPrefixes"
  let localInterwikis ← c.texts "LocalInterwikis"
  let colonEncodingBroken ← c.flag "ColonEncodingBroken"
  let aliases ← c.textLists "SpecialPageAliases"
  let searchDisabled ← c.flag "DisableInternalSearch"
  let mainPage ← c.text "MainPage"
  let small (text : String) : String := String.ofList (Text.lower text.toList)
  return {
    titles :=
      { server := server, articlePath := template, script := script
        interwikis := interwikis.foldl (fun found e => found.insert (small e.1) e.2) ∅
        localInterwikis := localInterwikis.map small
        colonEncodingBroken := colonEncodingBroken }
    namespaces := ⟨extension, extra, capitalLinks⟩
    specialPages := ⟨!searchDisabled, aliases⟩
    articlePath := articlePath
    mainPage := mainPage
    usePathInfo := usePathInfo }

/-- What a client gets for a request. -/
inductive Outcome where
  | view (title : Title)
  /-- The client is sent to the canonical URL of a page. -/
  | redirect (title : Title) (url : String)
  | interwiki (title : Title) (url : String)
  | badTitle (title : Title) (error : TitleError)
  deriving DecidableEq, Repr

/-- What is sent to a client in place of a page. -/
inductive Response where
  /-- A redirect, with the time for which shared caches may keep it. -/
  | redirect (url : String) (status : Nat) (maxAge : Option Nat)
  | errorPage (status : Nat) (message : String)
  deriving DecidableEq, Repr

def interwikiStatus : Nat := 302

def badTitleStatus : Nat := 400

/-- What is sent for an outcome. Pages are not sent from here. -/
def Outcome.responses : Outcome → List Response
  | view _ => []
  | redirect _ url => [.redirect url Redirect.status (some Redirect.maxAge)]
  | interwiki _ url => [.redirect url interwikiStatus none]
  | badTitle _ error => [.errorPage badTitleStatus error.messageKey]

variable {m : Type → Type} [Monad m]

def resolver (w : Wiki) (s : Services m) : Resolver m :=
  ⟨w.titles, w.namespaces.capitalLinks, s.namespaces⟩

def canonical (w : Wiki) (s : Services m) : Redirect.Canonical m :=
  ⟨w.resolver s, s, w.articlePath, w.usePathInfo⟩

def mainTitle (w : Wiki) (s : Services m) : ExceptT TitleError m Title :=
  (w.resolver s).parse w.mainPage Namespace.main

/-- The title part of the path of a request that has no `title` parameter at all. -/
def pathPart? (w : Wiki) (request : Request) : Option String :=
  if w.usePathInfo && !request.has "title" then
    w.articlePath.bind (·.match? request.path)
  else none

/-- The title that a request names and, if it was read out of the path, the text it was read
from. -/
def requestedTitle (w : Wiki) (s : Services m) (request : Request) :
    m (Except TitleError Title × Option String) := do
  let typed := request.valueD "title" ""
  if !typed.isEmpty then
    return (← ((w.resolver s).parse typed Namespace.main).run, none)
  match w.pathPart? request with
  | some code =>
    match Percent.decode? code with
    | some text => return (← ((w.resolver s).parse text Namespace.main).run, some text)
    | none => return (.error .invalidEncoding, none)
  | none =>
    if request.has "search" then
      return (.ok (SpecialPage.title SpecialPage.search none), none)
    return (← (w.mainTitle s).run, none)

def titleFor (w : Wiki) (s : Services m) (request : Request) : ExceptT TitleError m Title :=
  ExceptT.mk do return (← w.requestedTitle s request).1

/-- Tells the handlers the title of a request. The answer is the title they have put in its
place. -/
def announce (s : Services m) (title : Title) : ExceptT WikiError m Title := do
  let (answer, args) ← (s.run Event.beforeInitialize.name
    [⟨.title, title⟩, ⟨.flag, false⟩] : m _)
  match answer with
  | .ok _ => return args.getD .title 0 title
  | .error error => throw (.hook error)

def performFor (w : Wiki) (s : Services m) (request : Request) (fromPath : Option String)
    (title : Title) : ExceptT WikiError m Outcome := do
  if title.key.isEmpty && !title.isExternal then
    return .badTitle (SpecialPage.title SpecialPage.badTitle none) .empty
  if title.isExternal then
    return .interwiki title (← (w.resolver s).fullUrl title "")
  let snapshot := Redirect.Snapshot.ofRequest request
  let snapshot := match fromPath with
    | some text => { snapshot with title := some text }
    | none => snapshot
  match ← (w.canonical s).decide snapshot title with
  | .redirect target url => return .redirect target url
  | .stay target _ => return .view target

def perform (w : Wiki) (s : Services m) (request : Request) : ExceptT WikiError m Outcome := do
  let (read, fromPath) ← (w.requestedTitle s request : m _)
  match read with
  | .error error =>
    let title ← announce s (SpecialPage.title SpecialPage.badTitle none)
    return .badTitle title error
  | .ok title =>
    let title ← announce s title
    w.performFor s request fromPath title

/-- The outcome for a request, and what is sent to the client. An endless redirect is sent as a
page before it is handed on as a failure. -/
def respond (w : Wiki) (s : Services m) (request : Request) :
    m (Except WikiError Outcome × List Response) := do
  match ← (w.perform s request).run with
  | .ok outcome => return (.ok outcome, outcome.responses)
  | .error (.redirectLoop loop) =>
    return (.error (.redirectLoop loop), [.errorPage loop.status loop.message])
  | .error error => return (.error error, [])

end Wiki

end WikiEntry
