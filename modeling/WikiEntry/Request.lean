import WikiEntry.Percent

/-!
# Requests

A request as the wiki sees it: a method, a URL taken apart at its boundaries, and the parameters
of the query in the order in which they were sent. Parameters are read as web servers read them:
a plus sign is a space, and a value that is no percent code is taken as it stands.
-/

namespace WikiEntry

/-- A request. The query is kept as sent, next to the parameters read from it. -/
structure Request where
  method : String
  server : String
  path : String
  query : String
  params : List (String × String)
  deriving DecidableEq, Repr

namespace Request

def decodePart (part : List Char) : String :=
  let spaced := String.ofList (Text.exchange '+' ' ' part)
  (Percent.decode? spaced).getD spaced

/-- One parameter: a name, and what follows the first equals sign. -/
def parameter (piece : List Char) : String × String :=
  let (name, value) := (Text.cut? (· = '=') piece).getD (piece, [])
  (decodePart name, decodePart value)

def parameters (query : List Char) : List (String × String) :=
  ((Text.pieces (· = '&') query).filter (· ≠ [])).map parameter

/-- The server of a URL and the rest. A server is a scheme, `://` and everything up to the next
slash; a URL without a scheme has none. -/
def cutServer (url : List Char) : List Char × List Char :=
  match Text.cutWord? [':', '/', '/'] url with
  | none => ([], url)
  | some (scheme, rest) =>
    let host := rest.takeWhile (· ≠ '/')
    (scheme ++ [':', '/', '/'] ++ host, rest.drop host.length)

def get (url : String) : Request :=
  let (server, rest) := cutServer url.toList
  let (path, query) := (Text.cut? (· = '?') rest).getD (rest, [])
  { method := "GET"
    server := String.ofList server
    path := if path = [] then "/" else String.ofList path
    query := String.ofList query
    params := parameters query }

/-- Small ASCII letters as capitals, which is how methods are written. -/
def upperAscii (text : String) : String := String.ofList (text.toList.map Char.toUpper)

def withMethod (r : Request) (method : String) : Request :=
  { r with method := upperAscii method }

/-- The same request sent as a form. -/
def posted (r : Request) : Request := { r with method := "POST" }

/-- The first value of a parameter. -/
def value? (r : Request) (name : String) : Option String := r.params.lookup name

def valueD (r : Request) (name default : String) : String := (r.value? name).getD default

def has (r : Request) (name : String) : Bool := r.params.any (·.1 == name)

/-- The names in order, each once, without those in `exclude` and those in `seen`. -/
def namesAfter (exclude : List String) : (seen : List String) → List (String × String) →
    List String
  | _, [] => []
  | seen, (name, _) :: rest =>
    if exclude.contains name || seen.contains name then namesAfter exclude seen rest
    else name :: namesAfter exclude (name :: seen) rest

def names (r : Request) (exclude : List String) : List String := namesAfter exclude [] r.params

def fullUrl (r : Request) : String :=
  r.server ++ r.path ++ (if r.query.isEmpty then "" else "?" ++ r.query)

/-- Whether the request carries a form. -/
def wasPosted (r : Request) : Bool := upperAscii r.method == "POST"

end Request

end WikiEntry
