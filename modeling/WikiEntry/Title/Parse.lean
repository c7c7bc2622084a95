import WikiEntry.Title.Key
import WikiEntry.Title.Resolver

/-!
# Reading titles

A text is read in steps. It is normalised and cut at the first number sign; a leading colon asks
for the main namespace; then prefixes are taken away from the left, each the name of a namespace,
of this wiki or of another wiki; what is left is checked and capitalised.

The prefixes of this wiki itself may be repeated, all others end the search. Of the two things a
prefix can be, the namespace comes first.
-/

namespace WikiEntry

/-- Where the prefixes of a text lead, and the key that is left. -/
structure Title.Place where
  ns : Int
  interwiki : String
  key : List Char
  deriving DecidableEq, Repr

namespace Resolver

variable {m : Type → Type} [Monad m]

def leadsAway (r : Resolver m) (key : List Char) : Bool :=
  match Title.Key.cutPrefix? key with
  | some (name, _) => r.settings.interwikis.contains (String.ofList (Text.lower name))
  | none => false

/-- The namespace and the key that a leading colon leaves. -/
def cutColon (ns : Int) : List Char → Int × List Char
  | ':' :: rest => (Namespace.main, rest.dropWhile (· = '_'))
  | key => (ns, key)

/-- Takes the prefixes away from `key`, which lies in namespace `ns` if it has none. -/
def place (r : Resolver m) (ns : Int) (key : List Char) : ExceptT TitleError m Title.Place :=
  match _h : Title.Key.cutPrefix? key with
  | none => pure ⟨ns, "", key⟩
  | some (name, rest) => do
    let table ← r.namespaces
    match table.find? (String.ofList name) with
    | some found =>
      if Namespace.isTalk found && r.leadsAway rest then throw .interwikiTalk
      else pure ⟨found, "", rest⟩
    | none =>
      let wiki := String.ofList (Text.lower name)
      if r.settings.localInterwikis.contains wiki then r.place ns rest
      else if r.settings.interwikis.contains wiki then
        pure ⟨Namespace.main, wiki, (cutColon Namespace.main rest).2⟩
      else pure ⟨ns, "", key⟩
termination_by key.length
decreasing_by exact Title.Key.length_lt_of_cutPrefix? _h

/-- The title at a place: the key is checked, and then starts with a capital letter if its
namespace asks for one and the page belongs to this wiki. -/
def settle (r : Resolver m) (spot : Title.Place) (fragment : String) : Except TitleError Title :=
  match Title.Key.fault? spot.ns spot.key with
  | some fault => .error fault
  | none =>
    let key :=
      if spot.interwiki.isEmpty && Namespace.isCapitalized r.capitalLinks spot.ns then
        Text.upperFirst spot.key
      else spot.key
    if key = [] ∧ spot.interwiki.isEmpty then .error .empty
    else .ok (.make spot.ns (String.ofList key) fragment spot.interwiki)

/-- A normalised text as key and fragment: the fragment follows the first number sign and is
written with spaces, and the key does not end in an underscore. -/
def cutFragment (text : List Char) : List Char × List Char :=
  match Text.cut? (· = '#') text with
  | some (key, fragment) =>
    (Text.dropEndWhile (· = '_') key, Text.exchange '_' ' ' fragment)
  | none => (text, [])

/-- The title that `text` names, as typed by a user or found in a link. Without a prefix it lies
in namespace `ns`. -/
def parse (r : Resolver m) (text : String) (ns : Int) : ExceptT TitleError m Title :=
  if text.toList.contains '\x00' then throw .nullByte
  else do
    let (key, fragment) := cutFragment (Title.Key.normalize text.toList)
    let (ns, key) := cutColon ns key
    let found ← r.place ns key
    ExceptT.mk (pure (r.settle found (String.ofList fragment)))

/-- The title that the title part of a URL names: the percent code is read once, and a plus sign
is a plus sign. -/
def parseUrl (r : Resolver m) (code : String) : ExceptT TitleError m Title :=
  match Percent.decode? code with
  | some text => r.parse text Namespace.main
  | none => throw .invalidEncoding

/-- A title from parts that may come from a user: the namespace has to exist, and the rest is read
as if it had been typed after its name. -/
def makeSafe (r : Resolver m) (ns : Int) (text fragment interwiki : String) :
    ExceptT TitleError m Title := do
  let table ← r.namespaces
  if !table.contains ns then throw (.unknownNamespace ns)
  let named ← r.namespaces
  r.parse
    ((if interwiki.isEmpty then "" else interwiki ++ ":") ++ named.text ns ++ ":" ++ text ++
      (if fragment.isEmpty then "" else "#" ++ fragment))
    Namespace.main

end Resolver

end WikiEntry
