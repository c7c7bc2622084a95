import Std.Data.TreeMap
import Std.Data.TreeSet
import WikiEntry.Namespace.Basic
import WikiEntry.SpecialPage.Core
import WikiEntry.Text.LetterCase
import WikiEntry.Text.Pieces
import WikiEntry.Title.Basic

/-!
# Tables of special pages

A table holds the canonical names of the special pages of a wiki and finds a page by its name or
by one of its aliases, in any letter case. Names and aliases share one index; the names are
entered last, so a listed page is never taken over by an alias.
-/

namespace WikiEntry.SpecialPage

open Std

/-- A name or an alias in the form in which they are compared. -/
def fold (name : String) : String :=
  String.ofList (Text.lower (Text.exchange ' ' '_' name.toList))

/-- The special pages of a wiki, and the page for each folded name or alias. -/
structure Table where
  names : TreeSet String
  aliases : TreeMap String String

/-- What the configuration says about special pages: whether the wiki has a page for searching,
and the aliases of pages. -/
structure Settings where
  internalSearch : Bool := true
  aliases : TreeMap String (List String) := ∅

def Settings.names (settings : Settings) : TreeSet String :=
  let listed := core.foldl TreeSet.insert (∅ : TreeSet String)
  if settings.internalSearch then listed.insert search else listed

namespace Table

/-- The index of some names and their configured aliases. Aliases of pages that are not listed do
not count, of equal aliases the last one does, and every name stands for itself. -/
def index (names : TreeSet String) (configured : TreeMap String (List String)) :
    TreeMap String String :=
  let byAlias := configured.toList.flatMap fun (name, spellings) =>
    if names.contains name then spellings.map fun spelling => (fold spelling, name) else []
  let byName := names.toList.map fun name => (fold name, name)
  (byAlias ++ byName).foldl (fun found entry => found.insert entry.1 entry.2) ∅

def ofNames (names : TreeSet String) (configured : TreeMap String (List String)) : Table :=
  ⟨names, index names configured⟩

/-- Whether a page has exactly this name. -/
def contains (table : Table) (name : String) : Bool := table.names.contains name

/-- The page and the subpage that the key of a special page names. The subpage follows the first
slash; none is meant if nothing follows it. -/
def resolve? (table : Table) (key : String) : Option (String × Option String) :=
  let (called, sub) :=
    match Text.cut? (· = '/') key.toList with
    | some (called, []) => (called, none)
    | some (called, sub) => (called, some (String.ofList sub))
    | none => (key.toList, none)
  (table.aliases[fold (String.ofList called)]?).map fun name => (name, sub)

end Table

def title (name : String) (sub : Option String) : Title :=
  match sub with
  | some sub => .make Namespace.special (name ++ "/" ++ sub) "" ""
  | none => .make Namespace.special name "" ""

end WikiEntry.SpecialPage
