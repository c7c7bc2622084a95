import Std.Data.TreeMap
import WikiEntry.Namespace.Basic
import WikiEntry.Text.Blank
import WikiEntry.Text.LetterCase
import WikiEntry.Text.Pieces

/-!
# Tables of namespaces

A table says which numbers are namespaces and how they are called, and finds a namespace by a
name in any spelling: letter case does not matter, and spaces and underscores are the same. The
index from names to numbers is made together with the table, so the two always agree.
-/

namespace WikiEntry.Namespace

open Std

/-- A name in the form in which names are compared. -/
def fold (name : String) : String :=
  String.ofList (Text.lower (Text.exchange ' ' '_' (Text.trimBlanks name.toList)))

/-- The namespaces of a wiki by number, and the numbers by folded name. -/
structure Table where
  names : TreeMap Int String
  byName : TreeMap String Int

namespace Table

/-- The index of some names. An alias counts if its namespace is there. Names are entered after
the aliases and in ascending order of their numbers, so a name beats an alias, and of two equal
names the one with the greater number is found. -/
def index (names : TreeMap Int String) : TreeMap String Int :=
  let known := aliases.filter fun a => names.contains a.2
  let named := names.toList.filterMap fun (ns, name) =>
    if name.isEmpty then none else some (fold name, ns)
  (known ++ named).foldl (fun found entry => found.insert entry.1 entry.2) ∅

def ofNames (names : TreeMap Int String) : Table := ⟨names, index names⟩

def name? (table : Table) (ns : Int) : Option String := table.names[ns]?

/-- The namespace that is called `name` in some spelling. -/
def find? (table : Table) (name : String) : Option Int := table.byName[fold name]?

def contains (table : Table) (ns : Int) : Bool := table.names.contains ns

def numbers (table : Table) : List Int := table.names.keys

/-- The numbers of the namespaces that can hold pages, ascending. -/
def storable (table : Table) : List Int := table.numbers.filter (0 ≤ ·)

/-- The name of a namespace for use before a key; empty if there is no such namespace. -/
def text (table : Table) (ns : Int) : String := (table.name? ns).getD ""

end Table

/-- What the configuration says about namespaces: names from extensions, names from the site,
and whether titles start with a capital letter everywhere. -/
structure Settings where
  extension : TreeMap Int String
  extra : TreeMap Int String
  capitalLinks : Bool

/-- The names before any handler has been asked: the site overrides extensions, and both override
the built-in names. -/
def Settings.names (settings : Settings) : TreeMap Int String :=
  (settings.extra.toList.foldl fun names entry => names.insert entry.1 entry.2)
    (settings.extension.toList.foldl (fun names entry => names.insert entry.1 entry.2)
      (builtin.foldl (fun names entry => names.insert entry.1 entry.2) ∅))

end WikiEntry.Namespace
