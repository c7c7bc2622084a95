import WikiEntry.Namespace.Table

/-!
# What reading and writing titles depends on

Titles are read and written by the settings of the wiki and by its table of namespaces. The
table may be made anew between two questions about it, since handlers contribute to it and may
fail; so a resolver holds the action that answers with the table rather than the table. Over `Id`
the table is fixed, and reading and writing are plain functions.
-/

namespace WikiEntry

open Std

/-- The settings that shape titles and URLs. In `articlePath` and in the templates of other wikis,
`$1` stands for the title. Interwiki prefixes are in small letters. -/
structure Title.Settings where
  server : String := "http://localhost"
  articlePath : String := "/wiki/$1"
  script : String := "/index.php"
  interwikis : TreeMap String String := ∅
  localInterwikis : List String := []
  colonEncodingBroken : Bool := false

def Title.Settings.isDefault (s : Title.Settings) : Bool :=
  let usual : Title.Settings := {}
  s.server == usual.server && s.articlePath == usual.articlePath && s.script == usual.script &&
    s.interwikis.isEmpty && s.localInterwikis.isEmpty && !s.colonEncodingBroken

structure Resolver (m : Type → Type) where
  settings : Title.Settings
  capitalLinks : Bool
  namespaces : m Namespace.Table

end WikiEntry
