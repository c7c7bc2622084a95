import WikiEntry.Text.Pieces
import WikiEntry.Text.Quoted

/-!
# Article paths

A wiki may give every page a path of its own, such as `/wiki/Main_Page`. An article path is the
template of such paths. Titles can be read out of a path only if they are the whole end of it
after a slash.
-/

namespace WikiEntry

/-- Why a template is not an article path. -/
inductive ArticlePath.Fault where
  /-- There is no place for the title. -/
  | noTitle
  /-- The title is not alone after the last slash. -/
  | unmatchable
  deriving DecidableEq, Repr

def ArticlePath.Fault.message (template : String) : ArticlePath.Fault → String
  | noTitle => "article path " ++ template ++ " has no $1"
  | unmatchable => "article path " ++ template ++ " cannot be matched against path info"

/-- A template and the part of it before the title. -/
structure ArticlePath where
  template : String
  start : List Char
  deriving DecidableEq, Repr

namespace ArticlePath

def ofTemplate (template : String) : Except Fault ArticlePath :=
  match Text.cutWord? ['$', '1'] template.toList with
  | none => .error .noTitle
  | some (start, rest) =>
    if rest ≠ [] ∨ start.getLast? ≠ some '/' then .error .unmatchable
    else .ok ⟨template, start⟩

/-- The part of `path` that is the title, still in percent code; `none` if the path is not an
article path or names no title. -/
def match? (a : ArticlePath) (path : String) : Option String :=
  match Text.after? a.start path.toList with
  | some (c :: rest) => some (String.ofList (c :: rest))
  | _ => none

def label (a : ArticlePath) : String :=
  "ArticlePath \x7b template: " ++ Text.quote a.template ++ " \x7d"

end ArticlePath

end WikiEntry
