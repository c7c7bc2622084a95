/-!
# Namespaces

A namespace is a numbered part of the page names. Negative numbers are virtual: no page is
stored there. From zero on, namespaces come in pairs, an even one for pages and the odd one after
it for talk about them.
-/

namespace WikiEntry.Namespace

/-- Links to files themselves. -/
def media : Int := -2
/-- Pages made on the fly. -/
def special : Int := -1
/-- The main namespace, whose name is empty. -/
def main : Int := 0
def user : Int := 2
def file : Int := 6
def fileTalk : Int := 7
def interface : Int := 8

/-- The namespaces every wiki has, with their names. -/
def builtin : List (Int × String) :=
  [(media, "Media"), (special, "Special"), (main, ""), (1, "Talk"), (user, "User"),
    (3, "User_talk"), (4, "Project"), (5, "Project_talk"), (file, "File"),
    (fileTalk, "File_talk"), (interface, "MediaWiki"), (9, "MediaWiki_talk"), (10, "Template"),
    (11, "Template_talk"), (12, "Help"), (13, "Help_talk"), (14, "Category"),
    (15, "Category_talk")]

/-- Older names that are still understood, in folded form. -/
def aliases : List (String × Int) := [("image", file), ("image_talk", fileTalk)]

def isTalk (ns : Int) : Bool := 0 < ns && ns % 2 == 1

def isSubject (ns : Int) : Bool := !isTalk ns

/-- The namespace whose pages are talked about in `ns`; virtual namespaces and subject namespaces
are their own. -/
def subject (ns : Int) : Int := if ns < 0 then ns else ns - ns % 2

/-- The namespace for talk about the pages of `ns`; virtual namespaces have none. -/
def talk? (ns : Int) : Option Int := if 0 ≤ ns then some (ns - ns % 2 + 1) else none

/-- Whether titles of `ns` start with a capital letter. In three namespaces they always do, in
the others if the wiki says so. -/
def isCapitalized (capitalLinks : Bool) (ns : Int) : Bool :=
  [special, user, interface].contains (subject ns) || capitalLinks

end WikiEntry.Namespace
