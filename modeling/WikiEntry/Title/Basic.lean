import WikiEntry.Text.Pieces

/-!
# Titles

A title names a page: a namespace number, a key within the namespace, a section of the page (the
fragment) and, for a page of another wiki, the prefix of that wiki. The key is the stored form,
with underscores; the text is the form shown to readers, with spaces. Since the one is made from
the other, only the key is kept, and it holds no space.
-/

namespace WikiEntry

/-- A reference to a page. The fragment is empty if the title points at the whole page, and the
interwiki prefix is empty if the page belongs to this wiki. -/
structure Title where
  ns : Int
  key : String
  fragment : String
  interwiki : String
  key_spaceless : ' ' ∉ key.toList
  deriving DecidableEq, Repr

namespace Title

/-- A title from its parts, unchecked: spaces of `text` become underscores in the key. -/
def make (ns : Int) (text fragment interwiki : String) : Title where
  ns := ns
  key := String.ofList (Text.exchange ' ' '_' text.toList)
  fragment := fragment
  interwiki := interwiki
  key_spaceless := by
    rw [String.toList_ofList]
    exact Text.not_mem_exchange (by decide) _

/-- The key as readers see it, with spaces. -/
def text (t : Title) : String := String.ofList (Text.exchange '_' ' ' t.key.toList)

def hasFragment (t : Title) : Bool := !t.fragment.isEmpty

def isExternal (t : Title) : Bool := !t.interwiki.isEmpty

def canExist (t : Title) : Bool := 0 ≤ t.ns

def isSpecial (t : Title) : Bool := t.ns == -1

def withFragment (t : Title) (fragment : String) : Title :=
  make t.ns t.text fragment t.interwiki

/-- A form for logs: the wiki, the namespace number, the key and the fragment. -/
def label (t : Title) : String :=
  (if t.isExternal then t.interwiki ++ ":" else "") ++ toString t.ns ++ ":" ++ t.key ++
    (if t.hasFragment then "#" ++ t.fragment else "")

@[simp] theorem make_ns (ns : Int) (text fragment interwiki : String) :
    (make ns text fragment interwiki).ns = ns := rfl

@[simp] theorem make_fragment (ns : Int) (text fragment interwiki : String) :
    (make ns text fragment interwiki).fragment = fragment := rfl

@[simp] theorem make_interwiki (ns : Int) (text fragment interwiki : String) :
    (make ns text fragment interwiki).interwiki = interwiki := rfl

@[simp] theorem make_key (ns : Int) (text fragment interwiki : String) :
    (make ns text fragment interwiki).key =
      String.ofList (Text.exchange ' ' '_' text.toList) := rfl

/-- Both forms come from one text: its spaces become underscores in the key, and its underscores
spaces in the form for readers. -/
theorem text_make (ns : Int) (text fragment interwiki : String) :
    (make ns text fragment interwiki).text =
      String.ofList (Text.exchange '_' ' ' text.toList) := by
  rw [Title.text, make_key, String.toList_ofList, Text.exchange_exchange_back]

end Title

end WikiEntry
