import WikiEntry.Percent
import WikiEntry.Text.Alphanumeric
import WikiEntry.Text.Blank
import WikiEntry.Title.Error

/-!
# Keys of titles

What the text of a title has to go through before it is a key. Normalising writes every run of
blanks and underscores as one underscore and drops those at the ends. The checks then refuse
what could not be told from something else: markup, escapes, character references, relative
paths, signatures.
-/

namespace WikiEntry.Title.Key

/-- Whether the character separates words in a key. Line ends and tabulators do not: they are
control characters, which no key may hold. -/
def isSeparator (c : Char) : Bool := c = '_' || (Text.isBlank c && !Text.isControl c)

/-- Normalising from within a text: `started` says whether a character has been kept already,
`pending` whether separators have been read since. -/
def normalizeFrom : (started pending : Bool) → List Char → List Char
  | _, _, [] => []
  | started, pending, c :: rest =>
    if isSeparator c then normalizeFrom started true rest
    else if pending && started then '_' :: c :: normalizeFrom true false rest
    else c :: normalizeFrom true false rest

/-- The text with one underscore for every run of separators, and none at the ends. -/
def normalize (text : List Char) : List Char := normalizeFrom false false text

/-- The part before the first colon and the part after it, without the underscores next to the
colon; `none` if there is no colon or nothing before it. -/
def cutPrefix? (key : List Char) : Option (List Char × List Char) :=
  (Text.cut? (· = ':') key).bind fun (before, after) =>
    let name := Text.dropEndWhile (· = '_') before
    if name = [] then none else some (name, after.dropWhile (· = '_'))

/-- Taking a prefix away makes a key shorter, so prefixes come to an end. -/
theorem length_lt_of_cutPrefix? {key name rest : List Char}
    (h : cutPrefix? key = some (name, rest)) : rest.length < key.length := by
  simp only [cutPrefix?, Option.bind_eq_some_iff] at h
  obtain ⟨⟨before, after⟩, hcut, hrest⟩ := h
  simp only [Option.ite_none_left_eq_some, Option.some.injEq, Prod.mk.injEq] at hrest
  have hlt := Text.length_lt_of_cut? hcut
  have hle := (List.dropWhile_sublist (fun c => decide (c = '_')) (l := after)).length_le
  rw [hrest.2.2] at hle
  omega

/-- The marks that wiki text gives a meaning of their own. -/
def isMarkup (c : Char) : Bool := ['<', '>', '[', ']', '|', '{', '}'].contains c

def isForbidden (c : Char) : Bool := Text.isControl c || isMarkup c

/-- Whether the text after an ampersand reads as a character reference: letters, digits and
number signs, at least one, up to a semicolon. -/
def isReferenceBody (text : List Char) : Bool :=
  match Text.cut? (· = ';') text with
  | some (name, _) => name ≠ [] && name.all fun c => Text.isAlphanumeric c || c = '#'
  | none => false

def hasReference : List Char → Bool
  | [] => false
  | c :: rest => (c = '&' && isReferenceBody rest) || hasReference rest

/-- Whether a browser or a server would read the key as a relative path. -/
def isRelative (key : List Char) : Bool :=
  key = ['.'] || key = ['.', '.'] ||
    ['.', '/'].isPrefixOf key || ['.', '.', '/'].isPrefixOf key ||
    Text.occurs ['/', '.', '/'] key || Text.occurs ['/', '.', '.', '/'] key ||
    ['/', '.'].isSuffixOf key || ['/', '.', '.'].isSuffixOf key

def hasSignature (key : List Char) : Bool := Text.occurs ['~', '~', '~'] key

def byteLength (key : List Char) : Nat := key.foldr (fun c n => c.utf8Size + n) 0

def maxLength : Nat := 255

/-- The first reason to refuse a key in namespace `ns`, in the order in which reasons are looked
for. The keys of special pages may have any length: they are never stored. -/
def fault? (ns : Int) (key : List Char) : Option TitleError :=
  if key.head? = some ':' then some (.invalidCharacters ":")
  else if let some bad := key.find? isForbidden then
    some (.invalidCharacters (String.ofList [bad]))
  else if Percent.hasEscape key then some .invalidEncoding
  else if hasReference key then some (.invalidCharacters "&")
  else if isRelative key then some .relativePath
  else if hasSignature key then some .magicTilde
  else if ns ≠ -1 ∧ maxLength < byteLength key then some (.tooLong (byteLength key) maxLength)
  else none

end WikiEntry.Title.Key
