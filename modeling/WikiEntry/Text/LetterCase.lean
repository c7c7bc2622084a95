import WikiEntry.Text.LetterCase.Tables

/-!
# Letter case

Capital and small forms of characters and texts, by the full mappings of the Unicode character
database: one letter may become several (`ß` has the capital form `SS`). The small form of a
text depends on context in one place: a capital sigma that ends a word becomes `ς`, any other
becomes `σ`.
-/

namespace WikiEntry.Text

/-- The image of `c` under the first rule about it, else under the expansions, else `c` itself. No
character is in both. -/
def mapCase (expansions : List (Nat × List Nat)) (rules : List CaseRule) (c : Char) : List Char :=
  match rules.findSome? (·.mapped? c.toNat) with
  | some image => [Char.ofNat image]
  | none =>
    match expansions.lookup c.toNat with
    | some images => images.map Char.ofNat
    | none => [c]

def upper (c : Char) : List Char := mapCase upperExpansions upperRules c

/-- The small form of a character on its own. -/
def lowerAlone (c : Char) : List Char := mapCase lowerExpansions lowerRules c

/-- Whether the nearest character that is not passed over has case. -/
def meetsCased (neighbours : List Char) : Bool :=
  match neighbours.dropWhile (inRanges caseIgnorableRanges) with
  | [] => false
  | c :: _ => inRanges casedRanges c

/-- The small form of a text whose preceding characters, nearest first, are `before`. -/
def lowerAfter (before : List Char) : List Char → List Char
  | [] => []
  | c :: rest =>
    (if c = 'Σ' then [if meetsCased before && !meetsCased rest then 'ς' else 'σ']
      else lowerAlone c) ++ lowerAfter (c :: before) rest

def lower (text : List Char) : List Char := lowerAfter [] text

def upperFirst : List Char → List Char
  | [] => []
  | c :: rest => upper c ++ rest

end WikiEntry.Text
