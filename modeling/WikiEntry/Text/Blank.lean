import WikiEntry.Text.CodeRange

/-!
# Blanks and control characters

Blank is what Unicode calls white space: more than the ASCII blanks, and without the zero-width
characters. A control character is a code point of category `Cc`. The two overlap in the line
ends and the tabulators, which is why titles ask for both: a line end in a title is an error,
while every other blank is read as a space.
-/

namespace WikiEntry.Text

/-- The characters with the property `White_Space`. -/
def blankRanges : List CodeRange :=
  [(0x9, 0xD), (0x20, 0x20), (0x85, 0x85), (0xA0, 0xA0), (0x1680, 0x1680), (0x2000, 0x200A),
    (0x2028, 0x2029), (0x202F, 0x202F), (0x205F, 0x205F), (0x3000, 0x3000)]

def isBlank (c : Char) : Bool := inRanges blankRanges c

def isControl (c : Char) : Bool :=
  c.toNat < 0x20 || (0x7F ≤ c.toNat && c.toNat ≤ 0x9F)

def trimBlanks (text : List Char) : List Char :=
  ((text.dropWhile isBlank).reverse.dropWhile isBlank).reverse

end WikiEntry.Text
