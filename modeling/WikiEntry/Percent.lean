import WikiEntry.Text.Pieces

/-!
# Percent code

Texts in URLs. Encoding keeps the characters that browsers and servers leave alone in a path and
writes every other octet of the UTF-8 form as `%XX`. Decoding replaces each `%XX` from left to
right and keeps every other `%`; it fails if the octets it ends up with are not UTF-8.
-/

namespace WikiEntry.Percent

/-- The digit for a number below sixteen, with capital letters. -/
def hexDigit (n : Nat) : Char :=
  if n < 10 then Char.ofNat (48 + n) else Char.ofNat (55 + n)

def hexValue? (c : Char) : Option Nat :=
  if '0' ≤ c ∧ c ≤ '9' then some (c.toNat - 48)
  else if 'A' ≤ c ∧ c ≤ 'F' then some (c.toNat - 55)
  else if 'a' ≤ c ∧ c ≤ 'f' then some (c.toNat - 87)
  else none

def escape (octet : UInt8) : List Char :=
  ['%', hexDigit (octet.toNat / 16), hexDigit (octet.toNat % 16)]

/-- The characters that stay themselves: letters, digits, and the marks that are harmless in a
path. A colon is harmless too, except for servers that mangle it. -/
def isKept (colonBroken : Bool) (c : Char) : Bool :=
  c.isAlphanum || "-._~;@$!*(),/".toList.contains c || (c == ':' && !colonBroken)

def encodeChars (colonBroken : Bool) (text : List Char) : List Char :=
  text.flatMap fun c =>
    if isKept colonBroken c then [c] else (String.utf8EncodeChar c).flatMap escape

/-- The percent code of a text. With `colonBroken`, colons are encoded as well. -/
def encode (text : String) (colonBroken : Bool) : String :=
  String.ofList (encodeChars colonBroken text.toList)

/-- The octet that the two characters after a `%` stand for, if both are digits. -/
def octet? : List Char → Option UInt8
  | high :: low :: _ => do return UInt8.ofNat (16 * (← hexValue? high) + (← hexValue? low))
  | _ => none

/-- The octets of a percent code, where the first `skip` characters are the digits of an escape
that has been read already. -/
def octetsAfter : (skip : Nat) → List Char → List UInt8
  | _, [] => []
  | skip + 1, _ :: rest => octetsAfter skip rest
  | 0, c :: rest =>
    match if c = '%' then octet? rest else none with
    | some octet => octet :: octetsAfter 2 rest
    | none => String.utf8EncodeChar c ++ octetsAfter 0 rest

def decode? (code : String) : Option String :=
  String.fromUTF8? ⟨(octetsAfter 0 code.toList).toArray⟩

def hasEscape : List Char → Bool
  | [] => false
  | c :: rest => (c = '%' && (octet? rest).isSome) || hasEscape rest

end WikiEntry.Percent
