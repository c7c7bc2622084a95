import WikiEntry.Text.Quoted.Invisible

/-!
# Quoted texts

How messages quote a text: between double quotes, with a backslash before quotes and
backslashes, letters for the common control characters, and `\u{…}` with the code point in hex
for every other character that cannot be seen on its own.
-/

namespace WikiEntry.Text

def quoteChar (c : Char) : List Char :=
  if c = '\x00' then ['\\', '0']
  else if c = '\t' then ['\\', 't']
  else if c = '\r' then ['\\', 'r']
  else if c = '\n' then ['\\', 'n']
  else if c = '\\' then ['\\', '\\']
  else if c = '"' then ['\\', '"']
  else if isInvisible c then ['\\', 'u', '\x7b'] ++ Nat.toDigits 16 c.toNat ++ ['\x7d']
  else [c]

def quote (text : String) : String :=
  String.ofList ('"' :: text.toList.flatMap quoteChar ++ ['"'])

end WikiEntry.Text
