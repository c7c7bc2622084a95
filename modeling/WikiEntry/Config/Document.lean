import WikiEntry.Config.Setting
import WikiEntry.Text.Pieces

/-!
# Configuration documents

A document is read in two steps. The lines are statements: `key = value` below a header `[key]`,
where a key may be dotted. Carrying the statements out builds a tree of tables and refuses those
that define something twice: a value, a table by two headers, or a table by a header and by
dotted keys.

Neither keys nor values may be deep: a key has a limited number of parts, and values are nested to
a limited depth. The two limits are not added up.

While a document is built, a table keeps its entries in the order in which they were mentioned. This
order matters once, when the settings are taken from the tree: a table whose first entry has a
reserved name is a moment.
-/

namespace WikiEntry.Config.Document

/-- The greatest number of parts of a key, and the greatest depth of lists and inline tables. -/
def maxDepth : Nat := 79

/-- A reader takes what it reads from the front of a text and hands on the rest. -/
abbrev Reader (α : Type) := List Char → Option (α × List Char)

def skipSpaces (text : List Char) : List Char := text.dropWhile fun c => c = ' ' || c = '\t'

/-- Whether a line may hold the character. -/
def isPlain (c : Char) : Bool := c = '\t' || (0x20 ≤ c.toNat && c.toNat ≠ 0x7F)

/-- Without a comment in front, if there is one: up to the end of the line. -/
def skipComment : List Char → List Char
  | '#' :: rest => rest.dropWhile isPlain
  | text => text

/-- What comes after the end of a line; the end of the text is one. -/
def endLine? : List Char → Option (List Char)
  | [] => some []
  | '\n' :: rest => some rest
  | '\r' :: '\n' :: rest => some rest
  | _ => none

/-- Without the spaces, comments and line ends in front. `fuel` bounds the number of lines. -/
def skipLines : (fuel : Nat) → List Char → List Char
  | 0, text => text
  | fuel + 1, text =>
    let rest := skipComment (skipSpaces text)
    match rest with
    | [] => []
    | _ :: _ =>
      match endLine? rest with
      | some next => skipLines fuel next
      | none => rest

def hexNumber? (digits : List Char) : Option Nat :=
  digits.foldlM
    (fun n c =>
      if '0' ≤ c ∧ c ≤ '9' then some (16 * n + (c.toNat - 48))
      else if 'A' ≤ c ∧ c ≤ 'F' then some (16 * n + (c.toNat - 55))
      else if 'a' ≤ c ∧ c ≤ 'f' then some (16 * n + (c.toNat - 87))
      else none)
    0

def codePoint? (digits : List Char) : Option Char :=
  (hexNumber? digits).bind fun n => if h : n.isValidChar then some (Char.ofNatAux n h) else none

/-- The text after an opening double quote, up to the closing one. -/
def quoted : Reader (List Char)
  | [] => none
  | '"' :: rest => some ([], rest)
  | '\\' :: 'b' :: rest => (quoted rest).map fun r => ('\x08' :: r.1, r.2)
  | '\\' :: 't' :: rest => (quoted rest).map fun r => ('\t' :: r.1, r.2)
  | '\\' :: 'n' :: rest => (quoted rest).map fun r => ('\n' :: r.1, r.2)
  | '\\' :: 'f' :: rest => (quoted rest).map fun r => ('\x0c' :: r.1, r.2)
  | '\\' :: 'r' :: rest => (quoted rest).map fun r => ('\r' :: r.1, r.2)
  | '\\' :: '"' :: rest => (quoted rest).map fun r => ('"' :: r.1, r.2)
  | '\\' :: '\\' :: rest => (quoted rest).map fun r => ('\\' :: r.1, r.2)
  | '\\' :: 'u' :: a :: b :: c :: d :: rest => do
    let named ← codePoint? [a, b, c, d]
    (quoted rest).map fun r => (named :: r.1, r.2)
  | '\\' :: 'U' :: a :: b :: c :: d :: e :: f :: g :: h :: rest => do
    let named ← codePoint? [a, b, c, d, e, f, g, h]
    (quoted rest).map fun r => (named :: r.1, r.2)
  | '\\' :: _ => none
  | c :: rest => if isPlain c then (quoted rest).map fun r => (c :: r.1, r.2) else none

/-- The text after an opening single quote, up to the closing one. Nothing is escaped in it. -/
def literal : Reader (List Char)
  | [] => none
  | c :: rest =>
    if c = '\x27' then some ([], rest)
    else if isPlain c then (literal rest).map fun r => (c :: r.1, r.2)
    else none

/-- Whether a key may hold the character outside quotes. -/
def isBare (c : Char) : Bool := c.isAlphanum || c = '-' || c = '_'

def keyPart : Reader String
  | '"' :: rest => (quoted rest).map fun r => (String.ofList r.1, r.2)
  | '\x27' :: rest => (literal rest).map fun r => (String.ofList r.1, r.2)
  | text =>
    let name := text.takeWhile isBare
    if name = [] then none else some (String.ofList name, text.drop name.length)

def keyOf : (count : Nat) → Reader (List String)
  | 0, _ => none
  | count + 1, text => do
    let (first, rest) ← keyPart (skipSpaces text)
    match skipSpaces rest with
    | '.' :: more => (keyOf count more).map fun r => (first :: r.1, r.2)
    | rest => some ([first], rest)

def key : Reader (List String) := keyOf maxDepth

/-- The number that digits of a base stand for, with single underscores between digits. -/
def digits? (base : Nat) (text : List Char) : Option Nat :=
  let groups := Text.pieces (· = '_') text
  if groups.any (· = []) then none
  else groups.flatten.foldlM
    (fun n c => (hexNumber? [c]).bind fun d => if d < base then some (base * n + d) else none) 0

/-- A whole number without its sign: in decimal and then without leading zeros, or in base
sixteen, eight or two. -/
def natural? : List Char → Option Nat
  | ['0'] => some 0
  | '0' :: 'x' :: rest => digits? 16 rest
  | '0' :: 'o' :: rest => digits? 8 rest
  | '0' :: 'b' :: rest => digits? 2 rest
  | '0' :: _ => none
  | text => digits? 10 text

/-- A whole number of 64 bits. Only numbers in decimal have a sign. -/
def integer? (text : List Char) : Option Int := do
  let (value : Int) ← match text with
    | '-' :: rest => if rest.any Char.isAlpha then none else (natural? rest).map fun n => -(n : Int)
    | '+' :: rest => if rest.any Char.isAlpha then none else (natural? rest).map Int.ofNat
    | rest => (natural? rest).map Int.ofNat
  if -9223372036854775808 ≤ value ∧ value < 9223372036854775808 then some value else none

def word? (text : List Char) : Option Setting :=
  if text = "true".toList then some (.flag true)
  else if text = "false".toList then some (.flag false)
  else (integer? text).map .integer

def isWord (c : Char) : Bool := c.isAlphanum || ['+', '-', '_', '.', ':'].contains c

/-- How a table came to be. -/
inductive Origin where
  | header
  /-- By the header of a table inside it. -/
  | implied
  | dotted
  | inline
  deriving DecidableEq, Repr

/-- A place in a document that is being built. -/
inductive Node where
  /-- A text, a number or a truth value. -/
  | leaf (value : Setting)
  | list (items : List Node)
  /-- A table, with its entries in the order in which they were mentioned. -/
  | branch (origin : Origin) (entries : List (String × Node))

/-- The entries of a table that is being built, in the order in which they were mentioned. -/
abbrev Draft := List (String × Node)

namespace Draft

/-- The entries with a node under a name: in the place of the one it had, or at the end. -/
def put (name : String) (node : Node) : Draft → Draft
  | [] => [(name, node)]
  | (other, kept) :: rest =>
    if other = name then (name, node) :: rest else (other, kept) :: put name node rest

def putLast (name : String) (node : Node) (entries : Draft) : Draft :=
  entries.filter (·.1 ≠ name) ++ [(name, node)]

end Draft

/-- Defines a value under a dotted key. The tables on the way have to be open for that: a table
with a header or with braces of its own is not, and the innermost one has to be made by dotted
keys. -/
def define (value : Node) : (key : List String) → Draft → Option Draft
  | [], _ => none
  | [name], entries =>
    match entries.lookup name with
    | some _ => none
    | none => some (Draft.put name value entries)
  | name :: rest, entries =>
    match entries.lookup name with
    | none => do
      let inner ← define value rest []
      return Draft.put name (.branch .dotted inner) entries
    | some (.branch .dotted inner) => do
      let inner ← define value rest inner
      return Draft.put name (.branch .dotted inner) entries
    | some (.branch .implied inner) =>
      if rest.length = 1 then none
      else do
        let inner ← define value rest inner
        return Draft.put name (.branch .implied inner) entries
    | some _ => none

/-- Opens a table by its header, at most once. Tables on the way come to be if they are missing. A
table that was there without a header counts as mentioned now. -/
def openTable : (key : List String) → Draft → Option Draft
  | [], _ => none
  | [name], entries =>
    match entries.lookup name with
    | none => some (Draft.put name (.branch .header []) entries)
    | some (.branch .implied inner) => some (Draft.putLast name (.branch .header inner) entries)
    | some _ => none
  | name :: rest, entries =>
    match entries.lookup name with
    | none => do
      let inner ← openTable rest []
      return Draft.put name (.branch .implied inner) entries
    | some (.branch origin inner) =>
      if origin = .inline then none
      else do
        let inner ← openTable rest inner
        return Draft.put name (.branch origin inner) entries
    | some _ => none

def within (change : Draft → Option Draft) : (path : List String) → Draft → Option Draft
  | [], entries => change entries
  | name :: rest, entries =>
    match entries.lookup name with
    | some (.branch origin inner) => do
      let inner ← within change rest inner
      return Draft.put name (.branch origin inner) entries
    | _ => none

/-- The name that marks a table as a moment when it is the name of the first entry. -/
def momentName : String := "$__toml_private_datetime"

def momentNode? : Draft → Option Node
  | [] => none
  | (name, node) :: _ => if name = momentName then some node else none

mutual

/-- The setting that a node stands for. A table that is marked as a moment has to name one in its
first entry, and its other entries do not count. -/
def Node.setting? : Node → Option Setting
  | .leaf value => some value
  | .list items => (Node.items? items).map .list
  | .branch _ entries =>
    match momentNode? entries with
    | some (.leaf (.text written)) => (Moment.read? written.toList).map .moment
    | some _ => none
    | none => (Node.settings? entries).map .table

def Node.items? : List Node → Option (List Setting)
  | [] => some []
  | node :: rest => do return (← node.setting?) :: (← Node.items? rest)

def Node.settings? : List (String × Node) → Option (Entries Setting)
  | [] => some []
  | (name, node) :: rest => do
    let setting ← node.setting?
    return (← Node.settings? rest).put name setting

end

def inlineEntries (pairs : List (List String × Node)) : Option Draft :=
  pairs.foldlM (fun entries pair => define pair.2 pair.1 entries) []

mutual

/-- A value. `depth` bounds how deep lists and tables are nested in it, and `fuel` the number of
steps: one for each value and each item. -/
def value : (depth fuel : Nat) → Reader Node
  | _, 0, _ => none
  | depth, fuel + 1, text =>
    match text with
    | '"' :: rest => (quoted rest).map fun r => (.leaf (.text (String.ofList r.1)), r.2)
    | '\x27' :: rest => (literal rest).map fun r => (.leaf (.text (String.ofList r.1)), r.2)
    | '[' :: rest =>
      if depth = 0 then none
      else (items (depth - 1) fuel rest).map fun r => (.list r.1, r.2)
    | '\x7b' :: rest =>
      if depth = 0 then none
      else match skipSpaces rest with
      | '\x7d' :: rest => some (.branch .inline [], rest)
      | rest => do
        let (found, rest) ← pairs (depth - 1) fuel rest
        let entries ← inlineEntries found
        return (.branch .inline entries, rest)
    | text => do
      let word := text.takeWhile isWord
      let found ← word? word
      return (.leaf found, text.drop word.length)

/-- The items of a list after its opening bracket. They may stand on several lines, and a comma
may follow the last one. -/
def items : (depth fuel : Nat) → Reader (List Node)
  | _, 0, _ => none
  | depth, fuel + 1, text =>
    match skipLines text.length text with
    | ']' :: rest => some ([], rest)
    | text => do
      let (first, rest) ← value depth fuel text
      match skipLines rest.length rest with
      | ',' :: rest => (items depth fuel rest).map fun r => (first :: r.1, r.2)
      | ']' :: rest => some ([first], rest)
      | _ => none

def pairs : (depth fuel : Nat) → Reader (List (List String × Node))
  | _, 0, _ => none
  | depth, fuel + 1, text => do
    let (name, rest) ← key text
    match rest with
    | '=' :: rest =>
      let (found, rest) ← value depth fuel (skipSpaces rest)
      match skipSpaces rest with
      | ',' :: rest => (pairs depth fuel rest).map fun r => ((name, found) :: r.1, r.2)
      | '\x7d' :: rest => some ([(name, found)], rest)
      | _ => none
    | _ => none

end

inductive Statement where
  | header (key : List String)
  | define (key : List String) (value : Node)

/-- A statement, without what follows it on its line. -/
def statement : Reader Statement
  | '[' :: rest => do
    let (name, rest) ← key rest
    match rest with
    | ']' :: rest => some (.header name, rest)
    | _ => none
  | text => do
    let (name, rest) ← key text
    match rest with
    | '=' :: rest =>
      let rest := skipSpaces rest
      let (found, rest) ← value maxDepth (rest.length + 1) rest
      return (.define name found, rest)
    | _ => none

def statements : (fuel : Nat) → List Char → Option (List Statement)
  | 0, _ => none
  | fuel + 1, text =>
    match skipLines text.length text with
    | [] => some []
    | text => do
      let (first, rest) ← statement text
      let next ← endLine? (skipComment (skipSpaces rest))
      return first :: (← statements fuel next)

/-- Carries statements out, with definitions going to the table at `path`. -/
def build : (path : List String) → List Statement → Draft → Option Draft
  | _, [], entries => some entries
  | _, .header name :: rest, entries => do build name rest (← openTable name entries)
  | path, .define name found :: rest, entries => do
    build path rest (← within (define found name) path entries)

/-- The settings that a document defines; `none` if it cannot be read. The document itself is never
a moment. -/
def read? (source : String) : Option (Entries Setting) := do
  let text := match source.toList with
    | '\uFEFF' :: rest => rest
    | text => text
  let found ← statements (text.length + 1) text
  Node.settings? (← build [] found [])

end WikiEntry.Config.Document
