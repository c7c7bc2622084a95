import Std.Data.TreeMap
import WikiEntry.ArticlePath
import WikiEntry.Config.Document
import WikiEntry.Text.Blank

/-!
# Configurations

A configuration is a table of settings by name. Those that a wiki reads have a type, and reading
a setting as another type fails. A new configuration holds the usual values; a document replaces
whole settings.
-/

namespace WikiEntry

open Std

namespace Config

/-- The types that settings are read as. -/
inductive Expected where
  | boolean
  | string
  | stringList
  | stringTable
  | numberedTable
  deriving DecidableEq, Repr

def Expected.label : Expected → String
  | boolean => "boolean"
  | string => "string"
  | stringList => "array of strings"
  | stringTable => "table of strings"
  | numberedTable => "table with integer keys"

end Config

inductive ConfigError where
  | missing (name : String)
  | mistyped (name : String) (expected : Config.Expected)
  | unreadable
  /-- The setting cannot be taken apart as it has to be. -/
  | unfit (name : String)
  | articlePath (template : String) (fault : ArticlePath.Fault)
  deriving DecidableEq, Repr

def ConfigError.message : ConfigError → String
  | missing name => "no setting named " ++ name
  | mistyped name expected => "setting " ++ name ++ " is not a " ++ expected.label
  | unreadable => "invalid configuration: the document cannot be read"
  | unfit name => "invalid configuration: " ++ name ++ " is not a table of lists of strings"
  | articlePath template fault => "invalid configuration: " ++ fault.message template

structure Config where
  settings : Config.Entries Config.Setting

namespace Config

def usual : Entries Setting :=
  [("UsePathInfo", .flag true), ("ArticlePath", .text "/wiki/$1"), ("Script", .text "/index.php"),
    ("Server", .text "http://localhost"), ("MainPage", .text "Main Page"),
    ("CapitalLinks", .flag true), ("DisableInternalSearch", .flag false),
    ("ExtraNamespaces", .table []), ("ExtensionNamespaces", .table []),
    ("InterwikiPrefixes", .table []), ("LocalInterwikis", .list []),
    ("DevelopmentWarnings", .flag false), ("SpecialPageAliases", .table []),
    ("ColonEncodingBroken", .flag false)]

def empty : Config := ⟨[]⟩

def set (c : Config) (name : String) (value : Setting) : Config := ⟨c.settings.put name value⟩

def setAll (c : Config) (values : Entries Setting) : Config :=
  values.foldl (fun c entry => c.set entry.1 entry.2) c

/-- The configuration of a wiki that configures nothing. -/
def standard : Config := empty.setAll usual

/-- The standard configuration with the settings of a document. -/
def ofDocument (source : String) : Except ConfigError Config :=
  match Document.read? source with
  | some values => .ok (standard.setAll values)
  | none => .error .unreadable

def get (c : Config) (name : String) : Except ConfigError Setting :=
  match c.settings.find? name with
  | some value => .ok value
  | none => .error (.missing name)

def has (c : Config) (name : String) : Bool := (c.settings.find? name).isSome

def flag (c : Config) (name : String) : Except ConfigError Bool := do
  match ← c.get name with
  | .flag value => return value
  | _ => throw (.mistyped name .boolean)

def text (c : Config) (name : String) : Except ConfigError String := do
  match ← c.get name with
  | .text value => return value
  | _ => throw (.mistyped name .string)

def Setting.text? : Setting → Option String
  | .text value => some value
  | _ => none

def texts (c : Config) (name : String) : Except ConfigError (List String) := do
  match ← c.get name with
  | .list items =>
    match items.mapM Setting.text? with
    | some values => return values
    | none => throw (.mistyped name .stringList)
  | _ => throw (.mistyped name .stringList)

def entryTexts? (entries : Entries Setting) : Option (Entries String) :=
  entries.mapM fun entry => entry.2.text?.map fun value => (entry.1, value)

/-- A setting as a table of texts, in ascending order of the names. -/
def textTable (c : Config) (name : String) : Except ConfigError (Entries String) := do
  match ← c.get name with
  | .table entries =>
    match entryTexts? entries with
    | some values => return values
    | none => throw (.mistyped name .stringTable)
  | _ => throw (.mistyped name .stringTable)

/-- A whole number of 32 bits: digits with at most one sign before them. -/
def number? (text : List Char) : Option Int := do
  let (negative, digits) := match text with
    | '-' :: rest => (true, rest)
    | '+' :: rest => (false, rest)
    | rest => (false, rest)
  if digits = [] ∨ !digits.all Char.isDigit then none
  let size := digits.foldl (fun (n : Nat) c => 10 * n + (c.toNat - 48)) 0
  let value := if negative then -(size : Int) else size
  if -2147483648 ≤ value ∧ value < 2147483648 then some value else none

/-- A setting as names by number. The numbers are written as names of a table; of two spellings
of one number the later one counts. -/
def numbered (c : Config) (name : String) : Except ConfigError (TreeMap Int String) := do
  let entries ← c.textTable name
  entries.foldlM
    (fun found entry =>
      match number? (Text.trimBlanks entry.1.toList) with
      | some n => .ok (found.insert n entry.2)
      | none => .error (.mistyped name .numberedTable))
    ∅

/-- The text that a value is, or the text of a moment. -/
def Setting.written? : Setting → Option String
  | .text value => some value
  | .moment value => some value.text
  | _ => none

/-- The texts of a list, with moments among them. -/
def Setting.texts? : Setting → Option (List String)
  | .list items => items.mapM Setting.written?
  | _ => none

def textLists (c : Config) (name : String) : Except ConfigError (TreeMap String (List String)) := do
  match ← c.get name with
  | .table entries =>
    match entries.mapM fun entry => entry.2.texts?.map fun values => (entry.1, values) with
    | some lists => return lists.foldl (fun found entry => found.insert entry.1 entry.2) ∅
    | none => throw (.unfit name)
  | _ => throw (.unfit name)

end Config

end WikiEntry
