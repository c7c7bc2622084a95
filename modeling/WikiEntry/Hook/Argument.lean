import Std.Data.TreeMap
import Std.Data.TreeSet
import WikiEntry.Hook.Slots
import WikiEntry.Redirect.Snapshot
import WikiEntry.Title.Basic

/-!
# Arguments of events

An event hands its arguments to every handler, and each handler sees what the earlier ones have
made of them. Arguments are the slots of a list; a handler names the kind it expects of each.
-/

namespace WikiEntry.Hook

open Std

inductive Kind where
  | text
  | number
  | flag
  | texts
  | title
  /-- The parts of a request that decide about a redirect. -/
  | snapshot
  /-- Names of namespaces by number. -/
  | namespaces
  | names
  deriving DecidableEq, Repr

abbrev Kind.Value : Kind → Type
  | text => String
  | number => Int64
  | flag => Bool
  | texts => List String
  | title => Title
  | snapshot => Redirect.Snapshot
  | namespaces => TreeMap Int String
  | names => TreeSet String

abbrev Argument := Slot Kind.Value

/-- Why a handler cannot have the arguments it asks for, or the data it was registered with. -/
abbrev ArgumentError := SlotError Kind

abbrev Arguments := Slots Kind.Value

def Arguments.label (args : Arguments) : String :=
  "HookArgs \x7b len: " ++ toString args.length ++ " \x7d"

end WikiEntry.Hook
