import WikiEntry.LogLine
import WikiEntry.Namespace.Table
import WikiEntry.SpecialPage.Table

/-!
# What a wiki asks of its surroundings

Deciding about a request takes four things from outside: the table of namespaces and the table of
special pages, each of which may be made anew at any time, a way to run events, and a log. The
decisions are written against these, so that they can be followed with everything held fixed, and
run with tables made on demand and handlers that do as they please.
-/

namespace WikiEntry

open Hook (Arguments DispatchError)

/-- The services that decisions use. Running an event answers whether no handler stopped it, and
what the handlers have made of the arguments. -/
structure Services (m : Type → Type) where
  namespaces : m Namespace.Table
  specialPages : m SpecialPage.Table
  run : String → Arguments → m (Except DispatchError Bool × Arguments)
  report : LogLine → m Unit

/-- The events that a wiki runs itself. -/
inductive Event where
  /-- The table of namespaces is made; handlers may add and rename entries. -/
  | canonicalNamespaces
  /-- The table of special pages is made; handlers may add and remove pages. -/
  | specialPageInitList
  | beforeInitialize
  /-- A request is about to be sent to the canonical URL of its title; handlers may refuse. -/
  | testCanonicalRedirect
  deriving DecidableEq, Repr

def Event.name : Event → String
  | canonicalNamespaces => "CanonicalNamespaces"
  | specialPageInitList => "SpecialPage_initList"
  | beforeInitialize => "BeforeInitialize"
  | testCanonicalRedirect => "TestCanonicalRedirect"

def Hook.Arguments.getD (args : Arguments) (k : Hook.Kind) (index : Nat) (default : k.Value) :
    k.Value :=
  match args.get k index with
  | .ok v => v
  | .error _ => default

end WikiEntry
