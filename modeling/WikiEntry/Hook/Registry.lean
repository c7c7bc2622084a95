import WikiEntry.Hook.Outcome

/-!
# The registry of handlers

Handlers come from two sources: some are registered while the wiki runs, the others are fixed
when it starts. For every event the registered ones come first, in the order of registration, and
the fixed ones after them, in the order of their table. The registered ones can be taken away
again, but only in tests.

What the code of a handler is does not matter here; it is any type `κ`.
-/

namespace WikiEntry.Hook

open Std

inductive Mode where
  | production
  /-- The wiki is under test or maintenance. -/
  | test
  deriving DecidableEq, Repr

def Mode.testMarkers : List String := ["MW_PHPUNIT_TEST", "MW_PARSER_TEST"]

def Mode.ofMarkers (isSet : String → Bool) : Mode :=
  if testMarkers.any isSet then .test else .production

inductive Shape where
  | plain
  /-- A method with its receiver. -/
  | bound
  /-- A function with data fixed at registration. -/
  | withData
  deriving DecidableEq, Repr

/-- The name of a shape, from which the names of unnamed handlers are made. -/
def Shape.label : Shape → String
  | plain => "function"
  | bound => "bound method"
  | withData => "function with data"

structure Meta where
  name : Option String := none
  deprecatedSince : Option String := none
  arity : Option Nat := none
  deriving DecidableEq, Repr

/-- A handler on its way into a registry. -/
structure Registration (κ : Type) where
  event : String
  shape : Shape
  body : κ
  about : Meta := {}

/-- A registered handler: its code, its readable name, and the number that no other registration
has. -/
structure Entry (κ : Type) where
  shape : Shape
  body : κ
  about : Meta
  name : String
  id : Nat

namespace Entry

variable {κ : Type}

/-- The entry for a registration that becomes the handler number `position` of its event. A
handler without a name is called after its shape and position. -/
def ofRegistration (r : Registration κ) (position id : Nat) : Entry κ where
  shape := r.shape
  body := r.body
  about := r.about
  name := r.about.name.getD (r.shape.label ++ "#" ++ toString position)
  id := id

/-- What a handler is known by across registries: the name it was given, else the number of its
registration. Names made from positions repeat, so they do not serve. -/
def identity (e : Entry κ) : String := e.about.name.getD ("#" ++ toString e.id)

def accepts (e : Entry κ) (count : Nat) : Bool :=
  match e.about.arity with
  | some arity => arity == count
  | none => true

end Entry

abbrev HandlerTable (κ : Type) := TreeMap String (List (Entry κ))

namespace HandlerTable

variable {κ : Type}

def of (table : HandlerTable κ) (event : String) : List (Entry κ) := table.getD event []

def append (table : HandlerTable κ) (r : Registration κ) (id : Nat) : HandlerTable κ :=
  table.insert r.event
    (table.of r.event ++ [Entry.ofRegistration r ((table.of r.event).length + 1) id])

def events (table : HandlerTable κ) : List String :=
  table.keys.filter fun e => !(table.of e).isEmpty

end HandlerTable

/-- All handlers of a wiki. `nextId` is the number for the next registration. -/
structure Registry (κ : Type) where
  registered : HandlerTable κ := ∅
  fixed : HandlerTable κ := ∅
  mode : Mode
  nextId : Nat := 1

namespace Registry

variable {κ : Type}

def ofFixed (mode : Mode) (fixed : List (Registration κ)) : Registry κ :=
  fixed.foldl
    (fun reg r => { reg with fixed := reg.fixed.append r reg.nextId, nextId := reg.nextId + 1 })
    { mode := mode }

def register (reg : Registry κ) (r : Registration κ) : Registry κ :=
  { reg with registered := reg.registered.append r reg.nextId, nextId := reg.nextId + 1 }

/-- Takes away the registered handlers of an event; refused while the wiki is in operation. -/
def clear (reg : Registry κ) (event : String) : Except DispatchError (Registry κ) :=
  match reg.mode with
  | .test => .ok { reg with registered := reg.registered.erase event }
  | .production => .error (.clearInOperation event)

/-- The handlers of an event in the order in which they run. -/
def handlers (reg : Registry κ) (event : String) : List (Entry κ) :=
  reg.registered.of event ++ reg.fixed.of event

/-- Whether an event has handlers. Both sources are asked; the list of handlers is not made. -/
def isRegistered (reg : Registry κ) (event : String) : Bool :=
  !(reg.registered.of event).isEmpty || !(reg.fixed.of event).isEmpty

/-- The events that have handlers, each once, in ascending order. -/
def events (reg : Registry κ) : List String :=
  ((reg.registered.events ++ reg.fixed.events).foldl TreeSet.insert (∅ : TreeSet String)).toList

end Registry

/-- A handler that announces itself when the wiki is put together. Among the handlers of an event
those with a smaller order come first. -/
structure Bundled (κ : Type) where
  event : String
  name : String
  order : Int := 0
  deprecatedSince : Option String := none
  body : κ

namespace Bundled

variable {κ : Type}

/-- Whether one bundled handler comes before another, or the two rank equal: by event, then by
order, then by name. -/
def precedes (a b : Bundled κ) : Bool :=
  ((compare a.event b.event).then ((compare a.order b.order).then
    (compare a.name b.name))).isLE

/-- The registrations of bundled handlers. The order in which they announce themselves is not
stable, so they are sorted. -/
def registrations (bundled : List (Bundled κ)) : List (Registration κ) :=
  (bundled.mergeSort precedes).map fun b =>
    { event := b.event, shape := .plain, body := b.body
      about := { name := some b.name, deprecatedSince := b.deprecatedSince } }

end Bundled

end WikiEntry.Hook
