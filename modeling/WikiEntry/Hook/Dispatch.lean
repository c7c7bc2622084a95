import WikiEntry.Hook.Notices
import WikiEntry.Hook.Registry
import WikiEntry.LogLine

/-!
# Dispatching events

An event runs its handlers one after another. An ordinary event stops at the first handler that
does not let it go on; an event that nobody may block runs all of them and reports what went
wrong. In both cases the handlers are those that were registered when the event began, whatever
the handlers do to the registry meanwhile.

Handlers act on a scene: the arguments of the event and the world around it. What a handler's
code does to a scene is a parameter, so that all statements about dispatching hold for any code.

A wiki has one registry. A process may have others besides, which handlers can reach as well, and
an event is run with the handlers of one of them. All registries number their handlers from one
counter.
-/

namespace WikiEntry.Hook

variable {κ σ : Type}

inductive Place where
  /-- It is that of the wiki. -/
  | own
  /-- It is another one of the process. -/
  | other (number : Nat)
  deriving DecidableEq, Repr

/-- What handlers share: the registries, the notices given, the log, and a memory of their own. The
counter is that of the wiki's own registry; those of the others do not matter. -/
structure World (κ σ : Type) where
  registry : Registry κ
  others : Nat → Registry κ := fun _ => { mode := .production }
  notices : Notices := {}
  log : List LogLine := []
  memory : σ

namespace World

/-- The registry in a place, with the counter of all. -/
def registryOf (w : World κ σ) : Place → Registry κ
  | .own => w.registry
  | .other k => { w.others k with nextId := w.registry.nextId }

/-- The world with a registry in a place. Its counter becomes that of all. -/
def withRegistry (w : World κ σ) (reg : Registry κ) : Place → World κ σ
  | .own => { w with registry := reg }
  | .other k =>
    { w with
      registry := { w.registry with nextId := reg.nextId }
      others := fun j => if j = k then reg else w.others j }

def report (w : World κ σ) (line : LogLine) : World κ σ :=
  { w with log := w.log ++ [line] }

end World

structure Scene (κ σ : Type) where
  world : World κ σ
  args : Arguments

/-- What code does to a scene, and how it ends. -/
abbrev Behaviour (κ σ : Type) := κ → Scene κ σ → Except Failure Outcome × Scene κ σ

/-- What becomes of handlers that do not fit the arguments of an event that cannot be stopped. -/
inductive Policy where
  /-- The event fails, which suits development. -/
  | strict
  /-- They are reported and passed over. -/
  | lenient
  deriving DecidableEq, Repr

def Policy.ofDevelopmentWarnings (enabled : Bool) : Policy := if enabled then .strict else .lenient

/-- Gives the notice about a handler that is about to run for an event, unless it is not
deprecated or the notice has been given. -/
def World.notice (w : World κ σ) (event : String) (e : Entry κ) : World κ σ :=
  match e.about.deprecatedSince with
  | none => w
  | some version =>
    if w.notices.mentions event e.identity then w
    else { w.report (.deprecated event e.name version) with
            notices := w.notices.mention event e.identity }

/-- The failure of a handler as the failure of its event: wrong arguments make the handler
invalid, any other cause makes it failed. -/
def blame (event : String) (index : Nat) (e : Entry κ) : Failure → DispatchError
  | .argument reason => .invocation event index e.name reason
  | cause => .handlerFailed event index e.name cause

/-- Calls the handler at position `index` of an event. Its code is not entered if it does not take
so many arguments. -/
def call (act : Behaviour κ σ) (event : String) (index : Nat) (e : Entry κ) (s : Scene κ σ) :
    Except DispatchError Outcome × Scene κ σ :=
  if e.accepts s.args.length then
    match act e.body { s with world := s.world.notice event e } with
    | (.ok outcome, after) => (.ok outcome, after)
    | (.error cause, after) => (.error (blame event index e cause), after)
  else (.error (.invocation event index e.name
    (.arity (e.about.arity.getD 0) s.args.length)), s)

def Scene.report (s : Scene κ σ) (line : LogLine) : Scene κ σ :=
  { s with world := s.world.report line }

/-- Runs the handlers of an event from position `index` on until one of them stops it. The answer
says whether none did. -/
def runFrom (act : Behaviour κ σ) (event : String) :
    Nat → List (Entry κ) → Scene κ σ → Except DispatchError Bool × Scene κ σ
  | _, [], s => (.ok true, s)
  | index, e :: rest, s =>
    match call act event index e s with
    | (.ok .proceed, s) => runFrom act event (index + 1) rest s
    | (.ok .abort, s) => (.ok false, s)
    | (.ok (.fatal message), s) => (.error (.fatal event e.name message), s)
    | (.error error, s) => (.error error, s.report (.handlerFailed event e.name error))

def run (act : Behaviour κ σ) (place : Place) (event : String) (s : Scene κ σ) :
    Except DispatchError Bool × Scene κ σ :=
  runFrom act event 0 ((s.world.registryOf place).handlers event) s

/-- Runs the handlers of an event from position `index` on, whatever they answer. Only a handler
that does not fit the arguments can end the event, and only under the strict policy. -/
def runAllFrom (act : Behaviour κ σ) (policy : Policy) (event : String) :
    Nat → List (Entry κ) → Scene κ σ → Except DispatchError Bool × Scene κ σ
  | _, [], s => (.ok true, s)
  | index, e :: rest, s =>
    match call act event index e s with
    | (.ok .proceed, s) => runAllFrom act policy event (index + 1) rest s
    | (.ok outcome, s) =>
      runAllFrom act policy event (index + 1) rest
        (s.report (.invalidReturn event e.name outcome))
    | (.error (.invocation ev i handler reason), s) =>
      let error := DispatchError.invocation ev i handler reason
      let s := s.report (.invalidHandler event e.name error)
      match policy with
      | .strict => (.error error, s)
      | .lenient => runAllFrom act policy event (index + 1) rest s
    | (.error error, s) =>
      runAllFrom act policy event (index + 1) rest
        (s.report (.handlerSkipped event e.name error))

def runAll (act : Behaviour κ σ) (policy : Policy) (place : Place) (event : String)
    (s : Scene κ σ) : Except DispatchError Bool × Scene κ σ :=
  runAllFrom act policy event 0 ((s.world.registryOf place).handlers event) s

end WikiEntry.Hook
