import WikiEntry.Hook.Dispatch

/-!
# What handlers can do

The code of a handler is a tree of steps, each of which does one thing and says how to go
on with what came of it. It can look at the arguments and at the memory it shares with other
handlers, write to both, register handlers and take them away, and run events itself. It cannot
do anything else; in particular notices are given and the log is written by the dispatch alone.

A handler need not run an event by the same means as it is run itself: it may hold on to a way to
reach the handlers of another registry, or to treat those that do not fit otherwise. Such a means
is a `Channel`. However an event is run, notices are recorded and lines are logged in one place.

Code that runs events whose handlers run events would never end if nothing limited them, so a
dispatch comes with the depth to which events may be nested.
-/

namespace WikiEntry.Hook

/-- How an event is run: so that handlers may stop it, or so that none may. -/
inductive Manner where
  | stoppable
  | unstoppable
  deriving DecidableEq, Repr

/-- A means to run events: the place of the registry whose handlers are run, and what becomes of
those that do not fit. -/
structure Channel where
  place : Place := .own
  policy : Policy := .lenient
  deriving DecidableEq, Repr

/-- The code of a handler. Every step names what comes after it. -/
inductive Code (σ : Type) where
  | finish (result : Except Failure Outcome)
  | look (next : Arguments → σ → Code σ)
  /-- Writes an argument over one of the same kind. -/
  | put (index : Nat) (a : Argument) (next : Code σ)
  | remember (memory : σ) (next : Code σ)
  | register (place : Place) (event : String) (shape : Shape) (body : Code σ) (about : Meta)
      (next : Code σ)
  /-- Takes the registered handlers of an event away; what follows learns whether that was
  refused. -/
  | clear (place : Place) (event : String) (next : Except DispatchError Unit → Code σ)
  /-- Runs an event with arguments, through a channel or, without one, through that by which the
  handler itself is run. What follows learns the answer and the arguments after it. -/
  | run (through : Option Channel) (manner : Manner) (event : String) (args : Arguments)
      (next : Except DispatchError Bool → Arguments → Code σ)

/-- How events are run for the code of handlers. Without a channel, they are run through that by
which the handler itself is run. -/
abbrev Dispatch (σ : Type) := Option Channel → Manner → String → Scene (Code σ) σ →
  Except DispatchError Bool × Scene (Code σ) σ

namespace Code

variable {σ : Type}

/-- Goes on with the value of an argument, or fails if there is none of that kind. -/
def read (k : Kind) (index : Nat) (next : k.Value → Code σ) : Code σ :=
  .look fun args _ =>
    match args.get k index with
    | .ok v => next v
    | .error e => .finish (.error (.argument e))

def modify (k : Kind) (index : Nat) (change : k.Value → k.Value) (next : Code σ) : Code σ :=
  read k index fun v => .put index ⟨k, change v⟩ next

def readPair (k l : Kind) (first second : Nat) (next : Slots.Pair Kind.Value k l → Code σ) :
    Code σ :=
  .look fun args _ =>
    match args.pair k l first second with
    | .ok both => next both
    | .error e => .finish (.error (.argument e))

def putAll : (index : Nat) → Arguments → Code σ → Code σ
  | _, [], next => next
  | index, a :: rest, next => .put index a (putAll (index + 1) rest next)

def modifyPair (k l : Kind) (first second : Nat)
    (change : k.Value → l.Value → k.Value × l.Value) (next : Code σ) : Code σ :=
  readPair k l first second fun both => putAll 0 (both.modify change) next

def expectArity (expected : Nat) (next : Code σ) : Code σ :=
  .look fun args _ =>
    match args.expectArity expected with
    | .ok () => next
    | .error e => .finish (.error (.argument e))

/-- Goes on with data that was bound at registration and has to be of a kind. -/
def withData (k : Kind) (data : Argument) (next : k.Value → Code σ) : Code σ :=
  match data.as? k with
  | some v => next v
  | none => .finish (.error (.argument (.data k)))

/-- Does what the code says to a scene, given how events are run. -/
def perform (dispatch : Dispatch σ) : Behaviour (Code σ) σ
  | .finish result, s => (result, s)
  | .look next, s => perform dispatch (next s.args s.world.memory) s
  | .put index a next, s => perform dispatch next { s with args := s.args.put index a }
  | .remember memory next, s =>
    perform dispatch next { s with world := { s.world with memory := memory } }
  | .register place event shape body about next, s =>
    let registry := (s.world.registryOf place).register ⟨event, shape, body, about⟩
    perform dispatch next { s with world := s.world.withRegistry registry place }
  | .clear place event next, s =>
    match (s.world.registryOf place).clear event with
    | .ok registry =>
      perform dispatch (next (.ok ())) { s with world := s.world.withRegistry registry place }
    | .error e => perform dispatch (next (.error e)) s
  | .run through manner event args next, s =>
    match dispatch through manner event ⟨s.world, args⟩ with
    | (answer, inner) =>
      perform dispatch (next answer inner.args) { s with world := inner.world }

end Code

/-- Runs an event whose handlers may run events up to `depth` levels further down. -/
def dispatchWithin {σ : Type} : (depth : Nat) → Channel → Manner → String → Scene (Code σ) σ →
    Except DispatchError Bool × Scene (Code σ) σ
  | 0, _, _, event, s => (.error (.nestedTooDeep event), s)
  | depth + 1, c, .stoppable, event, s =>
    run (Code.perform fun through => dispatchWithin depth (through.getD c)) c.place event s
  | depth + 1, c, .unstoppable, event, s =>
    runAll (Code.perform fun through => dispatchWithin depth (through.getD c)) c.policy c.place
      event s

/-- Does what code says to a scene, where the code is run through a channel and may run events up to
`depth` levels further down. -/
def Code.performWithin {σ : Type} (depth : Nat) (c : Channel) : Behaviour (Code σ) σ :=
  perform fun through => dispatchWithin depth (through.getD c)

/-- How a wiki runs events: what it does about handlers that do not fit, and how deep events may
be nested. -/
structure Invoker where
  policy : Policy := .lenient
  depth : Nat := 1000

namespace Invoker

variable {σ : Type}

def channel (i : Invoker) : Channel := { policy := i.policy }

def dispatch (i : Invoker) (manner : Manner) (event : String) (s : Scene (Code σ) σ) :
    Except DispatchError Bool × Scene (Code σ) σ :=
  dispatchWithin i.depth i.channel manner event s

/-- Does what some code says to a scene, outside of any event. -/
def perform (i : Invoker) : Behaviour (Code σ) σ := Code.performWithin i.depth i.channel

end Invoker

end WikiEntry.Hook
