import WikiEntry.Hook.Code

/-!
# Scripted handlers

Handlers can be written down as data: a list of actions and the answer given at the end. Scripts
are how the behaviour of dispatching is tried out without writing code. There are three sorts: one
that acts, one that only leaves a note of each call, and one that only counts its calls.

Scripts share a memory: the notes they leave, counters by name, and how often each registration
of a script has been called.
-/

namespace WikiEntry.Hook

open Std

/-- What scripts remember. Registrations of scripts are numbered from zero. -/
structure Memory where
  notes : List String := []
  counters : TreeMap String Nat := ∅
  calls : TreeMap Nat Nat := ∅
  enrolled : Nat := 0

def Memory.note (m : Memory) (text : String) : Memory := { m with notes := m.notes ++ [text] }

def Memory.count (m : Memory) (label : String) : Memory :=
  { m with counters := m.counters.insert label (m.counters.getD label 0 + 1) }

def Memory.called (m : Memory) (number : Nat) : Nat := m.calls.getD number 0

def Memory.enter (m : Memory) (number : Nat) : Memory :=
  { m with calls := m.calls.insert number (m.called number + 1) }

/-- A value as notes show it: tables and sets by their size. -/
def Kind.show : (k : Kind) → k.Value → String
  | .text, v => v
  | .number, v => toString v.toInt
  | .flag, v => if v then "true" else "false"
  | .texts, v => ",".intercalate v
  | .title, v => v.label
  | .snapshot, v => v.url
  | .namespaces, v => toString v.size
  | .names, v => toString v.size

inductive PairUse where
  /-- Appends the number to the text, then adds one to it. -/
  | textNumber
  /-- Appends the number to the text, then takes one from it. -/
  | numberText
  | swapTexts
  | swapNumbers
  | noteRequestTitle
  deriving DecidableEq, Repr

inductive SnapshotChange where
  | method (value : String)
  | url (value : String)
  | title (value : Option String)
  | action (value : String)
  | extraParams (value : List String)
  deriving DecidableEq, Repr

def SnapshotChange.make (s : Redirect.Snapshot) : SnapshotChange → Redirect.Snapshot
  | method value => { s with method := value }
  | url value => { s with url := value }
  | title value => { s with title := value }
  | action value => { s with action := value }
  | extraParams value => { s with extraParams := value }

mutual

/-- What a script does in one step. Positions are those of arguments; if there is no argument of
the kind that an action needs, the script fails. -/
inductive Action where
  | note (text : String)
  | noteData
  | noteCount
  | noteArguments
  | noteArgument (k : Kind) (index : Nat)
  | expectArity (count : Nat)
  | append (index : Nat) (text : String)
  /-- Appends the data the script was registered with to a text. -/
  | appendData (index : Nat)
  | add (index : Nat) (amount : Int64)
  | push (index : Nat) (text : String)
  | flip (index : Nat)
  | pair (use : PairUse) (first second : Nat)
  | putNamespace (index : Nat) (ns : Int) (name : String)
  | dropNamespace (index : Nat) (ns : Int)
  | putName (index : Nat) (name : String)
  | dropName (index : Nat) (name : String)
  | setTitle (index : Nat) (title : Title)
  /-- Puts another page of the namespace in the place of a title, if the table has one for it. -/
  | mapTitle (index : Nat) (table : List (String × String))
  | appendTitle (index : Nat) (text : String)
  | pointTitle (index : Nat) (fragment : String)
  | changeSnapshot (index : Nat) (change : SnapshotChange)
  /-- Answers at once if the key of a title starts with a text. -/
  | ifKeyStarts (index : Nat) (start : String) (answer : Answer)
  /-- Answers at once if the URL of a request contains a text. -/
  | ifUrlContains (index : Nat) (part : String) (answer : Answer)
  /-- Answers at once in the call with this number, where the first one has the number one. -/
  | ifCall (number : Nat) (answer : Answer)
  | register (event : String) (script : Script)
  /-- Takes the registered handlers of an event away, and notes whether that was allowed. -/
  | clear (event : String)
  /-- Runs an event without arguments, and notes the answer or fails with it. -/
  | run (event : String)
  /-- Runs an event that cannot be stopped with the same arguments, likewise. -/
  | runSame (event : String)

/-- A handler as data. -/
inductive Script where
  /-- Acts, then answers. If there is bound data it has to be a text. -/
  | acting (shape : Shape) (about : Meta) (data : Option Argument) (actions : List Action)
      (answer : Answer)
  | recording (about : Meta) (label : String) (outcome : Outcome)
  | counting (about : Meta) (label : String)

end

namespace Code

def note (text : String) (next : Code Memory) : Code Memory :=
  .look fun _ m => .remember (m.note text) next

/-- Goes on with the answer of an event that was run inside, or fails with its failure. -/
def answered (answer : Except DispatchError Bool) (next : Code Memory) : Code Memory :=
  match answer with
  | .ok agreed => note ("nested=" ++ Kind.flag.show agreed) next
  | .error e => .finish (.error (.dispatch e))

end Code

def PairUse.code (first second : Nat) (next : Code Memory) : PairUse → Code Memory
  | textNumber => Code.modifyPair .text .number first second
      (fun s n => (s ++ toString n.toInt, n + 1)) next
  | numberText => Code.modifyPair .number .text first second
      (fun n s => (n - 1, s ++ toString n.toInt)) next
  | swapTexts => Code.modifyPair .text .text first second (fun s t => (t, s)) next
  | swapNumbers => Code.modifyPair .number .number first second (fun n k => (k, n)) next
  | noteRequestTitle => Code.readPair .snapshot .title first second fun both =>
      Code.note ("pair=" ++ both.first.url ++ " " ++ both.second.label) next

namespace Script

def shape : Script → Shape
  | acting shape .. => shape
  | recording .. => .bound
  | counting .. => .plain

def about : Script → Meta
  | acting _ about .. => about
  | recording about .. => about
  | counting about .. => about

/-- The number of the next registration, and the memory after it. The counter of a script that
counts is there from its registration on. -/
def enrol (s : Script) (m : Memory) : Nat × Memory :=
  let m := match s with
    | counting _ label =>
      { m with counters := m.counters.insert label (m.counters.getD label 0) }
    | _ => m
  (m.enrolled, { m with enrolled := m.enrolled + 1 })

end Script

mutual

/-- The code of one action, with the number of the call in which it is done and the data that was
bound at registration. A call keeps its number even if other calls begin before it ends. -/
def Action.code (call : Nat) (data : String) : Action → Code Memory → Code Memory
  | .note text, next => Code.note text next
  | .noteData, next => Code.note ("data=" ++ data) next
  | .noteCount, next => .look fun args _ =>
      Code.note ("len=" ++ toString args.length ++ " empty=" ++ Kind.flag.show args.isEmpty) next
  | .noteArguments, next => .look fun args _ => Code.note args.label next
  | .noteArgument k index, next => Code.read k index fun v =>
      Code.note ("get=" ++ k.show v) next
  | .expectArity count, next => Code.expectArity count next
  | .append index text, next => Code.modify .text index (· ++ text) next
  | .appendData index, next => Code.modify .text index (· ++ data) next
  | .add index amount, next => Code.modify .number index (· + amount) next
  | .push index text, next => Code.modify .texts index (· ++ [text]) next
  | .flip index, next => Code.modify .flag index (!·) next
  | .pair use first second, next => use.code first second next
  | .putNamespace index ns name, next => Code.modify .namespaces index (·.insert ns name) next
  | .dropNamespace index ns, next => Code.modify .namespaces index (·.erase ns) next
  | .putName index name, next => Code.modify .names index (·.insert name) next
  | .dropName index name, next => Code.modify .names index (·.erase name) next
  | .setTitle index title, next => Code.modify .title index (fun _ => title) next
  | .mapTitle index table, next => Code.modify .title index
      (fun t => ((table.lookup t.key).map fun text => Title.make t.ns text "" "").getD t) next
  | .appendTitle index text, next => Code.modify .title index
      (fun t => Title.make t.ns (t.key ++ text) t.fragment t.interwiki) next
  | .pointTitle index fragment, next =>
      Code.modify .title index (fun t : Title => t.withFragment fragment) next
  | .changeSnapshot index change, next =>
      Code.modify .snapshot index (fun s => change.make s) next
  | .ifKeyStarts index start answer, next => Code.read .title index fun (t : Title) =>
      if start.toList.isPrefixOf t.key.toList then .finish answer.result else next
  | .ifUrlContains index part answer, next =>
      Code.read .snapshot index fun (s : Redirect.Snapshot) =>
        if Text.occurs part.toList s.url.toList then .finish answer.result else next
  | .ifCall number answer, next => if call = number then .finish answer.result else next
  | .register event script, next => .look fun _ m =>
      let (inner, m) := script.enrol m
      .remember m (.register .own event script.shape (script.code inner) script.about next)
  | .clear event, next => .clear .own event fun refused =>
      Code.note ("clear=" ++ Kind.flag.show (refused matches .ok ())) next
  | .run event, next => .run none .stoppable event [] fun answer _ => Code.answered answer next
  | .runSame event, next => .look fun args _ =>
      .run none .unstoppable event args fun answer after =>
        Code.putAll 0 after (Code.answered answer next)

def Action.codeAll (call : Nat) (data : String) : List Action → Code Memory → Code Memory
  | [], next => next
  | action :: rest, next => action.code call data (Action.codeAll call data rest next)

def Script.code : Script → Nat → Code Memory
  | .acting _ _ none actions answer, number =>
    .look fun _ m => .remember (m.enter number)
      (Action.codeAll (m.called number + 1) "" actions (.finish answer.result))
  | .acting _ _ (some data) actions answer, number =>
    Code.withData .text data fun data =>
      .look fun _ m => .remember (m.enter number)
        (Action.codeAll (m.called number + 1) data actions (.finish answer.result))
  | .recording _ label outcome, _ => Code.note label (.finish (.ok outcome))
  | .counting _ label, _ => .look fun _ m => .remember (m.count label) (.finish (.ok .proceed))

end

namespace Script

def registration (s : Script) (event : String) (m : Memory) :
    Registration (Code Memory) × Memory :=
  let (number, m) := s.enrol m
  (⟨event, s.shape, s.code number, s.about⟩, m)

def register (s : Script) (event : String) (w : World (Code Memory) Memory) :
    World (Code Memory) Memory :=
  let (r, m) := s.registration event w.memory
  { w with registry := w.registry.register r, memory := m }

end Script

end WikiEntry.Hook
