import WikiEntry.Hook.Code
import WikiEntry.Wiki.Basic

/-!
# Running wikis

A running wiki has a world, in which its handlers live, and two tables that are made when they are
first asked for: namespaces and special pages. Making a table runs an event, so that handlers can
contribute. If that fails, the failure goes to whoever asked for the table itself, while a mere
look-up is served from the configuration alone and reported. Only a table that was made without a
failure is kept.
-/

namespace WikiEntry.Wiki

open Hook (Arguments Argument DispatchError Invoker Kind Policy Scene Code World)

/-- A running wiki: its world and the tables it has kept. `σ` is the memory of its handlers. -/
structure Running (σ : Type) where
  world : World (Code σ) σ
  namespaces : Option Namespace.Table := none
  specialPages : Option SpecialPage.Table := none

abbrev Live (σ : Type) := StateM (Running σ)

namespace Live

variable {σ : Type}

def run (i : Invoker) (event : String) (args : Arguments) :
    Live σ (Except DispatchError Bool × Arguments) := fun st =>
  match i.dispatch .stoppable event ⟨st.world, args⟩ with
  | (answer, scene) => ((answer, scene.args), { st with world := scene.world })

def report (line : LogLine) : Live σ Unit := fun st =>
  ((), { st with world := st.world.report line })

end Live

/-- A table that is made on demand: the event in which handlers contribute to its source, the
source before that, the table for a source, what is reported when handlers fail, and where a
running wiki keeps it. -/
structure OnDemand (σ α : Type) where
  event : Event
  kind : Kind
  source : kind.Value
  make : kind.Value → α
  failure : DispatchError → LogLine
  kept : Running σ → Option α
  keep : Option α → Running σ → Running σ

namespace OnDemand

variable {σ α : Type}

/-- Makes the table anew and keeps it. A handler that stops the event does no harm: what has been
contributed so far counts. -/
def rebuild (t : OnDemand σ α) (i : Invoker) : ExceptT DispatchError (Live σ) α := do
  let (answer, args) ← (Live.run i t.event.name [⟨t.kind, t.source⟩] : Live σ _)
  match answer with
  | .error error => throw error
  | .ok _ =>
    let table := t.make (args.getD t.kind 0 t.source)
    modify (t.keep (some table))
    return table

/-- The table; made anew if none is kept or if `force` says so. -/
def request (t : OnDemand σ α) (i : Invoker) (force : Bool) : ExceptT DispatchError (Live σ) α := do
  match t.kept (← get) with
  | some table => if force then t.rebuild i else return table
  | none => t.rebuild i

/-- The table for a look-up, which never fails. -/
def lookUp (t : OnDemand σ α) (i : Invoker) : Live σ α := do
  match t.kept (← get) with
  | some table => return table
  | none =>
    match ← (t.rebuild i).run with
    | .ok table => return table
    | .error error =>
      Live.report (t.failure error)
      return t.make t.source

def invalidate (t : OnDemand σ α) : Live σ Unit := modify (t.keep none)

end OnDemand

def namespaceTable (σ : Type) (settings : Namespace.Settings) : OnDemand σ Namespace.Table where
  event := .canonicalNamespaces
  kind := .namespaces
  source := settings.names
  make := .ofNames
  failure := .namespacesFallBack
  kept := (·.namespaces)
  keep table st := { st with namespaces := table }

def specialPageTable (σ : Type) (settings : SpecialPage.Settings) :
    OnDemand σ SpecialPage.Table where
  event := .specialPageInitList
  kind := .names
  source := settings.names
  make names := .ofNames names settings.aliases
  failure := .specialPagesFallBack
  kept := (·.specialPages)
  keep table st := { st with specialPages := table }

def services {σ : Type} (w : Wiki) (i : Invoker) : Services (Live σ) where
  namespaces := (namespaceTable σ w.namespaces).lookUp i
  specialPages := (specialPageTable σ w.specialPages).lookUp i
  run := Live.run i
  report := Live.report

def policyOf (c : Config) : Except ConfigError Policy := do
  return .ofDevelopmentWarnings (← c.flag "DevelopmentWarnings")

end WikiEntry.Wiki
