import WikiEntry.Proofs.Hook.Registering
import WikiEntry.Proofs.Wiki.Settled

/-!
# Handlers that rewrite an argument

The simplest handlers change one argument by a function and let the event go on. An event that
has one such handler and no other does just that, and leaves the wiki as it was.
-/

namespace WikiEntry

open Hook

variable {σ : Type}

/-- The code of a handler that changes the argument at `index` and goes on. -/
def Hook.Code.rewriting (k : Kind) (index : Nat) (change : k.Value → k.Value) : Code σ :=
  .modify k index change (.finish (.ok .proceed))

/-- Registering a handler adds it to the handlers of its event and leaves those of others. -/
theorem Hook.Registry.handlers_register {κ : Type} (reg : Registry κ) (r : Registration κ)
    (event : String) :
    (reg.register r).handlers event =
      if r.event = event then
        reg.registered.of event ++
          [Entry.ofRegistration r ((reg.registered.of event).length + 1) reg.nextId] ++
          reg.fixed.of event
      else reg.handlers event := by
  have hchange := reg.handlers_change (.register r) event
  rw [change, Change.leaves] at hchange
  rw [hchange]
  by_cases h : r.event = event
  · subst h
    simp
  · simp [h, handlers]

/-- A registry with one handler, which rewrites an argument. -/
def Hook.Registry.rewriting (event : String) (k : Kind) (index : Nat)
    (change : k.Value → k.Value) : Registry (Code σ) :=
  Registry.register { mode := .production } ⟨event, .plain, .rewriting k index change, {}⟩

theorem Hook.Registry.handlers_rewriting_of_ne {event other : String} (h : event ≠ other)
    (k : Kind) (index : Nat) (change : k.Value → k.Value) :
    (rewriting event k index change : Registry (Code σ)).handlers other = [] := by
  rw [rewriting, handlers_register, if_neg h]
  rfl

namespace Wiki

variable {i : Invoker} {event : String} {k : Kind} {index : Nat} {change : k.Value → k.Value}

theorem Live.run_of_rewriting {st : Running σ}
    (hregistry : st.world.registry = .rewriting event k index change) (hdepth : 0 < i.depth)
    (args : Arguments) {v : k.Value} (hget : args.get k index = .ok v) :
    Live.run i event args st = ((.ok true, args.put index ⟨k, change v⟩), st) := by
  have hhandlers : st.world.registry.handlers event =
      [Entry.ofRegistration ⟨event, .plain, .rewriting k index change, {}⟩ 1 1] := by
    rw [hregistry, Registry.rewriting, Registry.handlers_register, if_pos rfl]
    rfl
  rw [Live.run, Invoker.dispatch_eq_runFrom hdepth, hhandlers]
  simp only [runFrom, call, Entry.ofRegistration, Entry.accepts, World.notice,
    Code.performWithin, Code.rewriting, Code.modify, Code.read, Code.perform, hget, if_true]

/-! ### Titles -/

variable {w : Wiki} {table : Namespace.Table} {specials : SpecialPage.Table} {st : Running σ}

/-- Whether a running wiki has a registry and has kept two tables. -/
structure Holds (registry : Registry (Code σ)) (table : Namespace.Table)
    (specials : SpecialPage.Table) (st : Running σ) : Prop where
  registry : st.world.registry = registry
  namespaces : st.namespaces = some table
  specialPages : st.specialPages = some specials

theorem announce_of_rewriting {change : Title → Title} (hdepth : 0 < i.depth)
    (hregistry : st.world.registry = .rewriting Event.beforeInitialize.name .title 0 change)
    (title : Title) : (announce (w.services i) title).run st = (.ok (change title), st) :=
  announce_of_run (s := w.services i)
    (Live.run_of_rewriting hregistry hdepth [⟨.title, title⟩, ⟨.flag, false⟩] rfl)

theorem consult_of_rewriting {change : Title → Title} (hdepth : 0 < i.depth)
    (hregistry : st.world.registry = .rewriting Event.testCanonicalRedirect.name .title 1 change)
    (request : Redirect.Snapshot) (title : Title) :
    ((w.canonical (w.services i)).consult request title).run st =
      (.ok (true, request, change title), st) :=
  consult_of_run (s := w.services i)
    (Live.run_of_rewriting hregistry hdepth [⟨.snapshot, request⟩, ⟨.title, title⟩] rfl)

/-- A wiki with its tables made and one handler, which rewrites the titles it learns of. -/
theorem settled_of_rewriting (w : Wiki) (hdepth : 0 < i.depth) (table : Namespace.Table)
    (specials : SpecialPage.Table) (change : Title → Title) :
    w.Settled (σ := σ) i
      (Holds (.rewriting Event.beforeInitialize.name .title 0 change) table specials)
      table specials change fun _ title => (true, title) where
  namespaces := Matches.of_run fun st hst =>
    ⟨st, OnDemand.lookUp_of_kept (t := namespaceTable σ w.namespaces) hst.namespaces, hst⟩
  specialPages := Matches.of_run fun st hst =>
    ⟨st, OnDemand.lookUp_of_kept (t := specialPageTable σ w.specialPages) hst.specialPages, hst⟩
  announced title := Matches.of_run fun st hst =>
    ⟨st, announce_of_rewriting hdepth hst.registry title, hst⟩
  consulted request title := Matches.of_run fun st hst =>
    ⟨st, consult_of_unhandled
      (hst.registry ▸ Registry.handlers_rewriting_of_ne (by decide) _ _ _) hdepth request title,
      hst⟩
  report line st hst := ⟨rfl, hst.registry, hst.namespaces, hst.specialPages⟩

end Wiki

end WikiEntry
