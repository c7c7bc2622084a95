import WikiEntry.Proofs.Hook.Stopping
import WikiEntry.Proofs.Wiki.OnDemand

/-!
# Wikis with fixed tables and fixed handlers

A wiki is settled if in all states with some property the tables are the same, the handlers that
learn of a title rewrite it by one function, and the handlers that are asked about a redirect
answer by another. Such a wiki follows services that are made of these tables and functions. A
wiki that has kept its tables and has no handlers for these events is settled.
-/

namespace WikiEntry

open Hook (Arguments Invoker)

/-- The services of a wiki whose tables and handlers are fixed. -/
def Services.fixed (table : Namespace.Table) (specials : SpecialPage.Table)
    (rewrite : Title → Title) (judge : Redirect.Snapshot → Title → Bool × Title) :
    Services Id where
  namespaces := table
  specialPages := specials
  run event args :=
    if event = Event.beforeInitialize.name then
      match args.get .title 0 with
      | .ok title => (.ok true, args.put 0 ⟨.title, rewrite title⟩)
      | .error _ => (.ok true, args)
    else
      match args.get .snapshot 0, args.get .title 1 with
      | .ok request, .ok title =>
        (.ok (judge request title).1, args.put 1 ⟨.title, (judge request title).2⟩)
      | _, _ => (.ok true, args)
  report _ := ()

namespace Wiki

variable {σ : Type} {P : Running σ → Prop} {w : Wiki} {i : Invoker} {table : Namespace.Table}
  {specials : SpecialPage.Table} {rewrite : Title → Title}
  {judge : Redirect.Snapshot → Title → Bool × Title}

/-- Whether a running wiki answers every question in the same way as long as `P` holds. -/
structure Settled (w : Wiki) (i : Invoker) (P : Running σ → Prop) (table : Namespace.Table)
    (specials : SpecialPage.Table) (rewrite : Title → Title)
    (judge : Redirect.Snapshot → Title → Bool × Title) : Prop where
  namespaces : Matches P (w.services i).namespaces (pure table)
  specialPages : Matches P (w.services i).specialPages (pure specials)
  announced : ∀ title, MatchesE P (announce (w.services i) title) (pure (rewrite title))
  consulted : ∀ request title, MatchesE P ((w.canonical (w.services i)).consult request title)
    (pure ((judge request title).1, request, (judge request title).2))
  report : ∀ line, Matches P (Live.report line) (pure ())

theorem Settled.follows (h : w.Settled i P table specials rewrite judge) :
    Follows P (w.services i) (Services.fixed table specials rewrite judge) where
  namespaces := h.namespaces
  specialPages := h.specialPages
  announced := h.announced
  consulted _ := h.consulted
  report := h.report

/-! ### Events without handlers -/

theorem Live.run_of_unhandled {event : String} {st : Running σ}
    (hnone : st.world.registry.handlers event = []) (hdepth : 0 < i.depth) (args : Arguments) :
    Live.run i event args st = ((.ok true, args), st) := by
  rw [Live.run, Hook.Invoker.dispatch_eq_runFrom hdepth, hnone, Hook.runFrom]

theorem announce_of_run {s : Services (Live σ)} {st st' : Running σ} {title : Title}
    {agreed : Bool} {args : Arguments}
    (hrun : s.run Event.beforeInitialize.name [⟨.title, title⟩, ⟨.flag, false⟩] st =
      ((.ok agreed, args), st')) :
    (announce s title).run st = (.ok (args.getD .title 0 title), st') := by
  unfold announce
  rw [ExceptT.run_bind, bind_apply, liftM_apply, hrun]
  rfl

theorem consult_of_run {s : Services (Live σ)} {st st' : Running σ}
    {request : Redirect.Snapshot} {title : Title} {agreed : Bool} {args : Arguments}
    (hrun : s.run Event.testCanonicalRedirect.name [⟨.snapshot, request⟩, ⟨.title, title⟩] st =
      ((.ok agreed, args), st')) :
    ((w.canonical s).consult request title).run st =
      (.ok (agreed, args.getD .snapshot 0 request, args.getD .title 1 title), st') := by
  unfold Redirect.Canonical.consult
  rw [ExceptT.run_bind, bind_apply, liftM_apply, canonical, hrun]
  rfl

theorem announce_of_unhandled {st : Running σ}
    (hnone : st.world.registry.handlers Event.beforeInitialize.name = []) (hdepth : 0 < i.depth)
    (title : Title) : (announce (w.services i) title).run st = (.ok title, st) := by
  have hrun := Live.run_of_unhandled hnone hdepth [⟨.title, title⟩, ⟨.flag, false⟩]
  exact announce_of_run (s := w.services i) hrun

theorem consult_of_unhandled {st : Running σ}
    (hnone : st.world.registry.handlers Event.testCanonicalRedirect.name = [])
    (hdepth : 0 < i.depth) (request : Redirect.Snapshot) (title : Title) :
    ((w.canonical (w.services i)).consult request title).run st =
      (.ok (true, request, title), st) := by
  have hrun := Live.run_of_unhandled hnone hdepth [⟨.snapshot, request⟩, ⟨.title, title⟩]
  exact consult_of_run (s := w.services i) hrun

/-! ### Tables -/

theorem OnDemand.asked_of_unhandled {α : Type} {t : OnDemand σ α} {st : Running σ}
    (hnone : st.world.registry.handlers t.event.name = []) (hdepth : 0 < i.depth) :
    t.attempt i st = .ok (t.make t.source) ∧ t.asked i st = st := by
  have hrun := Live.run_of_unhandled hnone hdepth [⟨t.kind, t.source⟩]
  change (((t.ask i st).1, (t.ask i st).2.args), t.asked i st) = _ at hrun
  obtain ⟨hanswer, hstate⟩ := Prod.mk.inj hrun
  obtain ⟨hagreed, hargs⟩ := Prod.mk.inj hanswer
  refine ⟨?_, hstate⟩
  rw [attempt, hagreed, hargs]
  simp [Except.map, Hook.Arguments.getD, Hook.Slots.get]

/-- A table that is made while no handler contributes to it is the table of its source. -/
theorem OnDemand.lookUp_of_unhandled {α : Type} {t : OnDemand σ α} {st : Running σ}
    (hempty : t.kept st = none) (hnone : st.world.registry.handlers t.event.name = [])
    (hdepth : 0 < i.depth) :
    t.lookUp i st = (t.make t.source, t.keep (some (t.make t.source)) st) := by
  obtain ⟨hattempt, hasked⟩ := OnDemand.asked_of_unhandled hnone hdepth
  rw [lookUp_of_ok hempty hattempt, made_of_ok hattempt, hasked]

/-! ### Wikis without handlers -/

/-- Whether a wiki has no handlers, and tables that are kept or would be made from its
configuration alone. -/
structure Quiet (w : Wiki) (table : Namespace.Table) (specials : SpecialPage.Table)
    (st : Running σ) : Prop where
  unhandled : ∀ event, st.world.registry.handlers event = []
  namespaces : st.namespaces = some table ∨
    st.namespaces = none ∧ table = .ofNames w.namespaces.names
  specialPages : st.specialPages = some specials ∨
    st.specialPages = none ∧ specials = .ofNames w.specialPages.names w.specialPages.aliases

theorem Quiet.settled (w : Wiki) (hdepth : 0 < i.depth) :
    w.Settled (σ := σ) i (w.Quiet table specials) table specials id
      fun _ title => (true, title) where
  namespaces := by
    refine Matches.of_run fun st hst => ?_
    rcases hst.namespaces with hkept | ⟨hnone, rfl⟩
    · exact ⟨st, OnDemand.lookUp_of_kept (t := namespaceTable σ w.namespaces) hkept, hst⟩
    · have hrun := OnDemand.lookUp_of_unhandled (t := namespaceTable σ w.namespaces) hnone
        (hst.unhandled _) hdepth
      exact ⟨_, hrun, hst.unhandled, Or.inl rfl, hst.specialPages⟩
  specialPages := by
    refine Matches.of_run fun st hst => ?_
    rcases hst.specialPages with hkept | ⟨hnone, rfl⟩
    · exact ⟨st, OnDemand.lookUp_of_kept (t := specialPageTable σ w.specialPages) hkept, hst⟩
    · have hrun := OnDemand.lookUp_of_unhandled (t := specialPageTable σ w.specialPages) hnone
        (hst.unhandled _) hdepth
      exact ⟨_, hrun, hst.unhandled, hst.namespaces, Or.inl rfl⟩
  announced title := Matches.of_run fun st hst =>
    ⟨st, announce_of_unhandled (hst.unhandled _) hdepth title, hst⟩
  consulted request title := Matches.of_run fun st hst =>
    ⟨st, consult_of_unhandled (hst.unhandled _) hdepth request title, hst⟩
  report line st hst := ⟨rfl, hst.unhandled, hst.namespaces, hst.specialPages⟩

end Wiki

end WikiEntry
