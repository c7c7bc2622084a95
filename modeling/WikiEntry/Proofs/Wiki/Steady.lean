import WikiEntry.Proofs.Title.Reading
import WikiEntry.Wiki.Running

/-!
# Wikis that answer the same every time

What a running wiki does depends on its state: tables may be made anew, and handlers may remember.
As long as the state has a property under which every question to the surroundings has one fixed
answer, and which every question keeps, the wiki does what it would do if the answers were plain
values. So whatever is shown about fixed services holds of the running wiki.
-/

namespace WikiEntry.Wiki

open Hook (Invoker)
open Text

variable {σ α β ε : Type} {P : Running σ → Prop}

/-- In every state with property `P` the program answers as the plain one, and keeps `P`. -/
def Matches (P : Running σ → Prop) (x : Live σ α) (y : Id α) : Prop :=
  ∀ st, P st → (x st).1 = y.run ∧ P (x st).2

/-- The same for programs that may fail. -/
def MatchesE (P : Running σ → Prop) (x : ExceptT ε (Live σ) α) (y : ExceptT ε Id α) : Prop :=
  Matches P x.run y.run

/-! ### Putting programs together -/

theorem bind_apply (x : Live σ α) (f : α → Live σ β) (st : Running σ) :
    (x >>= f) st = f (x st).1 (x st).2 := rfl

theorem liftM_apply (x : Live σ α) (st : Running σ) :
    (liftM x : ExceptT ε (Live σ) α).run st = (.ok (x st).1, (x st).2) := rfl

theorem Matches.pure (a : α) : Matches P (Pure.pure a) (Pure.pure a) := fun _ hst => ⟨rfl, hst⟩

/-- A program matches a value if it answers with it and ends where `P` holds. -/
theorem Matches.of_run {x : Live σ α} {a : α}
    (h : ∀ st, P st → ∃ st', x st = (a, st') ∧ P st') : Matches P x (Pure.pure a) := by
  intro st hst
  obtain ⟨st', hrun, hkept⟩ := h st hst
  rw [hrun]
  exact ⟨rfl, hkept⟩

theorem Matches.bind {x : Live σ α} {y : Id α} {f : α → Live σ β} {g : α → Id β}
    (hx : Matches P x y) (hf : ∀ a, Matches P (f a) (g a)) : Matches P (x >>= f) (y >>= g) := by
  intro st hst
  obtain ⟨hanswer, hkept⟩ := hx st hst
  obtain ⟨hanswer', hkept'⟩ := hf (x st).1 (x st).2 hkept
  refine ⟨?_, hkept'⟩
  rw [hanswer] at hanswer'
  exact hanswer' ▸ congrArg (fun a => (f a (x st).2).1) hanswer

theorem MatchesE.pure (a : α) :
    MatchesE P (Pure.pure a : ExceptT ε (Live σ) α) (Pure.pure a) :=
  Matches.pure (Except.ok a)

theorem MatchesE.throw (e : ε) :
    MatchesE P (throw e : ExceptT ε (Live σ) α) (throw e) :=
  Matches.pure (Except.error e)

theorem MatchesE.bind {x : ExceptT ε (Live σ) α} {y : ExceptT ε Id α}
    {f : α → ExceptT ε (Live σ) β} {g : α → ExceptT ε Id β}
    (hx : MatchesE P x y) (hf : ∀ a, MatchesE P (f a) (g a)) :
    MatchesE P (x >>= f) (y >>= g) := by
  change Matches P (x.run >>= ExceptT.bindCont f) (y.run >>= ExceptT.bindCont g)
  refine Matches.bind hx fun result => ?_
  cases result with
  | error e => exact Matches.pure (Except.error e)
  | ok a => exact hf a

theorem MatchesE.lift {x : Live σ α} {y : Id α} (hx : Matches P x y) :
    MatchesE P (liftM x : ExceptT ε (Live σ) α) (liftM y) :=
  Matches.bind hx fun a => Matches.pure (Except.ok a)

theorem Matches.ite {c : Prop} [Decidable c] {x x' : Live σ α} {y y' : Id α} (hx : Matches P x y)
    (hx' : Matches P x' y') : Matches P (if c then x else x') (if c then y else y') := by
  split
  · exact hx
  · exact hx'

theorem MatchesE.ite {c : Prop} [Decidable c] {x x' : ExceptT ε (Live σ) α}
    {y y' : ExceptT ε Id α} (hx : MatchesE P x y) (hx' : MatchesE P x' y') :
    MatchesE P (if c then x else x') (if c then y else y') := by
  split
  · exact hx
  · exact hx'

/-! ### Titles -/

section Titles

variable {settings : Title.Settings} {capitalLinks : Bool} {x : Live σ Namespace.Table}
  {y : Id Namespace.Table}

theorem matches_place (h : Matches P x y) (ns : Int) (key : List Char) :
    MatchesE P ((Resolver.mk settings capitalLinks x).place ns key)
      ((Resolver.mk settings capitalLinks y).place ns key) := by
  induction hlength : key.length using Nat.strongRecOn generalizing key with
  | ind length ih =>
      subst hlength
      rw [Resolver.place_eq, Resolver.place_eq]
      cases hcut : Title.Key.cutPrefix? key with
      | none => exact MatchesE.pure _
      | some cut =>
          obtain ⟨name, rest⟩ := cut
          refine MatchesE.bind (MatchesE.lift h) fun table => ?_
          cases table.find? (String.ofList name) with
          | some found =>
              exact MatchesE.ite (MatchesE.throw _) (MatchesE.pure _)
          | none =>
              exact MatchesE.ite
                (ih rest.length (Title.Key.length_lt_of_cutPrefix? hcut) rest rfl)
                (MatchesE.ite (MatchesE.pure _) (MatchesE.pure _))

theorem matches_parse (h : Matches P x y) (text : String) (ns : Int) :
    MatchesE P ((Resolver.mk settings capitalLinks x).parse text ns)
      ((Resolver.mk settings capitalLinks y).parse text ns) := by
  unfold Resolver.parse
  split
  · exact MatchesE.throw _
  · exact MatchesE.bind (matches_place h _ _) fun spot => Matches.pure _

theorem matches_prefixed (h : Matches P x y) (t : Title) (name : String) :
    Matches P ((Resolver.mk settings capitalLinks x).prefixed t name)
      ((Resolver.mk settings capitalLinks y).prefixed t name) := by
  unfold Resolver.prefixed
  dsimp only
  split
  · exact Matches.pure _
  · refine Matches.bind ?_ fun text => Matches.pure _
    exact Matches.bind h fun table => Matches.pure _

theorem matches_prefixedKey (h : Matches P x y) (t : Title) :
    Matches P ((Resolver.mk settings capitalLinks x).prefixedKey t)
      ((Resolver.mk settings capitalLinks y).prefixedKey t) :=
  Matches.bind (matches_prefixed h t t.key) fun _ => Matches.pure _

theorem matches_remoteUrl? (h : Matches P x y) (t : Title) (query : String) :
    Matches P ((Resolver.mk settings capitalLinks x).remoteUrl? t query)
      ((Resolver.mk settings capitalLinks y).remoteUrl? t query) := by
  unfold Resolver.remoteUrl?
  refine Matches.ite (Matches.pure _) ?_
  dsimp only
  cases settings.interwikis[t.interwiki]? with
  | none => exact Matches.pure _
  | some template =>
      refine Matches.ite (Matches.bind (Matches.pure _) fun start => ?_)
        (Matches.bind ?_ fun start => ?_)
      · exact Matches.ite (Matches.pure _) (Matches.pure _)
      · rw [map_eq_pure_bind, map_eq_pure_bind]
        exact Matches.bind (Matches.bind h fun table => Matches.pure _) fun name => Matches.pure _
      · exact Matches.ite (Matches.pure _) (Matches.pure _)

theorem matches_localUrl (h : Matches P x y) (t : Title) (query : String) :
    Matches P ((Resolver.mk settings capitalLinks x).localUrl t query)
      ((Resolver.mk settings capitalLinks y).localUrl t query) := by
  refine Matches.bind (matches_remoteUrl? h t query) fun remote => ?_
  cases remote with
  | some url => exact Matches.pure url
  | none =>
      refine Matches.bind (Matches.bind (matches_prefixedKey h t) fun key => Matches.pure _)
        fun key => ?_
      exact Matches.ite (Matches.pure _) (Matches.pure _)

theorem matches_fullUrl (h : Matches P x y) (t : Title) (query : String) :
    Matches P ((Resolver.mk settings capitalLinks x).fullUrl t query)
      ((Resolver.mk settings capitalLinks y).fullUrl t query) := by
  refine Matches.bind (matches_remoteUrl? h t query) fun remote => ?_
  cases remote with
  | some url => exact Matches.ite (Matches.pure _) (Matches.pure _)
  | none =>
      rw [map_eq_pure_bind, map_eq_pure_bind]
      refine Matches.bind (Matches.bind (matches_localUrl h t query) fun url => Matches.pure _)
        fun url => ?_
      exact Matches.ite (Matches.pure _) (Matches.pure _)

end Titles

/-! ### Services -/

/-- Whether the services of a running wiki answer the questions that deciding asks as plain
services do. -/
structure Follows (P : Running σ → Prop) (live : Services (Live σ)) (still : Services Id) :
    Prop where
  namespaces : Matches P live.namespaces still.namespaces
  specialPages : Matches P live.specialPages still.specialPages
  announced : ∀ title, MatchesE P (announce live title) (announce still title)
  consulted : ∀ (w : Wiki) request title,
    MatchesE P ((w.canonical live).consult request title)
      ((w.canonical still).consult request title)
  report : ∀ line, Matches P (live.report line) (still.report line)

variable {live : Services (Live σ)} {still : Services Id}

theorem Follows.resolveSpecial (h : Follows P live still) (w : Wiki) (title : Title) :
    Matches P ((w.canonical live).resolveSpecial title)
      ((w.canonical still).resolveSpecial title) := by
  refine Matches.ite (Matches.pure _) ?_
  refine Matches.bind h.specialPages fun table => ?_
  cases table.resolve? title.key with
  | none => exact Matches.pure _
  | some found =>
      obtain ⟨name, sub⟩ := found
      exact Matches.pure _

/-- What is left of a replay once the title has been read back. -/
def confirm {m : Type → Type} [Monad m] (c : Redirect.Canonical m) (target : Title) (url : String) :
    Except TitleError Title → ExceptT WikiError m Bool
  | .error error => do
    c.services.report (.unreadableTarget url error)
    return false
  | .ok found => do
    let found := if target.hasFragment then found.withFragment target.fragment else found
    let named ← c.resolver.prefixedKey target
    let (agreed, _, found) ← c.consult
      { method := "GET", url := url, title := some named, action := "view", extraParams := [] }
      found
    if !agreed then return true
    return (← c.resolveSpecial found) = target

theorem returns_eq {m : Type → Type} [Monad m] (c : Redirect.Canonical m) (target : Title)
    (url : String) :
    c.returns target url =
      (match c.titlePart? url with
      | some code => do confirm c target url (← (c.resolver.parseUrl code).run)
      | none => do confirm c target url (← pure (.ok target))) := by
  unfold Redirect.Canonical.returns
  cases c.titlePart? url with
  | some code =>
      dsimp only
      congr 1
  | none => rfl

theorem Follows.confirm (h : Follows P live still) (w : Wiki) (target : Title) (url : String)
    (read : Except TitleError Title) :
    MatchesE P (Wiki.confirm (w.canonical live) target url read)
      (Wiki.confirm (w.canonical still) target url read) := by
  cases read with
  | error error =>
      exact MatchesE.bind (MatchesE.lift (h.report _)) fun _ => MatchesE.pure _
  | ok found =>
      refine MatchesE.bind (MatchesE.lift (matches_prefixedKey h.namespaces target)) fun named => ?_
      refine MatchesE.bind (h.consulted w _ _) fun result => ?_
      obtain ⟨agreed, request, found⟩ := result
      refine MatchesE.ite (MatchesE.pure _) ?_
      exact MatchesE.bind (MatchesE.lift (h.resolveSpecial w found)) fun _ => MatchesE.pure _

theorem Follows.returns (h : Follows P live still) (w : Wiki) (target : Title) (url : String) :
    MatchesE P ((w.canonical live).returns target url)
      ((w.canonical still).returns target url) := by
  rw [returns_eq, returns_eq]
  have hpart : (w.canonical live).titlePart? url = (w.canonical still).titlePart? url := rfl
  rw [hpart]
  cases (w.canonical still).titlePart? url with
  | none => exact MatchesE.bind (MatchesE.pure _) fun read => h.confirm w target url read
  | some code =>
      refine MatchesE.bind (MatchesE.lift ?_) fun read => h.confirm w target url read
      unfold Resolver.parseUrl
      cases Percent.decode? code with
      | some text => exact matches_parse h.namespaces text Namespace.main
      | none => exact MatchesE.throw _

theorem Follows.decide (h : Follows P live still) (w : Wiki) (request : Redirect.Snapshot)
    (title : Title) :
    MatchesE P ((w.canonical live).decide request title)
      ((w.canonical still).decide request title) := by
  have hrefuse : ∀ url, MatchesE P ((w.canonical live).refuse url)
      ((w.canonical still).refuse url) := fun url =>
    MatchesE.bind (MatchesE.lift (h.report _)) fun _ => MatchesE.throw _
  refine MatchesE.bind (h.consulted w request title) fun result => ?_
  obtain ⟨agreed, request, title⟩ := result
  refine MatchesE.ite (MatchesE.pure _) (MatchesE.ite (MatchesE.pure _) ?_)
  refine MatchesE.bind (MatchesE.lift (h.resolveSpecial w title)) fun target => ?_
  refine MatchesE.bind (MatchesE.lift (matches_prefixedKey h.namespaces target)) fun named => ?_
  refine MatchesE.ite (MatchesE.pure _) ?_
  refine MatchesE.bind (MatchesE.lift (matches_fullUrl h.namespaces target "")) fun url => ?_
  refine MatchesE.ite (hrefuse url) ?_
  refine MatchesE.bind (h.returns w target url) fun back => ?_
  exact MatchesE.ite (hrefuse url) (MatchesE.pure _)

/-! ### Requests -/

theorem Follows.requestedTitle (h : Follows P live still) (w : Wiki) (request : Request) :
    Matches P (w.requestedTitle live request) (w.requestedTitle still request) := by
  refine Matches.ite ?_ ?_
  · exact Matches.bind (matches_parse h.namespaces _ _) fun read => Matches.pure _
  · cases w.pathPart? request with
    | some code =>
        dsimp only
        cases Percent.decode? code with
        | some text =>
            exact Matches.bind (matches_parse h.namespaces text _) fun read => Matches.pure _
        | none => exact Matches.pure _
    | none =>
        refine Matches.ite (Matches.pure _) ?_
        exact Matches.bind (matches_parse h.namespaces _ _) fun read => Matches.pure _

theorem Follows.titleFor (h : Follows P live still) (w : Wiki) (request : Request) :
    MatchesE P (w.titleFor live request) (w.titleFor still request) :=
  Matches.bind (h.requestedTitle w request) fun _ => Matches.pure _

theorem Follows.performFor (h : Follows P live still) (w : Wiki) (request : Request)
    (fromPath : Option String) (title : Title) :
    MatchesE P (w.performFor live request fromPath title)
      (w.performFor still request fromPath title) := by
  refine MatchesE.ite (MatchesE.pure _) (MatchesE.ite ?_ ?_)
  · exact MatchesE.bind (MatchesE.lift (matches_fullUrl h.namespaces title "")) fun url =>
      MatchesE.pure _
  · refine MatchesE.bind (h.decide w _ title) fun decision => ?_
    cases decision <;> exact MatchesE.pure _

/-- A wiki that follows fixed services performs every request as with these. -/
theorem Follows.perform (h : Follows P live still) (w : Wiki) (request : Request) :
    MatchesE P (w.perform live request) (w.perform still request) := by
  refine MatchesE.bind (MatchesE.lift (h.requestedTitle w request)) fun result => ?_
  obtain ⟨read, fromPath⟩ := result
  cases read with
  | error error => exact MatchesE.bind (h.announced _) fun title => MatchesE.pure _
  | ok title =>
      exact MatchesE.bind (h.announced title) fun title => h.performFor w request fromPath title

end WikiEntry.Wiki
