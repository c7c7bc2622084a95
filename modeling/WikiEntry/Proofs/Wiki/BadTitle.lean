import WikiEntry.Proofs.Hook.History
import WikiEntry.Proofs.Wiki.Usual

/-!
# Requests that name no title

There are two ways for a request to end as a bad title. Either what it names cannot be read, and
the handlers that learn of titles are told of the page for bad titles in its place; or it can be
read, and handlers have emptied it. On the second way the page is named after all handlers have
had their turns. On the first it is named before, and what the handlers make of it is what the
client is shown: the page is another one only if a handler has put it there.
-/

namespace WikiEntry

open Hook (Arguments Code DispatchError Invoker Play Scene Turn)

/-- The first argument can be had in the kind it is of. -/
theorem Hook.Arguments.exists_get_zero {args : Arguments} {k : Hook.Kind} {kinds : List Hook.Kind}
    (h : args.map (·.kind) = k :: kinds) : ∃ v, args.get k 0 = .ok v := by
  obtain ⟨⟨kind, v⟩, rest, rfl, rfl, -⟩ := List.map_eq_cons_iff.mp h
  exact ⟨v, by simp [Hook.Slots.get]⟩

namespace Wiki

variable {σ α β ε : Type} {w : Wiki} {i : Invoker} {st : Running σ} {request : Request}
  {t : Title} {e : TitleError}

/-- Two programs one after the other answer if both do. -/
theorem bind_answers_iff {x : ExceptT ε (Live σ) α} {f : α → ExceptT ε (Live σ) β} {b : β} :
    ((x >>= f).run st).1 = .ok b ↔
      ∃ a, (x.run st).1 = .ok a ∧ ((f a).run (x.run st).2).1 = .ok b := by
  rw [ExceptT.run_bind, bind_apply]
  cases (x.run st).1 with
  | error error =>
      constructor
      · intro h
        cases h
      · rintro ⟨a, h, -⟩
        cases h
  | ok a => simp

/-! ### Telling handlers of a title -/

/-- The scene in which handlers learn of the title of a request. -/
def told (st : Running σ) (title : Title) : Scene (Code σ) σ :=
  ⟨st.world, [⟨.title, title⟩, ⟨.flag, false⟩]⟩

/-- The handlers that learn of `title` have the given turns, which leave the title `left` where it
was and do not fail the event. -/
def Announced (i : Invoker) (st : Running σ) (title left : Title)
    (turns : List (Turn (Code σ) σ)) : Prop :=
  ∃ agreed after,
    i.dispatch .stoppable Event.beforeInitialize.name (told st title) = (.ok agreed, after) ∧
    Play (Code.performWithin (i.depth - 1) i.channel) Event.beforeInitialize.name
      (.stopping Event.beforeInitialize.name) 0
      (st.world.registry.handlers Event.beforeInitialize.name) (told st title) turns (.ok agreed)
      after ∧
    after.args.get .title 0 = .ok left

/-- Handlers leave another title only if one of them has put it there. -/
theorem Announced.eq_or_rewrites {title left : Title} {turns : List (Turn (Code σ) σ)}
    (h : Announced i st title left turns) :
    left = title ∨ ∃ turn ∈ turns, turn.Rewrites .title 0 := by
  obtain ⟨agreed, after, -, hturns, hleft⟩ := h
  by_cases hkeeps : ∀ turn ∈ turns, ¬turn.Rewrites .title 0
  · have hsame : after.args.get .title 0 = .ok title := hturns.inTurn.get_eq hkeeps
    rw [hleft] at hsame
    exact .inl (Except.ok.inj hsame)
  · exact .inr (by simpa using hkeeps)

/-- An event that ends without a failure was played in turns. -/
theorem exists_play_of_dispatch {event : String} {s after : Scene (Code σ) σ} {agreed : Bool}
    (h : i.dispatch .stoppable event s = (.ok agreed, after)) :
    ∃ turns, Play (Code.performWithin (i.depth - 1) i.channel) event (.stopping event) 0
      (s.world.registry.handlers event) s turns (.ok agreed) after := by
  rcases Nat.eq_zero_or_pos i.depth with hzero | hdepth
  · rw [Hook.Invoker.dispatch, hzero] at h
    cases h
  · rw [Hook.Invoker.dispatch_eq_runFrom hdepth] at h
    have hplay := Hook.runFrom_play (Code.performWithin (i.depth - 1) i.channel) event
      (s.world.registry.handlers event) 0 s
    rw [h] at hplay
    exact hplay

theorem Live.run_of_dispatch {event : String} {args : Arguments} {after : Scene (Code σ) σ}
    {answer : Except DispatchError Bool}
    (h : i.dispatch .stoppable event ⟨st.world, args⟩ = (answer, after)) :
    Live.run i event args st = ((answer, after.args), { st with world := after.world }) := by
  rw [Live.run, h]

theorem announce_answers_iff {title left : Title} :
    ((announce (w.services i) title).run st).1 = .ok left ↔
      ∃ turns, Announced i st title left turns := by
  obtain ⟨⟨answer, after⟩, hdispatch⟩ : ∃ ended,
      i.dispatch .stoppable Event.beforeInitialize.name (told st title) = ended := ⟨_, rfl⟩
  have hrun : (w.services i).run Event.beforeInitialize.name [⟨.title, title⟩, ⟨.flag, false⟩] st =
      ((answer, after.args), { st with world := after.world }) := Live.run_of_dispatch hdispatch
  unfold Announced announce
  rw [ExceptT.run_bind, bind_apply, liftM_apply, hrun, hdispatch]
  cases answer with
  | error error =>
      constructor
      · intro h
        cases h
      · rintro ⟨turns, agreed, after', h, -⟩
        cases h
  | ok agreed =>
      have hkinds := i.map_kind_dispatch .stoppable Event.beforeInitialize.name (told st title)
      rw [hdispatch] at hkinds
      obtain ⟨v, hv⟩ := Arguments.exists_get_zero hkinds
      have hvalue : after.args.getD .title 0 title = v := by rw [Arguments.getD, hv]
      change (Except.ok (after.args.getD .title 0 title) : Except WikiError Title) = .ok left ↔ _
      rw [hvalue, Except.ok.injEq]
      constructor
      · rintro rfl
        obtain ⟨turns, hturns⟩ := exists_play_of_dispatch hdispatch
        exact ⟨turns, agreed, after, rfl, hturns, hv⟩
      · rintro ⟨turns, agreed', after', h, -, hleft⟩
        cases h
        rw [hv] at hleft
        exact Except.ok.inj hleft

/-! ### The outcome -/

/-- A title is refused after it was read only if it is empty, and then as `Special:Badtitle`. -/
theorem performFor_badTitle_iff {s : Services (Live σ)} {fromPath : Option String}
    {title : Title} :
    ((w.performFor s request fromPath title).run st).1 = .ok (.badTitle t e) ↔
      t = SpecialPage.title SpecialPage.badTitle none ∧ e = .empty ∧
        title.key = "" ∧ title.interwiki = "" := by
  have hempty : (title.key.isEmpty && !title.isExternal) = true ↔
      title.key = "" ∧ title.interwiki = "" := by simp [Title.isExternal]
  unfold performFor
  split
  · rename_i hbad
    change (Except.ok _ : Except WikiError Outcome) = _ ↔ _
    rw [Except.ok.injEq, Outcome.badTitle.injEq, and_iff_left (hempty.mp hbad)]
    exact and_congr eq_comm eq_comm
  · rename_i hfull
    constructor
    · intro h
      split at h
      · obtain ⟨url, -, h⟩ := bind_answers_iff.mp h
        cases h
      · obtain ⟨decision, -, h⟩ := bind_answers_iff.mp h
        cases decision <;> cases h
    · rintro ⟨-, -, hempty'⟩
      exact absurd (hempty.mpr hempty') hfull

/-- When a request ends as a bad title, and which page is shown for it. -/
theorem perform_badTitle_iff (w : Wiki) (i : Invoker) (request : Request) (st : Running σ)
    (t : Title) (e : TitleError) :
    let bad := Title.make Namespace.special "Badtitle" "" ""
    let read := w.requestedTitle (w.services i) request st
    ((w.perform (w.services i) request).run st).1 = .ok (.badTitle t e) ↔
      (read.1.1 = .error e ∧ ∃ turns, Announced i read.2 bad t turns ∧
        (t = bad ∨ ∃ turn ∈ turns, turn.Rewrites .title 0)) ∨
      (t = bad ∧ e = .empty ∧ ∃ title left turns, read.1.1 = .ok title ∧
        Announced i read.2 title left turns ∧ left.key = "" ∧ left.interwiki = "") := by
  intro bad read
  have hread : (liftM (w.requestedTitle (w.services i) request) :
      ExceptT WikiError (Live σ) _).run st = (.ok read.1, read.2) := liftM_apply _ _
  unfold perform
  rw [bind_answers_iff, hread]
  obtain ⟨⟨result, fromPath⟩, st'⟩ := read
  simp only [Except.ok.injEq, exists_eq_left']
  cases result with
  | error error =>
      rw [bind_answers_iff]
      constructor
      · rintro ⟨title, htitle, h⟩
        cases h
        obtain ⟨turns, hturns⟩ := announce_answers_iff.mp htitle
        exact .inl ⟨rfl, turns, hturns, hturns.eq_or_rewrites⟩
      · rintro (⟨herror, turns, hturns, -⟩ | ⟨-, -, title, left, turns, hok, -⟩)
        · cases herror
          exact ⟨t, announce_answers_iff.mpr ⟨turns, hturns⟩, rfl⟩
        · cases hok
  | ok title =>
      rw [bind_answers_iff]
      constructor
      · rintro ⟨left, hleft, h⟩
        obtain ⟨hbad, hcause, hkey, hlocal⟩ := performFor_badTitle_iff.mp h
        obtain ⟨turns, hturns⟩ := announce_answers_iff.mp hleft
        exact .inr ⟨hbad, hcause, title, left, turns, rfl, hturns, hkey, hlocal⟩
      · rintro (⟨herror, -⟩ | ⟨hbad, hcause, title', left, turns, hok, hturns, hkey, hlocal⟩)
        · cases herror
        · cases hok
          exact ⟨left, announce_answers_iff.mpr ⟨turns, hturns⟩,
            performFor_badTitle_iff.mpr ⟨hbad, hcause, hkey, hlocal⟩⟩

/-! ### Another page in place of the one for bad titles -/

/-- A usual wiki in which a handler puts the page `Home` in place of every title. -/
def homing : Running Unit :=
  usualRunning (.rewriting Event.beforeInitialize.name .title 0 fun _ =>
    Title.make Namespace.main "Home" "" "")

/-- A request that names no title is answered with a bad title that is an ordinary page. -/
theorem perform_badTitle_home :
    let home := Title.make Namespace.main "Home" "" ""
    ((usual.perform (usual.services {}) (Request.get "http://localhost/wiki/%5B")).run homing).1 =
        .ok (.badTitle home (.invalidCharacters "[")) ∧
      home ≠ Title.make Namespace.special "Badtitle" "" "" := by
  intro home
  refine ⟨?_, by decide⟩
  have hparse : ((usual.reader (.plain true)).parse "[" Namespace.main).run =
      .error (.invalidCharacters "[") := by
    have hclean : Title.Key.Clean "[".toList :=
      ⟨Title.Key.spaced_of_normalize_eq (by decide), by decide, by decide⟩
    have hfault : Title.Key.fault? Namespace.main "[".toList = some (.invalidCharacters "[") := by
      decide
    rw [Resolver.run_parse_of_colonless hclean (by decide), Resolver.settle_eq, hfault]
  have hread : (usual.requestedTitle (Services.fixed (.plain true) usualPages (fun _ => home)
      fun _ title => (true, title)) (Request.get "http://localhost/wiki/%5B")).run =
        (.error (.invalidCharacters "["), some "[") := by
    have hvalue : Percent.decode? (String.ofList "%5B".toList) = some "[" :=
      Percent.decode?_encode_self "[" true
    rw [usual_sited.requestedTitle_of_path (by decide) (by decide) (by decide) (by decide) hvalue,
      hparse]
  have hsettled : usual.Settled {} (Holds homing.world.registry (.plain true) usualPages)
      (.plain true) usualPages (fun _ => home) fun _ title => (true, title) :=
    settled_of_rewriting usual (by decide) _ _ _
  have hrun := (hsettled.follows.perform usual (Request.get "http://localhost/wiki/%5B") homing
    (holds_usualRunning _)).1
  rw [hrun, run_perform, hread]
  rfl

end Wiki

end WikiEntry
