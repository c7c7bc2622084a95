import WikiEntry.Proofs.SpecialPage.Corrected
import WikiEntry.Proofs.Title.Writing
import WikiEntry.Proofs.Wiki.Settled

/-!
# When a request is redirected

With fixed tables and fixed handlers the decision about a request is a plain function. Here are
the exact conditions under which it is a redirect, and under which it stays where it is.
-/

namespace WikiEntry

open Redirect

namespace Wiki

variable {w : Wiki} {table : Namespace.Table} {specials : SpecialPage.Table}
  {rewrite : Title → Title} {judge : Snapshot → Title → Bool × Title}

/-- How a wiki decides when tables and handlers are fixed. -/
def still (w : Wiki) (table : Namespace.Table) (specials : SpecialPage.Table)
    (rewrite : Title → Title) (judge : Snapshot → Title → Bool × Title) : Canonical Id :=
  w.canonical (Services.fixed table specials rewrite judge)

/-- How a wiki reads and writes titles when its table is fixed. -/
def reader (w : Wiki) (table : Namespace.Table) : Resolver Id :=
  ⟨w.titles, w.namespaces.capitalLinks, table⟩

theorem run_resolveSpecial (w : Wiki) (table : Namespace.Table) (specials : SpecialPage.Table)
    (rewrite : Title → Title) (judge : Snapshot → Title → Bool × Title) (title : Title) :
    ((w.still table specials rewrite judge).resolveSpecial title).run =
      specials.corrected title := by
  unfold Canonical.resolveSpecial SpecialPage.Table.corrected
  have hspecials : (w.still table specials rewrite judge).services.specialPages =
      (pure specials : Id _) := rfl
  rw [hspecials]
  cases title.isSpecial with
  | false => rfl
  | true =>
      simp only [Bool.not_true, Bool.false_eq_true, if_false, if_true, pure_bind]
      cases specials.resolve? title.key with
      | none => rfl
      | some found => rfl

/-- The request that is made up to try a redirect to `target` out. -/
def replay (w : Wiki) (table : Namespace.Table) (target : Title) (url : String) : Snapshot :=
  ⟨"GET", url, some ((w.reader table).prefixedKey target).run, "view", []⟩

/-- Whether a request that names `title` comes down to `target`, or is left alone. -/
def comesTo (specials : SpecialPage.Table) (judge : Snapshot → Title → Bool × Title)
    (request : Snapshot) (title target : Title) : Prop :=
  (judge request title).1 = true → specials.corrected (judge request title).2 = target

/-- A title that was read back is confirmed if handlers refuse the redirect or let it come down to
the target. -/
theorem run_confirm_ok {target found : Title} {url : String} :
    (confirm (w.still table specials rewrite judge) target url (.ok found)).run =
      .ok (!(judge (w.replay table target url) (found.pointingAs target)).1 ||
        decide (specials.corrected
          (judge (w.replay table target url) (found.pointingAs target)).2 = target)) := by
  have hrun : (confirm (w.still table specials rewrite judge) target url (.ok found)).run =
      (if (!(judge (w.replay table target url) (found.pointingAs target)).1) = true then
        (pure true : ExceptT WikiError Id Bool)
      else do
        let found ← (w.still table specials rewrite judge).resolveSpecial
          (judge (w.replay table target url) (found.pointingAs target)).2
        return decide (found = target)).run := rfl
  rw [hrun]
  cases (judge (w.replay table target url) (found.pointingAs target)).1 with
  | false => rfl
  | true =>
      rw [← run_resolveSpecial w table specials rewrite judge]
      generalize (w.still table specials rewrite judge).resolveSpecial _ = resolved
      rfl

theorem run_confirm_ok_iff {target found : Title} {url : String} :
    (confirm (w.still table specials rewrite judge) target url (.ok found)).run = .ok true ↔
      comesTo specials judge (w.replay table target url) (found.pointingAs target) target := by
  rw [run_confirm_ok, comesTo]
  change (Except.ok _ : Except WikiError Bool) = .ok true ↔ _
  cases (judge (w.replay table target url) (found.pointingAs target)).1 <;> simp

theorem run_confirm_error {target : Title} {url : String} (error : TitleError) :
    (confirm (w.still table specials rewrite judge) target url (.error error)).run = .ok false :=
  rfl

/-- Trying out a redirect whose URL is an article path: the title is read back out of it. -/
theorem run_returns_iff {target : Title} {url code text : String}
    (hpart : (w.still table specials rewrite judge).titlePart? url = some code)
    (hcode : Percent.decode? code = some text) :
    ((w.still table specials rewrite judge).returns target url).run = .ok true ↔
      ∃ found, ((w.reader table).parse text Namespace.main).run = .ok found ∧
        comesTo specials judge (w.replay table target url) (found.pointingAs target) target := by
  have hread : ((w.still table specials rewrite judge).resolver.parseUrl code) =
      (w.reader table).parse text Namespace.main := by
    unfold Resolver.parseUrl
    rw [hcode]
    rfl
  have hrun : ((w.still table specials rewrite judge).returns target url).run =
      (confirm (w.still table specials rewrite judge) target url
        ((w.reader table).parse text Namespace.main).run).run := by
    rw [returns_eq, hpart]
    dsimp only
    rw [hread]
    rfl
  rw [hrun]
  cases ((w.reader table).parse text Namespace.main).run with
  | error error =>
      rw [run_confirm_error]
      constructor
      · intro h
        cases h
      · rintro ⟨found, h, _⟩
        cases h
  | ok found =>
      rw [run_confirm_ok_iff]
      constructor
      · exact fun h => ⟨found, rfl, h⟩
      · rintro ⟨found', h, hcomes⟩
        cases h
        exact hcomes

/-! ### Decisions -/

/-- What is decided once handlers have agreed and the target is known. -/
def send {m : Type → Type} [Monad m] (c : Canonical m) (request : Snapshot) (target : Title) :
    ExceptT WikiError m Decision := do
  if request.title = some (← c.resolver.prefixedKey target) then
    return .stay target .alreadyCanonical
  let url ← c.resolver.fullUrl target ""
  if url = request.url then c.refuse url
  else if !(← c.returns target url) then c.refuse url
  else return .redirect target url

theorem decide_eq {m : Type → Type} [Monad m] (c : Canonical m) (request : Snapshot)
    (title : Title) :
    c.decide request title = (do
      let (agreed, request, title) ← c.consult request title
      if !agreed then return .stay title .vetoed
      if !request.isPlainView then return .stay title .notAView
      let target ← c.resolveSpecial title
      send c request target) := rfl

theorem run_send (request : Snapshot) (target : Title) :
    (send (w.still table specials rewrite judge) request target).run =
      (let url := ((w.reader table).fullUrl target "").run
      if request.title = some ((w.reader table).prefixedKey target).run then
        .ok (.stay target .alreadyCanonical)
      else if url = request.url then .error (.redirectLoop (.through url w.usePathInfo))
      else match ((w.still table specials rewrite judge).returns target url).run with
        | .ok true => .ok (.redirect target url)
        | .ok false => .error (.redirectLoop (.through url w.usePathInfo))
        | .error error => .error error) := by
  have hkey : (w.still table specials rewrite judge).resolver.prefixedKey target =
      (w.reader table).prefixedKey target := rfl
  have hurl : (w.still table specials rewrite judge).resolver.fullUrl target "" =
      (w.reader table).fullUrl target "" := rfl
  have hrefuse : ∀ url, ((w.still table specials rewrite judge).refuse url).run =
      .error (.redirectLoop (.through url w.usePathInfo)) := fun _ => rfl
  unfold send
  rw [hkey, hurl]
  generalize (w.reader table).prefixedKey target = key
  generalize (w.reader table).fullUrl target "" = url
  by_cases hnamed : request.title = some key.run
  · rw [if_pos hnamed]
    change (if request.title = some key.run then _ else _ : ExceptT WikiError Id Decision).run = _
    rw [if_pos hnamed]
    rfl
  · rw [if_neg hnamed]
    change (if request.title = some key.run then _
      else if url.run = request.url then _ else _ : ExceptT WikiError Id Decision).run = _
    rw [if_neg hnamed]
    by_cases hsame : url.run = request.url
    · rw [if_pos hsame, if_pos hsame]
      exact hrefuse url.run
    · rw [if_neg hsame, if_neg hsame]
      change ((w.still table specials rewrite judge).returns target url.run >>= _ :
        ExceptT WikiError Id Decision).run = _
      rw [ExceptT.run_bind]
      generalize ((w.still table specials rewrite judge).returns target url.run).run = back
      rcases back with error | back
      · rfl
      · cases back <;> rfl

/-- Deciding, without the monad. -/
theorem run_decide (request : Snapshot) (title : Title) :
    ((w.still table specials rewrite judge).decide request title).run =
      (if (judge request title).1 = false then .ok (.stay (judge request title).2 .vetoed)
      else if request.isPlainView = false then .ok (.stay (judge request title).2 .notAView)
      else (send (w.still table specials rewrite judge) request
        (specials.corrected (judge request title).2)).run) := by
  rw [decide_eq, ← run_resolveSpecial w table specials rewrite judge]
  change (if (!(judge request title).1) = true then _
    else if (!request.isPlainView) = true then _ else _ : ExceptT WikiError Id Decision).run = _
  cases (judge request title).1 with
  | false => rfl
  | true =>
      cases request.isPlainView with
      | false => rfl
      | true => rfl

/-- A target is sent exactly if the request does not name it, its URL is another one, and the
redirect has been tried out. -/
theorem run_send_eq_redirect_iff {request : Snapshot} {target target' : Title} {url : String} :
    (send (w.still table specials rewrite judge) request target).run =
        .ok (.redirect target' url) ↔
      target' = target ∧ request.title ≠ some ((w.reader table).prefixedKey target).run ∧
        url = ((w.reader table).fullUrl target "").run ∧ url ≠ request.url ∧
        ((w.still table specials rewrite judge).returns target url).run = .ok true := by
  rw [run_send]
  dsimp only
  constructor
  · intro h
    split at h
    · cases h
    · rename_i hnamed
      split at h
      · cases h
      · rename_i hmoved
        split at h
        · rename_i hback
          cases h
          exact ⟨rfl, hnamed, rfl, hmoved, hback⟩
        · cases h
        · cases h
  · rintro ⟨rfl, hnamed, rfl, hmoved, hback⟩
    rw [if_neg hnamed, if_neg hmoved, hback]

theorem run_decide_eq_redirect_iff {request : Snapshot} {title target : Title} {url : String} :
    ((w.still table specials rewrite judge).decide request title).run =
        .ok (.redirect target url) ↔
      (judge request title).1 = true ∧ request.isPlainView = true ∧
        (send (w.still table specials rewrite judge) request
          (specials.corrected (judge request title).2)).run = .ok (.redirect target url) := by
  rw [run_decide]
  cases (judge request title).1 with
  | false =>
      constructor
      · intro h
        cases h
      · exact fun h => absurd h.1 Bool.false_ne_true
  | true =>
      cases request.isPlainView with
      | false =>
          constructor
          · intro h
            cases h
          · exact fun h => absurd h.2.1 Bool.false_ne_true
      | true => exact ⟨fun h => ⟨rfl, rfl, h⟩, fun h => h.2.2⟩

/-- A request that names its target stays. -/
theorem run_decide_of_named {request : Snapshot} {title : Title}
    (h : (judge request title).1 = true → request.isPlainView = true → request.title =
      some ((w.reader table).prefixedKey (specials.corrected (judge request title).2)).run) :
    ∃ target reason,
      ((w.still table specials rewrite judge).decide request title).run =
        .ok (.stay target reason) ∧
      ((judge request title).1 = true → request.isPlainView = true →
        target = specials.corrected (judge request title).2) := by
  rw [run_decide]
  cases hagreed : (judge request title).1 with
  | false => exact ⟨_, _, rfl, fun h => absurd h Bool.false_ne_true⟩
  | true =>
      cases hview : request.isPlainView with
      | false => exact ⟨_, _, rfl, fun _ h => absurd h Bool.false_ne_true⟩
      | true =>
          rw [run_send]
          dsimp only
          rw [if_pos (h hagreed hview)]
          exact ⟨_, _, rfl, fun _ _ => rfl⟩

/-! ### Requests -/

/-- What decides about a redirect: the request, with the title that was read from the path. -/
def snapshot (request : Request) (fromPath : Option String) : Snapshot :=
  match fromPath with
  | some text => { Snapshot.ofRequest request with title := some text }
  | none => Snapshot.ofRequest request

theorem isPlainView_get (url : String) (title : Option String) :
    Snapshot.isPlainView ⟨"GET", url, title, "view", []⟩ = true := by
  unfold Snapshot.isPlainView Snapshot.wasPosted
  dsimp only
  decide

theorem run_performFor (request : Request) (fromPath : Option String) (title : Title) :
    (w.performFor (Services.fixed table specials rewrite judge) request fromPath title).run =
      if title.key.isEmpty && !title.isExternal then
        .ok (.badTitle (SpecialPage.title SpecialPage.badTitle none) .empty)
      else if title.isExternal then
        .ok (.interwiki title ((w.reader table).fullUrl title "").run)
      else match ((w.still table specials rewrite judge).decide (snapshot request fromPath)
          title).run with
        | .ok (.redirect target url) => .ok (.redirect target url)
        | .ok (.stay target _) => .ok (.view target)
        | .error error => .error error := by
  unfold performFor
  cases title.key.isEmpty && !title.isExternal with
  | true => rfl
  | false =>
      cases title.isExternal with
      | true => rfl
      | false =>
          have hdecide : (w.canonical (Services.fixed table specials rewrite judge)).decide
              (snapshot request fromPath) title =
                (w.still table specials rewrite judge).decide (snapshot request fromPath) title :=
            rfl
          change ((w.canonical (Services.fixed table specials rewrite judge)).decide
            (snapshot request fromPath) title >>= _ : ExceptT WikiError Id Outcome).run = _
          rw [hdecide, ExceptT.run_bind]
          generalize ((w.still table specials rewrite judge).decide
            (snapshot request fromPath) title).run = decided
          rcases decided with error | decision
          · rfl
          · cases decision <;> rfl

theorem run_perform (request : Request) :
    (w.perform (Services.fixed table specials rewrite judge) request).run =
      match (w.requestedTitle (Services.fixed table specials rewrite judge) request).run with
      | (.error error, _) =>
        .ok (.badTitle (rewrite (SpecialPage.title SpecialPage.badTitle none)) error)
      | (.ok title, fromPath) =>
        (w.performFor (Services.fixed table specials rewrite judge) request fromPath
          (rewrite title)).run := by
  unfold perform
  generalize w.requestedTitle (Services.fixed table specials rewrite judge) request = read
  obtain ⟨read, fromPath⟩ := read
  cases read <;> rfl

/-- A request is redirected exactly if it names a title and the decision about what handlers have
made of it is a redirect. -/
theorem run_perform_eq_redirect_iff {request : Request} {target : Title} {url : String} :
    (w.perform (Services.fixed table specials rewrite judge) request).run =
        .ok (.redirect target url) ↔
      ∃ title fromPath,
        (w.requestedTitle (Services.fixed table specials rewrite judge) request).run =
          (.ok title, fromPath) ∧
        (rewrite title).key.isEmpty = false ∧ (rewrite title).isExternal = false ∧
        ((w.still table specials rewrite judge).decide (snapshot request fromPath)
          (rewrite title)).run = .ok (.redirect target url) := by
  rw [run_perform]
  rcases (w.requestedTitle (Services.fixed table specials rewrite judge) request).run with
    ⟨error | title, fromPath⟩
  · constructor
    · intro h
      cases h
    · rintro ⟨title, fromPath', h, _⟩
      cases h
  · dsimp only
    rw [run_performFor]
    constructor
    · intro h
      refine ⟨title, fromPath, rfl, ?_⟩
      split at h
      · cases h
      · rename_i hfull
        split at h
        · cases h
        · rename_i hlocal
          refine ⟨?_, ?_, ?_⟩
          · simpa [hlocal] using hfull
          · simpa using hlocal
          · split at h
            · rename_i hdecide
              cases h
              exact hdecide
            · cases h
            · cases h
    · rintro ⟨title', fromPath', h, hfull, hlocal, hdecide⟩
      cases h
      rw [hfull, hlocal, hdecide]
      rfl

end Wiki

end WikiEntry
