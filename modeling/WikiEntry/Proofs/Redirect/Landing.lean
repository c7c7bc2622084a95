import WikiEntry.Proofs.Title.Shape
import WikiEntry.Proofs.Wiki.Usual

/-!
# Redirects land

Before a wiki sends a request away it tries the redirect out: it reads the title back from the
URL and asks the handlers once more. For a wiki whose article path has no question mark and no
number sign this is the request that the client will make, so the client who follows the redirect
is shown a page, or sent to another wiki, but not sent elsewhere again.
-/

namespace WikiEntry

open Redirect Text

namespace Wiki

variable {w : Wiki} {a : ArticlePath} {table : Namespace.Table} {specials : SpecialPage.Table}
  {rewrite : Title → Title} {judge : Snapshot → Title → Bool × Title} {t found : Title}

/-- The request that follows a redirect was tried out: it is answered by a page, or leads to
another wiki. -/
theorem Sited.run_perform_page (h : w.Sited a)
    (judge : Snapshot → Title → Bool × Title) (hquery : '?' ∉ a.start)
    (hne : ((w.reader table).prefixedKey t).run.toList ≠ []) {page : String}
    (hpage : page.toList = w.titles.server.toList ++ (a.start ++ w.code table t))
    (hread : ((w.reader table).parse ((w.reader table).prefixedKey t).run Namespace.main).run =
      .ok found)
    (hback : (judge (w.replay table t page) found).1 = true →
      ((w.reader table).prefixedKey
        (specials.corrected (judge (w.replay table t page) found).2)).run =
        ((w.reader table).prefixedKey t).run) :
    (found.isExternal = true ∧
      (w.perform (Services.fixed table specials id judge) (Request.get page)).run =
        .ok (.interwiki found ((w.reader table).fullUrl found "").run)) ∨
      ∃ target,
        (w.perform (Services.fixed table specials id judge) (Request.get page)).run =
          .ok (.view target) ∧
        ((judge (w.replay table t page) found).1 = true →
          target = specials.corrected (judge (w.replay table t page) found).2) := by
  have hsnapshot : snapshot (Request.get page) (some ((w.reader table).prefixedKey t).run) =
      w.replay table t page :=
    h.snapshot_of_path hquery (not_mem_code (by decide) t) hpage
  rw [run_perform, h.requestedTitle_page hquery hne hpage, hread]
  dsimp only [id]
  rw [run_performFor, hsnapshot]
  cases hexternal : found.isExternal with
  | true =>
      left
      simp
  | false =>
      right
      rw [Resolver.key_isEmpty_of_parse hread hexternal]
      obtain ⟨target, reason, hdecide, htarget⟩ :
          ∃ target reason, ((w.still table specials id judge).decide (w.replay table t page)
            found).run = .ok (.stay target reason) ∧ _ :=
        run_decide_of_named fun hagreed _ => congrArg some (hback hagreed).symm
      refine ⟨target, ?_, fun hagreed => htarget hagreed (isPlainView_get page _)⟩
      simp only [Bool.false_and, Bool.false_eq_true, if_false, hdecide]

/-- What a redirect says about its target. -/
theorem exists_of_redirect {request : Request} {url : String}
    (h : (w.perform (Services.fixed table specials rewrite judge) request).run =
      .ok (.redirect t url)) :
    ∃ snapshot title, title.isExternal = false ∧ title.key.isEmpty = false ∧
      (judge snapshot title).1 = true ∧ t = specials.corrected (judge snapshot title).2 ∧
      url = ((w.reader table).fullUrl t "").run ∧
      ((w.still table specials rewrite judge).returns t url).run = .ok true := by
  obtain ⟨title, fromPath, _, hkey, hlocal, hdecide⟩ := run_perform_eq_redirect_iff.1 h
  obtain ⟨hagreed, _, hsend⟩ := run_decide_eq_redirect_iff.1 hdecide
  obtain ⟨rfl, _, hurl, _, hback⟩ := run_send_eq_redirect_iff.1 hsend
  exact ⟨_, _, hlocal, hkey, hagreed, rfl, hurl, hback⟩

theorem Sited.lands (h : w.Sited a) (hquery : '?' ∉ a.start) (hhash : '#' ∉ a.start)
    {request : Request} {url : String}
    (hredirect : (w.perform (Services.fixed table specials id judge) request).run =
      .ok (.redirect t url))
    (hlocal : t.isExternal = false) (hkey : t.key.isEmpty = false)
    (hwhole : t.hasFragment = false) :
    (∃ target, (w.perform (Services.fixed table specials id judge) (Request.get url)).run =
        .ok (.view target)) ∨
      ∃ target away, (w.perform (Services.fixed table specials id judge) (Request.get url)).run =
        .ok (.interwiki target away) := by
  obtain ⟨_, _, _, _, _, _, hurl, hback⟩ := exists_of_redirect hredirect
  have hne : ((w.reader table).prefixedKey t).run.toList ≠ [] := prefixedKey_ne_nil (Or.inl hkey)
  obtain ⟨found, hread, hcomes⟩ := (h.returns_fullUrl_iff hhash hlocal hne hurl).1 hback
  have hpage : url.toList = w.titles.server.toList ++ (a.start ++ w.code table t) := by
    have htail : (w.reader table).tail t = [] := by
      rw [Resolver.tail, hwhole, if_neg Bool.false_ne_true]
    rw [hurl, h.toList_fullUrl hlocal, htail, List.append_nil]
  rw [Title.pointingAs_of_not_hasFragment hwhole] at hcomes
  rcases h.run_perform_page judge hquery hne hpage hread fun hagreed => by rw [hcomes hagreed] with
    ⟨_, haway⟩ | ⟨target, hview, _⟩
  · exact Or.inr ⟨found, _, haway⟩
  · exact Or.inl ⟨target, hview⟩

/-- Where no handler is asked, the page is the target of the redirect, up to the fragment. -/
theorem Sited.lands_on_target (h : w.Sited a) (hquery : '?' ∉ a.start) (hhash : '#' ∉ a.start)
    {request : Request} {url : String}
    (hredirect : (w.perform (Services.fixed table specials id fun _ title => (true, title))
      request).run = .ok (.redirect t url)) :
    ∃ page target, url.toList = page.toList ++ (w.reader table).tail t ∧
      (w.perform (Services.fixed table specials id fun _ title => (true, title))
        (Request.get page)).run = .ok (.view target) ∧
      target.pointingAs t = t ∧
      ('#' ∉ ((w.reader table).prefixedKey t).run.toList → target.fragment = "") := by
  obtain ⟨_, title, htitle, hfull, _, htarget, hurl, hback⟩ := exists_of_redirect hredirect
  dsimp only at htarget
  have hlocal : t.isExternal = false := by
    rw [htarget]
    exact SpecialPage.Table.isExternal_corrected htitle
  have hne : ((w.reader table).prefixedKey t).run.toList ≠ [] := by
    apply prefixedKey_ne_nil
    rw [htarget]
    refine (SpecialPage.Table.key_corrected hfull).imp_right fun hns => ?_
    rw [hns]
    decide
  obtain ⟨found, hread, hcomes⟩ := (h.returns_fullUrl_iff hhash hlocal hne hurl).1 hback
  have hsame : (specials.corrected found).pointingAs t = t := by
    rw [← SpecialPage.Table.corrected_pointingAs]
    exact hcomes rfl
  have hkey : ((w.reader table).prefixedKey (specials.corrected found)).run =
      ((w.reader table).prefixedKey t).run := by
    rw [← Resolver.run_prefixedKey_pointingAs _ _ t, hsame]
  have hpage : (String.ofList (w.titles.server.toList ++ (a.start ++ w.code table t))).toList =
      w.titles.server.toList ++ (a.start ++ w.code table t) := String.toList_ofList
  refine ⟨String.ofList (w.titles.server.toList ++ (a.start ++ w.code table t)),
    specials.corrected found, ?_, ?_, hsame, fun hhash' => ?_⟩
  · rw [hpage, hurl, h.toList_fullUrl hlocal, ← List.append_assoc, List.append_assoc]
  · rcases h.run_perform_page (fun _ title => (true, title)) hquery hne hpage hread
      fun _ => hkey with ⟨hexternal, _⟩ | ⟨target, hview, htarget⟩
    · -- A title of another wiki is not corrected, and the target is no such title.
      have hspecial : found.isSpecial = false := by
        rw [Title.isSpecial, Resolver.ns_of_parse_of_isExternal hread hexternal]
        decide
      rw [SpecialPage.Table.corrected_of_not_isSpecial hspecial] at hsame
      rw [← hsame, Title.isExternal_pointingAs, hexternal] at hlocal
      exact absurd hlocal (by decide)
    · rw [hview, htarget rfl]
  · exact (SpecialPage.Table.fragment_corrected _ _).trans (Resolver.fragment_of_parse hread hhash')

/-! ### Running wikis -/

section Running

variable {σ : Type} {P : Running σ → Prop} {i : Hook.Invoker}

/-- Whether a running wiki has its tables and no handlers that learn of titles, while those that
are asked about redirects answer by `judge`: they refuse or go on, with a title of their choice,
and leave the request as it is. -/
structure Judged (w : Wiki) (i : Hook.Invoker) (P : Running σ → Prop) (table : Namespace.Table)
    (specials : SpecialPage.Table) (judge : Snapshot → Title → Bool × Title) : Prop where
  kept : ∀ st, P st → st.namespaces = some table ∧ st.specialPages = some specials
  silent : ∀ st, P st → st.world.registry.handlers Event.beforeInitialize.name = []
  judged : ∀ request title, MatchesE P ((w.canonical (w.services i)).consult request title)
    (pure ((judge request title).1, request, (judge request title).2))
  report : ∀ st line, P st → P { st with world := st.world.report line }

theorem depth_pos_of_consult {request : Snapshot} {title : Title} {st : Running σ}
    {answer : Bool × Snapshot × Title}
    (h : (((w.canonical (w.services i)).consult request title).run st).1 = .ok answer) :
    0 < i.depth := by
  obtain ⟨policy, depth⟩ := i
  cases depth with
  | zero => cases h
  | succ depth => exact Nat.succ_pos depth

theorem Judged.settled (h : w.Judged i P table specials judge) :
    w.Settled i P table specials id judge where
  namespaces := Matches.of_run fun st hst =>
    ⟨st, OnDemand.lookUp_of_kept (t := namespaceTable σ w.namespaces) (h.kept st hst).1, hst⟩
  specialPages := Matches.of_run fun st hst =>
    ⟨st, OnDemand.lookUp_of_kept (t := specialPageTable σ w.specialPages) (h.kept st hst).2, hst⟩
  announced title := Matches.of_run fun st hst =>
    ⟨st, announce_of_unhandled (h.silent st hst)
      (depth_pos_of_consult (h.judged (w.replay table title "") title st hst).1) title, hst⟩
  consulted := h.judged
  report line st hst := ⟨rfl, h.report st line hst⟩

/-- Where nobody is asked about redirects, every title is let through. -/
theorem Judged.judge_eq (h : w.Judged i P table specials judge) {st : Running σ} (hst : P st)
    (hnone : st.world.registry.handlers Event.testCanonicalRedirect.name = []) :
    judge = fun _ title => (true, title) := by
  funext request title
  have hjudged := (h.judged request title st hst).1
  have hrun := consult_of_unhandled (w := w) hnone (depth_pos_of_consult hjudged) request title
  have hequal : (Except.ok (true, request, title) : Except WikiError _) =
      .ok ((judge request title).1, request, (judge request title).2) :=
    (congrArg Prod.fst hrun).symm.trans hjudged
  simp only [Except.ok.injEq, Prod.mk.injEq, true_and] at hequal
  exact Prod.ext hequal.1.symm hequal.2.symm

/-- A wiki with its tables made and one handler, which rewrites titles that are asked about. -/
theorem judged_of_rewriting (w : Wiki) (hdepth : 0 < i.depth) (table : Namespace.Table)
    (specials : SpecialPage.Table) (change : Title → Title) :
    w.Judged (σ := σ) i
      (Holds (.rewriting Event.testCanonicalRedirect.name .title 1 change) table specials)
      table specials fun _ title => (true, change title) where
  kept _ hst := ⟨hst.namespaces, hst.specialPages⟩
  silent _ hst := hst.registry ▸ Hook.Registry.handlers_rewriting_of_ne (by decide) _ _ _
  judged request title := Matches.of_run fun st hst =>
    ⟨st, consult_of_rewriting hdepth hst.registry request title, hst⟩
  report _ _ hst := ⟨hst.registry, hst.namespaces, hst.specialPages⟩

/-- A wiki with its tables made and no handlers. -/
theorem judged_of_unhandled (w : Wiki) (hdepth : 0 < i.depth)
    {registry : Hook.Registry (Hook.Code σ)} (hnone : ∀ event, registry.handlers event = [])
    (table : Namespace.Table) (specials : SpecialPage.Table) :
    w.Judged i (Holds registry table specials) table specials fun _ title => (true, title) where
  kept _ hst := ⟨hst.namespaces, hst.specialPages⟩
  silent _ hst := hst.registry ▸ hnone _
  judged request title := Matches.of_run fun st hst =>
    ⟨st, consult_of_unhandled (hst.registry ▸ hnone _) hdepth request title, hst⟩
  report _ _ hst := ⟨hst.registry, hst.namespaces, hst.specialPages⟩

/-- A redirect lands. The client who follows it is shown a page or sent to another wiki. Where no
handler is asked about redirects the page is the one that the redirect was for, and then the
fragment may be left out of the URL. -/
theorem redirect_lands (hsite : w.Sited a) (hquery : '?' ∉ w.titles.articlePath.toList)
    (hhash : '#' ∉ w.titles.articlePath.toList) (h : w.Judged i P table specials judge)
    (request : Request) (st st' : Running σ) (hst : P st) (hst' : P st') (t : Title)
    (url : String)
    (hredirect : ((w.perform (w.services i) request).run st).1 = .ok (.redirect t url)) :
    P ((w.perform (w.services i) request).run st).2 ∧
      (t.isExternal = false → t.key.isEmpty = false → t.hasFragment = false →
        (∃ target, ((w.perform (w.services i) (Request.get url)).run st').1 =
            .ok (.view target)) ∨
          ∃ target away, ((w.perform (w.services i) (Request.get url)).run st').1 =
            .ok (.interwiki target away)) ∧
      ((∀ st, P st → st.world.registry.handlers Event.testCanonicalRedirect.name = []) →
        (t.hasFragment = false →
          ((w.perform (w.services i) (Request.get url)).run st').1 = .ok (.view t)) ∧
        (t.hasFragment = true → ∃ page code target, url = page ++ "#" ++ code ∧
          '#' ∉ code.toList ∧
          ((w.perform (w.services i) (Request.get page)).run st').1 = .ok (.view target) ∧
          target.withFragment t.fragment = t ∧
          ('#' ∉ ((w.reader table).prefixedKey t).run.toList →
            target = t.withFragment ""))) := by
  have hsettled := h.settled.follows
  have hrun : ∀ request, ((w.perform (w.services i) request).run st').1 =
      (w.perform (Services.fixed table specials id judge) request).run := fun request =>
    (hsettled.perform w request st' hst').1
  obtain ⟨hfirst, hkept⟩ := hsettled.perform w request st hst
  have hstart : ∀ c, c ∉ w.titles.articlePath.toList → c ∉ a.start := fun c hc hmem =>
    hc (ArticlePath.mem_of_mem_start hsite.template hmem)
  have hfixed := hfirst.symm.trans hredirect
  refine ⟨hkept, fun hlocal hkey hwhole => ?_, fun hnone => ?_⟩
  · rw [hrun]
    exact hsite.lands (hstart _ hquery) (hstart _ hhash) hfixed hlocal hkey hwhole
  · -- Unasked handlers let every title through, so what was tried out is the target itself.
    obtain rfl := h.judge_eq hst (hnone st hst)
    obtain ⟨page, target, hurl, hview, hsame, hclean⟩ :=
      hsite.lands_on_target (hstart _ hquery) (hstart _ hhash) hfixed
    refine ⟨fun hwhole => ?_, fun hpoints => ?_⟩
    · rw [Resolver.tail, hwhole, if_neg Bool.false_ne_true, List.append_nil,
        String.toList_inj] at hurl
      rw [Title.pointingAs_of_not_hasFragment hwhole] at hsame
      rw [hrun, hurl, hview, hsame]
    · rw [Title.pointingAs_of_hasFragment hpoints] at hsame
      refine ⟨page, (w.reader table).encode
        (String.ofList (exchange ' ' '_' t.fragment.toList)), target, ?_, ?_, ?_, hsame, ?_⟩
      · rw [← String.toList_inj, hurl, Resolver.tail, hpoints, if_pos rfl]
        simp
      · rw [Resolver.encode, Percent.encode, String.toList_ofList]
        exact Percent.not_mem_encodeChars (by decide) _
      · rw [hrun, hview]
      · intro hplain
        have hempty := hclean hplain
        rw [← hsame, Title.withFragment_withFragment, ← hempty, Title.withFragment_self]

end Running

/-- A handler that has the page `Foo` shown as `Bar`. -/
def fooAsBar (title : Title) : Title :=
  if title.key = "Foo" then Title.make Namespace.main "Bar" "" "" else title

/-- The usual wiki sends `foo` to `Foo`, or to `Bar` if a handler says so, and the client who
follows is shown a page. -/
theorem redirect_lands_usual :
    ((∃ target, ((usual.perform (usual.services {}) (Request.get "http://localhost/wiki/Bar")).run
          (usualRunning (.rewriting Event.testCanonicalRedirect.name .title 1 fooAsBar))).1 =
        .ok (.view target)) ∨
      ∃ target away,
        ((usual.perform (usual.services {}) (Request.get "http://localhost/wiki/Bar")).run
          (usualRunning (.rewriting Event.testCanonicalRedirect.name .title 1 fooAsBar))).1 =
        .ok (.interwiki target away)) ∧
      ((usual.perform (usual.services {}) (Request.get "http://localhost/wiki/Foo")).run
          (usualRunning { mode := .production })).1 =
        .ok (.view (Title.make Namespace.main "Foo" "" "")) := by
  have hfoo := usual_parse "foo" "Foo" (by decide)
  have hFoo := usual_parse "Foo" "Foo" (by decide)
  have hBar := usual_parse "Bar" "Bar" (by decide)
  constructor
  · have hst := holds_usualRunning
      (.rewriting Event.testCanonicalRedirect.name .title 1 fooAsBar)
    have hjudged : usual.Judged {} (Holds (.rewriting Event.testCanonicalRedirect.name .title 1
        fooAsBar : Hook.Registry (Hook.Code Unit)) (.plain true) usualPages) (.plain true)
        usualPages fun _ title => (true, fooAsBar title) :=
      judged_of_rewriting usual (by decide) _ _ fooAsBar
    have hredirect := usual_redirects id (fun _ title => (true, fooAsBar title)) (by decide)
      (by decide) hfoo (by decide) (by decide) rfl (by decide) (by decide) (by decide) (by decide)
      hBar fun _ => rfl
    have hfirst := (hjudged.settled.follows.perform usual _ _ hst).1.trans hredirect
    exact (redirect_lands usual_sited (by decide) (by decide) hjudged
      (Request.get "http://localhost/wiki/foo") _ _ hst hst _ _ hfirst).2.1 rfl (by decide) rfl
  · have hst := holds_usualRunning { mode := .production }
    have hnone : ∀ event, ({ mode := .production } : Hook.Registry (Hook.Code Unit)).handlers
        event = [] := fun _ => rfl
    have hjudged := judged_of_unhandled (i := {}) usual (by decide) hnone (.plain true) usualPages
    have hredirect := usual_redirects id (fun _ title => (true, title)) (by decide) (by decide)
      hfoo (by decide) (by decide) rfl (by decide) (by decide) (by decide) (by decide) hFoo
      fun _ => rfl
    have hfirst := (hjudged.settled.follows.perform usual _ _ hst).1.trans hredirect
    have hunasked : ∀ st, Holds { mode := .production } (.plain true) usualPages st →
        st.world.registry.handlers Event.testCanonicalRedirect.name = [] :=
      fun st hst => hst.registry ▸ hnone _
    exact ((redirect_lands usual_sited (by decide) (by decide) hjudged
      (Request.get "http://localhost/wiki/foo") _ _ hst hst _ _ hfirst).2.2 hunasked).1 rfl

end Wiki

end WikiEntry
