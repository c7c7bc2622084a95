import WikiEntry.Proofs.Request.Asked
import WikiEntry.Proofs.Title.Shape
import WikiEntry.Proofs.Wiki.Usual

/-!
# When a redirect is refused

A wiki refuses to redirect for two reasons: the URL of the target is the one that was asked for,
or a request for it would not come down to the target again. The first never happens to a request
that was made for a URL: such a request would have named the target already. So without handlers
exactly those targets are refused that are not read back from their prefixed keys.
-/

namespace WikiEntry

open Redirect Text

namespace Wiki

variable {w : Wiki} {a : ArticlePath} {table : Namespace.Table} {specials : SpecialPage.Table}
  {rewrite : Title → Title} {judge : Snapshot → Title → Bool × Title} {t target : Title}
  {request : Snapshot} {url : String}

/-! ### Trying out and sending -/

theorem exists_run_confirm (target : Title) (url : String) (read : Except TitleError Title) :
    ∃ back, (confirm (w.still table specials rewrite judge) target url read).run = .ok back := by
  cases read with
  | error error => exact ⟨false, rfl⟩
  | ok found => exact ⟨_, run_confirm_ok⟩

theorem exists_run_returns (target : Title) (url : String) :
    ∃ back, ((w.still table specials rewrite judge).returns target url).run = .ok back := by
  rw [returns_eq]
  cases (w.still table specials rewrite judge).titlePart? url with
  | none => exact exists_run_confirm target url (.ok target)
  | some code => exact exists_run_confirm target url _

theorem run_send_of_returns {back : Bool}
    (hback : ((w.still table specials rewrite judge).returns target
      ((w.reader table).fullUrl target "").run).run = .ok back) :
    (send (w.still table specials rewrite judge) request target).run =
      (let url := ((w.reader table).fullUrl target "").run
      if request.title = some ((w.reader table).prefixedKey target).run then
        .ok (.stay target .alreadyCanonical)
      else if url = request.url ∨ back = false then
        .error (.redirectLoop (.through url w.usePathInfo))
      else .ok (.redirect target url)) := by
  rw [run_send]
  dsimp only
  rw [hback]
  split
  · rfl
  · by_cases hsame : ((w.reader table).fullUrl target "").run = request.url
    · rw [if_pos hsame, if_pos (.inl hsame)]
    · cases back <;> simp [hsame]

/-! ### Targets that come back -/

/-- Whether a target is read back from its prefixed key, in the main namespace and with the alias
of a special page put right. If the target points at a section, so does what is read. -/
def ComesBack (w : Wiki) (table : Namespace.Table) (specials : SpecialPage.Table)
    (target : Title) : Prop :=
  ∃ found,
    ((w.reader table).parse ((w.reader table).prefixedKey target).run Namespace.main).run =
      .ok found ∧
    (specials.corrected found).pointingAs target = target

/-- Whether a request that names `title` is a plain view of a page that does not name its target,
while the target does not come back. -/
structure Refused (w : Wiki) (table : Namespace.Table) (specials : SpecialPage.Table)
    (request : Snapshot) (title : Title) : Prop where
  plain : request.isPlainView = true
  unnamed : request.title ≠ some ((w.reader table).prefixedKey (specials.corrected title)).run
  lost : ¬w.ComesBack table specials (specials.corrected title)

theorem Sited.comesBack_iff (h : w.Sited a) (hhash : '#' ∉ a.start)
    (hlocal : target.isExternal = false)
    (hne : ((w.reader table).prefixedKey target).run.toList ≠ []) {back : Bool}
    (hback : ((w.still table specials rewrite fun _ title => (true, title)).returns target
      ((w.reader table).fullUrl target "").run).run = .ok back) :
    w.ComesBack table specials target ↔ back = true := by
  have hreturns : ((w.still table specials rewrite fun _ title => (true, title)).returns target
      ((w.reader table).fullUrl target "").run).run = .ok true ↔ _ :=
    h.returns_fullUrl_iff hhash hlocal hne rfl
  rw [hback] at hreturns
  simp only [comesTo, SpecialPage.Table.corrected_pointingAs, forall_const] at hreturns
  rw [ComesBack, ← hreturns]
  exact ⟨fun hok => Except.ok.inj hok, fun hback => hback ▸ rfl⟩

theorem prefixedKey_corrected_ne_nil (hfull : t.key.isEmpty = false) :
    ((w.reader table).prefixedKey (specials.corrected t)).run.toList ≠ [] := by
  refine prefixedKey_ne_nil ((SpecialPage.Table.key_corrected hfull).imp_right fun hns => ?_)
  rw [hns]
  decide

/-- The decision about a request that names its target whenever it asks for the URL of it. -/
theorem Sited.run_decide_cases (h : w.Sited a) (hhash : '#' ∉ a.start)
    (hlocal : t.isExternal = false) (hfull : t.key.isEmpty = false)
    (hnamed : ((w.reader table).fullUrl (specials.corrected t) "").run = request.url →
      request.title = some ((w.reader table).prefixedKey (specials.corrected t)).run) :
    (w.Refused table specials request t ∧ ∃ loop,
      ((w.still table specials id fun _ title => (true, title)).decide request t).run =
        .error (.redirectLoop loop)) ∨
    (¬w.Refused table specials request t ∧ ∃ decision,
      ((w.still table specials id fun _ title => (true, title)).decide request t).run =
        .ok decision) := by
  rw [run_decide]
  dsimp only
  rw [if_neg Bool.true_eq_false.mp]
  cases hplain : request.isPlainView with
  | false =>
      rw [if_pos rfl]
      exact .inr ⟨fun hrefused => absurd hrefused.plain (by simp [hplain]), _, rfl⟩
  | true =>
      rw [if_neg Bool.true_eq_false.mp]
      obtain ⟨back, hback⟩ : ∃ back,
          ((w.still table specials id fun _ title => (true, title)).returns (specials.corrected t)
            ((w.reader table).fullUrl (specials.corrected t) "").run).run = .ok back :=
        exists_run_returns _ _
      have hcomes := h.comesBack_iff hhash (SpecialPage.Table.isExternal_corrected hlocal)
        (prefixedKey_corrected_ne_nil hfull) hback
      rw [run_send_of_returns hback]
      dsimp only
      by_cases hkey : request.title =
          some ((w.reader table).prefixedKey (specials.corrected t)).run
      · rw [if_pos hkey]
        exact .inr ⟨fun hrefused => hrefused.unnamed hkey, _, rfl⟩
      · rw [if_neg hkey]
        -- The URL cannot be the one that was asked for, so only trying out can refuse.
        have hmoved : ((w.reader table).fullUrl (specials.corrected t) "").run ≠ request.url :=
          fun hsame => hkey (hnamed hsame)
        cases back with
        | true =>
            rw [if_neg (by simp [hmoved])]
            exact .inr ⟨fun hrefused => hrefused.lost (hcomes.mpr rfl), _, rfl⟩
        | false =>
            rw [if_pos (.inr rfl)]
            exact .inl ⟨⟨hplain, hkey, by simp [hcomes]⟩, _, rfl⟩

/-! ### Requests -/

theorem run_requestedTitle (request : Request) :
    (w.requestedTitle (Services.fixed table specials rewrite judge) request).run =
      (if !(request.valueD "title" "").isEmpty then
        (((w.reader table).parse (request.valueD "title" "") Namespace.main).run, none)
      else match w.pathPart? request with
        | some code =>
          match Percent.decode? code with
          | some text => (((w.reader table).parse text Namespace.main).run, some text)
          | none => (.error .invalidEncoding, none)
        | none =>
          if request.has "search" then (.ok (SpecialPage.title SpecialPage.search none), none)
          else (((w.reader table).parse w.mainPage Namespace.main).run, none)) := by
  unfold requestedTitle
  dsimp only
  split
  · rfl
  · cases w.pathPart? request with
    | none =>
        dsimp only
        split <;> rfl
    | some code =>
        dsimp only
        cases Percent.decode? code <;> rfl

theorem key_isEmpty_of_requestedTitle {request : Request} {fromPath : Option String}
    (h : (w.requestedTitle (Services.fixed table specials rewrite judge) request).run =
      (.ok t, fromPath)) (hlocal : t.isExternal = false) : t.key.isEmpty = false := by
  rw [run_requestedTitle] at h
  split at h
  · exact Resolver.key_isEmpty_of_parse (Prod.mk.inj h).1 hlocal
  · split at h
    · split at h
      · exact Resolver.key_isEmpty_of_parse (Prod.mk.inj h).1 hlocal
      · cases h
    · split at h
      · cases h
        decide
      · exact Resolver.key_isEmpty_of_parse (Prod.mk.inj h).1 hlocal

/-- A request that asks for the URL of a page names the page by its prefixed key. A URL without a
number sign cannot be that of a section. -/
theorem Sited.requestedTitle_of_fullUrl (h : w.Sited a) (hquery : '?' ∉ a.start)
    (hurl : '#' ∉ url.toList) (hlocal : target.isExternal = false)
    (hne : ((w.reader table).prefixedKey target).run.toList ≠ [])
    (hsame : ((w.reader table).fullUrl target "").run = (Request.get url).fullUrl) :
    (w.requestedTitle (Services.fixed table specials rewrite judge) (Request.get url)).run =
      (((w.reader table).parse ((w.reader table).prefixedKey target).run Namespace.main).run,
        some ((w.reader table).prefixedKey target).run) := by
  have hwritten : ((w.reader table).fullUrl target "").run.toList =
      w.titles.server.toList ++ (a.start ++ w.code table target ++ (w.reader table).tail target) :=
    h.toList_fullUrl hlocal
  have htail : (w.reader table).tail target = [] := by
    -- A section would bring a number sign into what the request asks for.
    unfold Resolver.tail at hwritten ⊢
    split at hwritten
    · have hmem : '#' ∈ (Request.get url).fullUrl.toList := by
        rw [← hsame, hwritten]
        simp
      obtain hmem | hslash := Request.mem_of_mem_fullUrl_get hmem
      · exact absurd hmem hurl
      · exact absurd hslash (by decide)
    · rename_i hwhole
      rw [if_neg hwhole]
  rw [htail, List.append_nil] at hwritten
  have hcode : '?' ∉ w.code table target := not_mem_code (by decide) target
  have hget : Request.get url = Request.get ((w.reader table).fullUrl target "").run := by
    have hhead : (a.start ++ w.code table target).head? = some '/' := by
      rw [List.head?_append, h.start_head?]
      rfl
    rw [h.get_of_path hquery hcode hwritten, Request.get_of_fullUrl h.server hhead
      (by simp [hquery, hcode]) (hsame ▸ hwritten), String.ofList_toList]
  rw [hget]
  exact h.requestedTitle_page hquery hne hwritten

/-- Whether a request names a title of this wiki that it is refused to be sent to. -/
def Refuses (w : Wiki) (table : Namespace.Table) (specials : SpecialPage.Table)
    (request : Request) (named : Except TitleError Title × Option String) : Prop :=
  ∃ title fromPath, named = (.ok title, fromPath) ∧ title.isExternal = false ∧
    w.Refused table specials (snapshot request fromPath) title

theorem url_snapshot (request : Request) (fromPath : Option String) :
    (snapshot request fromPath).url = request.fullUrl := by
  cases fromPath <;> rfl

theorem requestedTitle_method {m : Type → Type} [Monad m] (services : Services m)
    (request : Request) (method : String) :
    w.requestedTitle services { request with method := method } =
      w.requestedTitle services request := rfl

theorem Sited.title_snapshot_of_fullUrl (h : w.Sited a) (hquery : '?' ∉ a.start)
    (hurl : '#' ∉ url.toList) {request : Request} {method : String}
    (hrequest : request = { Request.get url with method := method })
    {read : Except TitleError Title} {fromPath : Option String}
    (hread : (w.requestedTitle (Services.fixed table specials rewrite judge) request).run =
      (read, fromPath))
    (hlocal : target.isExternal = false)
    (hne : ((w.reader table).prefixedKey target).run.toList ≠ [])
    (hsame : ((w.reader table).fullUrl target "").run = (snapshot request fromPath).url) :
    (snapshot request fromPath).title = some ((w.reader table).prefixedKey target).run := by
  rw [url_snapshot, hrequest] at hsame
  have hpage : (w.requestedTitle (Services.fixed table specials rewrite judge)
      (Request.get url)).run = _ :=
    h.requestedTitle_of_fullUrl hquery hurl hlocal hne hsame
  rw [hrequest, requestedTitle_method] at hread
  obtain ⟨-, rfl⟩ := Prod.mk.inj (hread.symm.trans hpage)
  rfl

/-- A request of a wiki without handlers fails with a loop exactly if its redirect is refused, and
else it does not fail. -/
theorem Sited.run_perform_cases (h : w.Sited a) (hquery : '?' ∉ a.start) (hhash : '#' ∉ a.start)
    (hurl : '#' ∉ url.toList) {request : Request} {method : String}
    (hrequest : request = { Request.get url with method := method }) {services : Services Id}
    (hservices : services = .fixed table specials id fun _ title => (true, title)) :
    (w.Refuses table specials request (w.requestedTitle services request).run ∧
      ∃ loop, (w.perform services request).run = .error (.redirectLoop loop)) ∨
    (¬w.Refuses table specials request (w.requestedTitle services request).run ∧
      ∃ outcome, (w.perform services request).run = .ok outcome) := by
  subst hservices
  rw [run_perform]
  obtain ⟨⟨read, fromPath⟩, hread⟩ : ∃ named, (w.requestedTitle
      (Services.fixed table specials id fun _ title => (true, title)) request).run = named :=
    ⟨_, rfl⟩
  rw [hread]
  cases read with
  | error error =>
      refine .inr ⟨?_, _, rfl⟩
      rintro ⟨title, fromPath', hnamed, -⟩
      cases hnamed
  | ok title =>
      dsimp only [id]
      rw [run_performFor]
      cases hlocal : title.isExternal with
      | true =>
          refine .inr ⟨?_, .interwiki title ((w.reader table).fullUrl title "").run, by simp⟩
          rintro ⟨title', fromPath', hnamed, hlocal', -⟩
          cases hnamed
          exact absurd hlocal' (by simp [hlocal])
      | false =>
          have hfull := key_isEmpty_of_requestedTitle hread hlocal
          simp only [hfull, Bool.false_and, Bool.false_eq_true, if_false]
          obtain ⟨hrefused, loop, hdecide⟩ | ⟨hsent, decision, hdecide⟩ :=
            h.run_decide_cases hhash hlocal hfull (h.title_snapshot_of_fullUrl hquery hurl hrequest
              hread (SpecialPage.Table.isExternal_corrected hlocal)
              (prefixedKey_corrected_ne_nil hfull))
          · rw [hdecide]
            exact .inl ⟨⟨title, fromPath, rfl, hlocal, hrefused⟩, loop, rfl⟩
          · rw [hdecide]
            refine .inr ⟨?_, ?_⟩
            · rintro ⟨title', fromPath', hnamed, -, hrefused⟩
              cases hnamed
              exact hsent hrefused
            · cases decision with
              | redirect target url => exact ⟨_, rfl⟩
              | stay target reason => exact ⟨_, rfl⟩

/-! ### Running wikis -/

section Running

variable {σ : Type} {i : Hook.Invoker}

theorem Quiet.run_requestedTitle (hdepth : 0 < i.depth) {st : Running σ}
    (hst : w.Quiet table specials st) (request : Request) :
    (w.requestedTitle (w.services i) request st).1 =
      (w.requestedTitle (Services.fixed table specials id fun _ title => (true, title))
        request).run :=
  ((Quiet.settled w hdepth).follows.requestedTitle w request st hst).1

theorem Quiet.perform_cases (hdepth : 0 < i.depth) (hsite : w.Sited a)
    (hquery : '?' ∉ w.titles.articlePath.toList) (hhash : '#' ∉ w.titles.articlePath.toList)
    {st : Running σ} (hst : w.Quiet table specials st) (hurl : '#' ∉ url.toList)
    {request : Request} {method : String}
    (hrequest : request = { Request.get url with method := method }) :
    (w.Refuses table specials request (w.requestedTitle (w.services i) request st).1 ∧
      ∃ loop, ((w.perform (w.services i) request).run st).1 = .error (.redirectLoop loop)) ∨
    (¬w.Refuses table specials request (w.requestedTitle (w.services i) request st).1 ∧
      ∃ outcome, ((w.perform (w.services i) request).run st).1 = .ok outcome) := by
  have hstart : ∀ c, c ∉ w.titles.articlePath.toList → c ∉ a.start := fun c hc hmem =>
    hc (ArticlePath.mem_of_mem_start hsite.template hmem)
  rw [((Quiet.settled w hdepth).follows.perform w request st hst).1,
    hst.run_requestedTitle hdepth]
  exact hsite.run_perform_cases (hstart _ hquery) (hstart _ hhash) hurl hrequest rfl

/-- A wiki without handlers fails with a loop exactly at the requests that it refuses to redirect,
and answers all others. -/
theorem perform_loop_iff (hdepth : 0 < i.depth) (hsite : w.Sited a)
    (hquery : '?' ∉ w.titles.articlePath.toList) (hhash : '#' ∉ w.titles.articlePath.toList)
    (st : Running σ) (hst : w.Quiet table specials st) (url method : String)
    (hurl : '#' ∉ url.toList) :
    let request : Request := { Request.get url with method := method }
    let answer := ((w.perform (w.services i) request).run st).1
    ((∃ loop, answer = .error (.redirectLoop loop)) ↔
      w.Refuses table specials request (w.requestedTitle (w.services i) request st).1) ∧
    ((¬∃ loop, answer = .error (.redirectLoop loop)) → ∃ outcome, answer = .ok outcome) := by
  intro request answer
  obtain ⟨hrefused, hloop⟩ | ⟨hsent, outcome, houtcome⟩ :
      _ ∨ (_ ∧ ∃ outcome, answer = .ok outcome) :=
    hst.perform_cases hdepth hsite hquery hhash hurl (rfl : request = _)
  · exact ⟨⟨fun _ => hrefused, fun _ => hloop⟩, fun hno => absurd hloop hno⟩
  · refine ⟨⟨?_, fun hrefused => absurd hrefused hsent⟩, fun _ => ⟨outcome, houtcome⟩⟩
    rintro ⟨loop, hloop⟩
    rw [houtcome] at hloop
    cases hloop

end Running

/-- The usual wiki answers a request for `foo`: its target `Foo` comes back. -/
theorem perform_usual_foo :
    ∃ outcome, ((usual.perform (usual.services {})
      { Request.get ("http://localhost/wiki/" ++ "foo") with method := "HEAD" }).run
        (usualRunning { mode := .production })).1 = .ok outcome := by
  have hquiet : usual.Quiet (.plain true) usualPages (usualRunning { mode := .production }) :=
    ⟨fun _ => rfl, Or.inl rfl, Or.inl rfl⟩
  have hcorrected : usualPages.corrected (Title.make Namespace.main "Foo" "" "") =
      Title.make Namespace.main "Foo" "" "" := SpecialPage.Table.corrected_of_not_isSpecial rfl
  have hback :
      usual.ComesBack (.plain true) usualPages (Title.make Namespace.main "Foo" "" "") := by
    refine ⟨Title.make Namespace.main "Foo" "" "", ?_, ?_⟩
    · rw [usual_prefixedKey (by decide)]
      exact usual_parse "Foo" "Foo" (by decide)
    · rw [hcorrected]
      exact Title.pointingAs_of_not_hasFragment rfl
  have hnamed : (usual.requestedTitle
      (Services.fixed (.plain true) usualPages id fun _ title => (true, title))
      (Request.get ("http://localhost/wiki/" ++ "foo"))).run =
        (((usual.reader (.plain true)).parse "foo" Namespace.main).run, some "foo") :=
    usual_requestedTitle (by decide) (by decide)
  rw [usual_parse "foo" "Foo" (by decide)] at hnamed
  obtain ⟨hloop, hanswer⟩ := perform_loop_iff (i := {}) (by decide) usual_sited (by decide)
    (by decide) _ hquiet ("http://localhost/wiki/" ++ "foo") "HEAD" (by decide)
  refine hanswer fun hno => ?_
  obtain ⟨title, fromPath, hread, -, hrefused⟩ := hloop.mp hno
  rw [hquiet.run_requestedTitle (by decide), requestedTitle_method, hnamed] at hread
  obtain ⟨hsame, -⟩ := Prod.mk.inj hread
  rw [← Except.ok.inj hsame] at hrefused
  exact hrefused.lost (hcorrected.symm ▸ hback)

/-- The usual wiki where the namespace of files is called after one of its pages. -/
def hashed : Wiki := { usual with
  namespaces := ⟨∅, (∅ : Std.TreeMap Int String).insert 6 "Image:Bar#x", true⟩ }

/-- The namespaces of `hashed`. -/
def hashedNames : Namespace.Table := .ofNames hashed.namespaces.names

theorem hashed_sited : hashed.Sited usualPath where
  pathInfo := rfl
  articlePath := rfl
  template := usual_sited.template
  rooted := usual_sited.rooted
  server := usual_sited.server

theorem hashed_place {key rest : List Char}
    (hcut : Title.Key.cutPrefix? key = some ("Image".toList, rest)) :
    ((hashed.reader hashedNames).place Namespace.main key).run = .ok ⟨6, "", rest⟩ := by
  have hfind : (hashed.reader hashedNames).table.find? (String.ofList "Image".toList) = some 6 := by
    have hnames : hashedNames.find? "Image" = some 6 := by decide +kernel
    exact hnames
  rw [Resolver.place_of_find? hcut hfind]
  rfl

theorem hashed_settle (fragment : String) :
    (hashed.reader hashedNames).settle ⟨6, "", "Bar".toList⟩ fragment =
      .ok (Title.make 6 "Bar" fragment "") := by
  have hstored : (hashed.reader hashedNames).stored ⟨6, "", "Bar".toList⟩ = "Bar".toList := by
    have hupper : upperFirst "Bar".toList = "Bar".toList := by decide
    exact hupper
  rw [Resolver.settle_eq_ok_iff, hstored, String.ofList_toList]
  exact ⟨by decide, Or.inl (by decide), rfl⟩

theorem hashed_cutPrefix? :
    Title.Key.cutPrefix? "Image:Bar".toList = some ("Image".toList, "Bar".toList) := by decide

theorem hashed_parse : ((hashed.reader hashedNames).parse "Image:Bar" Namespace.main).run =
    .ok (Title.make 6 "Bar" "" "") := by
  have hclean : Title.Key.Clean "Image:Bar".toList :=
    ⟨Title.Key.spaced_of_normalize_eq (by decide), by decide, by decide⟩
  rw [Resolver.run_parse_of_place hclean (by decide) (hashed_place hashed_cutPrefix?)]
  exact hashed_settle ""

theorem hashed_prefixedKey :
    ((hashed.reader hashedNames).prefixedKey (Title.make 6 "Bar" "" "")).run =
      "Image:Bar#x:Bar" := by decide

theorem hashed_parse_prefixedKey :
    ((hashed.reader hashedNames).parse
      ((hashed.reader hashedNames).prefixedKey (Title.make 6 "Bar" "" "")).run
        Namespace.main).run = .ok (Title.make 6 "Bar" "x:Bar" "") := by
  -- The name of the namespace is cut at its number sign, and the old name is left.
  have hhash : Resolver.cutFragment (Title.Key.normalize "Image:Bar#x:Bar".toList) =
      ("Image:Bar".toList, "x:Bar".toList) := by decide
  rw [hashed_prefixedKey, Resolver.run_parse (by decide), hhash]
  dsimp only
  rw [Resolver.cutColon_of_head?_ne (by decide)]
  dsimp only
  rw [hashed_place hashed_cutPrefix?]
  exact hashed_settle "x:Bar"

theorem usualPages_corrected (fragment : String) :
    usualPages.corrected (Title.make 6 "Bar" fragment "") = Title.make 6 "Bar" fragment "" :=
  SpecialPage.Table.corrected_of_not_isSpecial rfl

theorem not_comesBack_hashed :
    ¬hashed.ComesBack hashedNames usualPages (Title.make 6 "Bar" "" "") := by
  rintro ⟨found, hfound, hsame⟩
  rw [← Except.ok.inj (hashed_parse_prefixedKey.symm.trans hfound), usualPages_corrected,
    Title.pointingAs_of_not_hasFragment rfl] at hsame
  exact absurd (congrArg Title.fragment hsame) (by decide)

/-- A page of a namespace whose name holds a number sign is read back as a section of itself. This
is taken for another target, and the redirect is refused. -/
theorem perform_hashed :
    let st : Running Unit := { world := { registry := { mode := .production }, memory := () } }
    let request := Request.get "http://localhost/wiki/Image:Bar"
    let target := Title.make 6 "Bar" "" ""
    hashed.Sited usualPath ∧ hashed.Quiet hashedNames usualPages st ∧
      (hashed.requestedTitle (hashed.services {}) request st).1 = (.ok target, some "Image:Bar") ∧
      usualPages.corrected target = target ∧
      (∃ found, ((hashed.reader hashedNames).parse
          ((hashed.reader hashedNames).prefixedKey target).run Namespace.main).run = .ok found ∧
        (usualPages.corrected found).withFragment target.fragment = target) ∧
      ∃ loop, ((hashed.perform (hashed.services {}) request).run st).1 =
        .error (.redirectLoop loop) := by
  intro st request target
  have hquiet : hashed.Quiet hashedNames usualPages st :=
    ⟨fun _ => rfl, Or.inr ⟨rfl, rfl⟩, Or.inr ⟨rfl, rfl⟩⟩
  have hnamed : (hashed.requestedTitle (hashed.services {}) request st).1 =
      (.ok target, some "Image:Bar") := by
    have hdecode : Percent.decode? (String.ofList "Image:Bar".toList) = some "Image:Bar" := by
      decide
    rw [hquiet.run_requestedTitle (by decide), hashed_sited.requestedTitle_of_path (by decide)
      (by decide) (by decide) rfl hdecode, hashed_parse]
  refine ⟨hashed_sited, hquiet, hnamed, usualPages_corrected "",
    ⟨_, hashed_parse_prefixedKey, ?_⟩, ?_⟩
  · rw [usualPages_corrected]
    exact Title.ext_parts rfl rfl rfl rfl
  · have hget : request = { request with method := "GET" } := rfl
    obtain ⟨-, hloop⟩ | ⟨hsent, -⟩ := hquiet.perform_cases (i := {}) (by decide) hashed_sited
      (by decide) (by decide) (by decide) hget
    · exact hloop
    · have hsnapshot : snapshot request (some "Image:Bar") =
          ⟨"GET", "http://localhost/wiki/Image:Bar", some "Image:Bar", "view", []⟩ :=
        hashed_sited.snapshot_of_path (by decide) (by decide) rfl
      refine absurd ⟨target, some "Image:Bar", hnamed, rfl, ?_, ?_, ?_⟩ hsent
      · rw [hsnapshot, isPlainView_get]
      · rw [hsnapshot, usualPages_corrected, hashed_prefixedKey]
        decide
      · rw [usualPages_corrected]
        exact not_comesBack_hashed

end Wiki

end WikiEntry
