import WikiEntry.Proofs.Namespace.Table
import WikiEntry.Proofs.Title.Rereading
import WikiEntry.Proofs.Wiki.Rewriting
import WikiEntry.Proofs.Wiki.Site

/-!
# The usual wiki

A wiki with the settings that wikis start with, and a running one with a handler that rewrites
titles. What is said about all wikis is tried out on it.
-/

namespace WikiEntry.Wiki

open Redirect Text Title

/-- The article path that wikis start with. -/
def usualPath : ArticlePath := ⟨"/wiki/$1", "/wiki/".toList⟩

/-- The wiki with the settings that wikis start with. -/
def usual : Wiki where
  titles := {}
  namespaces := ⟨∅, ∅, true⟩
  specialPages := {}
  articlePath := some usualPath
  mainPage := "Main Page"
  usePathInfo := true

theorem usual_sited : usual.Sited usualPath where
  pathInfo := rfl
  articlePath := rfl
  template := by rfl
  rooted := by decide
  server := ⟨"http".toList, "localhost".toList, by decide, by decide⟩

/-- The special pages that wikis start with. -/
def usualPages : SpecialPage.Table := .ofNames (SpecialPage.Settings.names {}) ∅

/-- The usual wiki with its tables made. -/
def usualRunning (registry : Hook.Registry (Hook.Code Unit)) : Running Unit where
  world := { registry := registry, memory := () }
  namespaces := some (.plain true)
  specialPages := some usualPages

theorem holds_usualRunning (registry : Hook.Registry (Hook.Code Unit)) :
    Holds registry (.plain true) usualPages (usualRunning registry) := ⟨rfl, rfl, rfl⟩

theorem usual_parse (word key : String)
    (h : Key.normalize word.toList = word.toList ∧ '#' ∉ word.toList ∧ ':' ∉ word.toList ∧
      '\x00' ∉ word.toList ∧
      Key.fault? Namespace.main word.toList = none ∧ upperFirst word.toList = key.toList ∧
      key.toList ≠ []) :
    ((usual.reader (.plain true)).parse word Namespace.main).run =
      .ok (make Namespace.main key "" "") := by
  obtain ⟨hnormal, hhash, hcolon, hnul, hfault, hkey, hne⟩ := h
  have hclean : Key.Clean word.toList := ⟨Key.spaced_of_normalize_eq hnormal, hhash, hnul⟩
  have hstored : (usual.reader (.plain true)).stored ⟨Namespace.main, "", word.toList⟩ =
      upperFirst word.toList := by rfl
  rw [Resolver.run_parse_of_colonless hclean hcolon, Resolver.settle_eq_ok_iff,
    hstored, hkey, String.ofList_toList]
  exact ⟨hfault, Or.inl hne, rfl⟩

/-! ### Words

Words that are written in URLs as they stand, such as `Foo`. -/

variable {rewrite : Title → Title} {judge : Snapshot → Title → Bool × Title}
  {word : String}

theorem usual_prefixedKey (hspace : ' ' ∉ word.toList) :
    ((usual.reader (.plain true)).prefixedKey (make Namespace.main word "" "")).run = word := by
  rw [← String.toList_inj, Resolver.toList_prefixedKey_main rfl rfl, make_key,
    exchange_of_not_mem hspace, String.ofList_toList]

theorem usual_fullUrl (hspace : ' ' ∉ word.toList)
    (hkept : Percent.encodeChars false word.toList = word.toList) :
    ((usual.reader (.plain true)).fullUrl (make Namespace.main word "" "") "").run =
      "http://localhost/wiki/" ++ word := by
  have htail : (usual.reader (.plain true)).tail (make Namespace.main word "" "") = [] := rfl
  have hcode : usual.code (.plain true) (make Namespace.main word "" "") = word.toList := by
    rw [code, usual_prefixedKey hspace]
    exact hkept
  rw [← String.toList_inj, usual_sited.toList_fullUrl rfl, htail, hcode, List.append_nil,
    String.toList_append]
  rfl

/-- A request for a word names it. -/
theorem usual_requestedTitle (hne : word.toList ≠ [])
    (hkept : Percent.encodeChars false word.toList = word.toList) :
    (usual.requestedTitle (Services.fixed (.plain true) usualPages rewrite judge)
        (Request.get ("http://localhost/wiki/" ++ word))).run =
      (((usual.reader (.plain true)).parse word Namespace.main).run, some word) := by
  have hquestion : '?' ∉ word.toList := by
    rw [← hkept]
    exact Percent.not_mem_encodeChars (by decide) _
  have hdecode : Percent.decode? (String.ofList word.toList) = some word := by
    conv => lhs; rw [← hkept]
    rw [Percent.decode?_encodeChars, String.ofList_toList]
  have hurl : ("http://localhost/wiki/" ++ word).toList =
      usual.titles.server.toList ++ (usualPath.start ++ word.toList) := by
    rw [String.toList_append]
    rfl
  exact usual_sited.requestedTitle_of_path (by decide) hquestion hne hurl hdecode

/-- When a request for a word is redirected to a page of the main namespace. -/
theorem usual_redirects (rewrite : Title → Title) (judge : Snapshot → Title → Bool × Title)
    {target : String} {title : Title} (hne : word.toList ≠ [])
    (hkept : Percent.encodeChars false word.toList = word.toList)
    (hread : ((usual.reader (.plain true)).parse word Namespace.main).run = .ok title)
    (hfull : (rewrite title).key.isEmpty = false) (hlocal : (rewrite title).isExternal = false)
    (hjudge : judge (snapshot (Request.get ("http://localhost/wiki/" ++ word)) (some word))
      (rewrite title) = (true, make Namespace.main target "" ""))
    (hmoved : word ≠ target) (hne' : target.toList ≠ []) (hspace : ' ' ∉ target.toList)
    (hkept' : Percent.encodeChars false target.toList = target.toList)
    (hback : ((usual.reader (.plain true)).parse target Namespace.main).run =
      .ok (make Namespace.main target "" ""))
    (hagain : ∀ request, judge request (make Namespace.main target "" "") =
      (true, make Namespace.main target "" "")) :
    (usual.perform (Services.fixed (.plain true) usualPages rewrite judge)
        (Request.get ("http://localhost/wiki/" ++ word))).run =
      .ok (.redirect (make Namespace.main target "" "") ("http://localhost/wiki/" ++ target)) := by
  have hquestion : '?' ∉ word.toList := by
    rw [← hkept]
    exact Percent.not_mem_encodeChars (by decide) _
  have hurl : ("http://localhost/wiki/" ++ word).toList =
      usual.titles.server.toList ++ (usualPath.start ++ word.toList) := by
    rw [String.toList_append]
    rfl
  have hsnapshot : snapshot (Request.get ("http://localhost/wiki/" ++ word)) (some word) =
      ⟨"GET", "http://localhost/wiki/" ++ word, some word, "view", []⟩ :=
    usual_sited.snapshot_of_path (by decide) hquestion hurl
  have hcorrected : usualPages.corrected (make Namespace.main target "" "") =
      make Namespace.main target "" "" := SpecialPage.Table.corrected_of_not_isSpecial rfl
  refine run_perform_eq_redirect_iff.2 ⟨title, some word, ?_, hfull, hlocal, ?_⟩
  · rw [usual_requestedTitle hne hkept, hread]
  · refine run_decide_eq_redirect_iff.2 ⟨by rw [hjudge], by rw [hsnapshot, isPlainView_get], ?_⟩
    rw [hjudge]
    dsimp only
    rw [hcorrected, hsnapshot]
    refine run_send_eq_redirect_iff.2 ⟨rfl, ?_, (usual_fullUrl hspace hkept').symm, ?_, ?_⟩
    · dsimp only
      rw [usual_prefixedKey hspace]
      simpa using hmoved
    · dsimp only
      intro heq
      have hlist := congrArg String.toList heq
      rw [String.toList_append, String.toList_append, List.append_cancel_left_eq,
        String.toList_inj] at hlist
      exact hmoved hlist.symm
    · refine (usual_sited.returns_fullUrl_iff (by decide) rfl ?_
        (usual_fullUrl hspace hkept').symm).2 ⟨make Namespace.main target "" "", ?_, fun _ => ?_⟩
      · rwa [usual_prefixedKey hspace]
      · rw [usual_prefixedKey hspace, hback]
      · rw [Title.pointingAs_of_not_hasFragment rfl, hagain, hcorrected]

end WikiEntry.Wiki
