import WikiEntry.Proofs.Wiki.Usual

/-!
# Links lead back

The link to a page is the article path or, with a query, the script. Either way the request for
it names the prefixed key of the page, which is read as the page if its namespace is found by its
name as it is written. A table may find a namespace by its name and not by what is written for
it: blanks at the ends of a name do not count, but an underscore in place of a space does.
-/

namespace WikiEntry

open Text Title

namespace Resolver

variable {r : Resolver Id} {t : Title}

/-- Whether a title is one that links can lead back to: a page of this wiki in a namespace that is
found by its name, with a key that is stored as it is, and is not read as prefixed. -/
structure Canonical (r : Resolver Id) (t : Title) : Prop where
  here : t.isExternal = false
  whole : t.fragment = ""
  registered : r.table.contains t.ns = true
  nameless : r.table.text t.ns = "" ↔ t.ns = Namespace.main
  written : t.ns ≠ Namespace.main → ∀ c ∈ [':', '#', '\x00'], c ∉ (r.table.text t.ns).toList
  normal : t.ns ≠ Namespace.main → Key.normalize (r.spelling t.ns) = r.spelling t.ns
  found : t.ns ≠ Namespace.main → r.table.find? (r.table.text t.ns) = some t.ns
  filled : t.key ≠ ""
  tidy : Key.normalize t.key.toList = t.key.toList
  faultless : Key.fault? t.ns t.key.toList = none
  hashless : '#' ∉ t.key.toList
  capital : Namespace.isCapitalized r.capitalLinks t.ns = true →
    upperFirst t.key.toList = t.key.toList
  unprefixed : t.ns = Namespace.main → r.Unprefixed t.key.toList
  home : Namespace.isTalk t.ns = true → r.leadsAway t.key.toList = false

theorem Canonical.storable (h : r.Canonical t) : r.Storable t.ns t.key.toList := by
  obtain ⟨hsound, _⟩ := Key.fault?_eq_none_iff.1 h.faultless
  have hnul : '\x00' ∉ t.key.toList := fun hmem =>
    absurd (hsound.characters _ hmem) (by decide)
  refine ⟨⟨Key.spaced_of_normalize_eq h.tidy, h.hashless, hnul⟩, hsound, ?_, ?_⟩
  · exact fun hnil => h.filled (String.toList_eq_nil_iff.1 hnil)
  · unfold stored
    split
    · rename_i hcapital
      exact h.capital (by simpa using hcapital)
    · rfl

theorem Canonical.stable (h : r.Canonical t) : r.Stable t :=
  ⟨(Key.fault?_eq_none_iff.1 h.faultless).2, h.unprefixed, h.home⟩

theorem Canonical.spells (h : r.Canonical t) (hns : t.ns ≠ Namespace.main) : r.Spells t.ns :=
  spells_of_written (h.written hns) (h.normal hns) fun hempty => hns (h.nameless.1 hempty)

/-- A canonical title is read back from its prefixed key exactly if the name of its namespace is
found as it is written. -/
theorem Canonical.parse_prefixedKey_iff (h : r.Canonical t) :
    (r.parse (r.prefixedKey t).run Namespace.main).run = .ok t ↔
      t.ns = Namespace.main ∨ r.table.find? (String.ofList (r.spelling t.ns)) = some t.ns := by
  obtain ⟨hclean, hhead⟩ := prefixedKey_clean h.here h.storable h.spells
  rw [run_parse_of_clean hclean hhead, ← h.whole]
  constructor
  · intro hread
    by_cases hns : t.ns = Namespace.main
    · exact Or.inl hns
    · exact Or.inr (find?_of_reread h.here hns (h.spells hns) h.storable.clean hread)
  · intro hfind
    refine (reread_iff h.here h.storable fun hns => ⟨h.spells hns, ?_⟩).2 h.stable
    exact hfind.resolve_left hns

end Resolver

namespace Wiki

variable {w : Wiki} {a : ArticlePath} {table : Namespace.Table} {specials : SpecialPage.Table}
  {rewrite : Title → Title} {judge : Redirect.Snapshot → Title → Bool × Title} {t : Title}

theorem run_titleFor (s : Services Id) (request : Request) :
    (w.titleFor s request).run = (w.requestedTitle s request).run.1 := rfl

/-- A request for a page by the script, with a query, names the prefixed key of the page. -/
theorem Sited.requestedTitle_of_script (h : w.Sited a)
    (hrooted : w.titles.script.toList.head? = some '/') (hmark : '?' ∉ w.titles.script.toList)
    (hne : ((w.reader table).prefixedKey t).run.toList ≠ []) {query : List Char} {url : String}
    (hurl : url.toList = w.titles.server.toList ++ w.titles.script.toList ++
      '?' :: ("title=".toList ++ w.code table t ++ '&' :: query)) :
    (w.requestedTitle (Services.fixed table specials rewrite judge) (Request.get url)).run =
      (((w.reader table).parse ((w.reader table).prefixedKey t).run Namespace.main).run, none) := by
  have hpiece : '&' ∉ "title=".toList ++ w.code table t := by
    intro hmem
    rcases List.mem_append.1 hmem with hmem | hmem
    · exact absurd hmem (by decide)
    · exact not_mem_code (by decide) t hmem
  have hparameter : Request.parameter ("title=".toList ++ w.code table t) =
      ("title", ((w.reader table).prefixedKey t).run) := by
    rw [code, Request.parameter_title, String.ofList_toList]
  have htyped : (Request.get url).valueD "title" "" = ((w.reader table).prefixedKey t).run := by
    rw [Request.get_of_query h.server hrooted hmark hurl, Request.valueD, Request.value?,
      Request.parameters_append_cons hpiece (by simp), hparameter]
    simp
  rw [requestedTitle_of_typed _ htyped (by simpa using hne)]
  rfl

/-- A request for a link names the prefixed key of the page, whatever the query. -/
theorem Sited.run_titleFor_fullUrl (h : w.Sited a) (hquery : '?' ∉ w.titles.articlePath.toList)
    (hrooted : w.titles.script.toList.head? = some '/') (hmark : '?' ∉ w.titles.script.toList)
    (hlocal : t.isExternal = false) (hwhole : t.fragment = "")
    (hne : ((w.reader table).prefixedKey t).run.toList ≠ []) (query : String) :
    (w.titleFor (Services.fixed table specials rewrite judge)
        (Request.get ((w.reader table).fullUrl t query).run)).run =
      ((w.reader table).parse ((w.reader table).prefixedKey t).run Namespace.main).run := by
  have htail : (w.reader table).tail t = [] := by
    rw [Resolver.tail, Title.hasFragment, hwhole]
    rfl
  rw [run_titleFor]
  by_cases hnone : query = ""
  · have hstart : '?' ∉ a.start := fun hmem => hquery (ArticlePath.mem_of_mem_start h.template hmem)
    have hpage : ((w.reader table).fullUrl t query).run.toList =
        w.titles.server.toList ++ (a.start ++ w.code table t) := by
      rw [hnone, h.toList_fullUrl hlocal, htail, List.append_nil]
    rw [h.requestedTitle_page hstart hne hpage]
  · have hscript : ((w.reader table).fullUrl t query).run.toList =
        w.titles.server.toList ++ w.titles.script.toList ++
          '?' :: ("title=".toList ++ w.code table t ++ '&' :: query.toList) := by
      have hempty : query.isEmpty = false := by simpa using hnone
      rw [Resolver.run_fullUrl_of_local hlocal, hempty, htail, toList_encode_prefixedKey]
      simp [reader]
    rw [h.requestedTitle_of_script hrooted hmark hne hscript]

/-! ### Running wikis -/

section Running

variable {σ : Type} {i : Hook.Invoker}

/-- What a link names in a wiki without handlers is what its prefixed key is read as. -/
theorem Quiet.titleFor_fullUrl (hdepth : 0 < i.depth) (hsite : w.Sited a)
    (hquery : '?' ∉ w.titles.articlePath.toList)
    (hrooted : w.titles.script.toList.head? = some '/') (hmark : '?' ∉ w.titles.script.toList)
    {st : Running σ} (hst : w.Quiet table specials st) (ht : (w.reader table).Canonical t)
    (query : String) :
    let link := (w.resolver (w.services i)).fullUrl t query st
    ((w.titleFor (w.services i) (Request.get link.1)).run link.2).1 =
      ((w.reader table).parse ((w.reader table).prefixedKey t).run Namespace.main).run := by
  intro link
  have hne : ((w.reader table).prefixedKey t).run.toList ≠ [] :=
    prefixedKey_ne_nil (Or.inl (by simpa using ht.filled))
  have hsettled : w.Settled i (w.Quiet table specials : Running σ → Prop) table specials id
      fun _ title => (true, title) := Quiet.settled w hdepth
  have hfollows := hsettled.follows
  obtain ⟨hwritten, hkept⟩ := matches_fullUrl hfollows.namespaces t query st hst
  have hread := (hfollows.titleFor w (Request.get link.1) link.2 hkept).1
  have hurl : link.1 = ((w.reader table).fullUrl t query).run := hwritten
  rw [hread, hurl]
  exact hsite.run_titleFor_fullUrl hquery hrooted hmark ht.here ht.whole hne query

/-- A link of a wiki without handlers, with or without a query, leads back to its page exactly if
the page is in the main namespace or the name of its namespace is found as it is written. -/
theorem titleFor_fullUrl_iff (hdepth : 0 < i.depth) (hsite : w.Sited a)
    (hquery : '?' ∉ w.titles.articlePath.toList)
    (hrooted : w.titles.script.toList.head? = some '/') (hmark : '?' ∉ w.titles.script.toList)
    (st : Running σ) (hst : w.Quiet table specials st) (t : Title)
    (ht : (w.reader table).Canonical t) (query : String) :
    let link := (w.resolver (w.services i)).fullUrl t query st
    ((w.titleFor (w.services i) (Request.get link.1)).run link.2).1 = .ok t ↔
      t.ns = Namespace.main ∨
        table.find? (String.ofList ((w.reader table).spelling t.ns)) = some t.ns := by
  intro link
  rw [hst.titleFor_fullUrl hdepth hsite hquery hrooted hmark ht query]
  exact ht.parse_prefixedKey_iff

end Running

/-- A word is the key of a canonical title outside the main namespace and outside of talk. -/
theorem canonical_word {ns : Int} {name word : String} (hns : ns ≠ Namespace.main)
    (hsubject : Namespace.isTalk ns = false) (hspace : ' ' ∉ word.toList)
    (hregistered : table.contains ns = true ∧ table.text ns = name)
    (hname : name ≠ "" ∧ ':' ∉ name.toList ∧ '#' ∉ name.toList ∧ '\x00' ∉ name.toList ∧
      Key.normalize (exchange ' ' '_' name.toList) = exchange ' ' '_' name.toList)
    (hfound : table.find? name = some ns)
    (hword : word ≠ "" ∧ Key.normalize word.toList = word.toList ∧
      Key.fault? ns word.toList = none ∧ '#' ∉ word.toList ∧
      upperFirst word.toList = word.toList) :
    (w.reader table).Canonical (make ns word "" "") := by
  obtain ⟨hcontains, rfl⟩ := hregistered
  obtain ⟨hfull, hcolon, hhashless, hnul, hnormal⟩ := hname
  obtain ⟨hne, htidy, hfaultless, hhash, hcapital⟩ := hword
  have hkey : (make ns word "" "").key = word := by
    rw [make_key, exchange_of_not_mem hspace, String.ofList_toList]
  exact
    { here := rfl
      whole := rfl
      registered := hcontains
      nameless := ⟨fun h => absurd h hfull, fun h => absurd h hns⟩
      written := fun _ => by simpa using ⟨hcolon, hhashless, hnul⟩
      normal := fun _ => hnormal
      found := fun _ => hfound
      filled := by rwa [hkey]
      tidy := by rwa [hkey]
      faultless := by rwa [hkey]
      hashless := by rwa [hkey]
      capital := fun _ => by rwa [hkey]
      unprefixed := fun h => absurd h hns
      home := fun h => absurd (hsubject.symm.trans h) Bool.false_ne_true }

/-- The link to edit a help page names the help page. -/
theorem titleFor_fullUrl_help :
    let link := (usual.resolver (usual.services {})).fullUrl (make 12 "Bar" "" "") "action=edit"
      (usualRunning { mode := .production })
    ((usual.titleFor (usual.services {}) (Request.get link.1)).run link.2).1 =
      .ok (make 12 "Bar" "" "") := by
  have hquiet : usual.Quiet (.plain true) usualPages (usualRunning { mode := .production }) :=
    ⟨fun _ => rfl, Or.inl rfl, Or.inl rfl⟩
  have hfind : (Namespace.Table.plain true).find? "Help" = some 12 :=
    Namespace.Table.find?_plain (by decide) (by decide)
  have hcanonical : (usual.reader (.plain true)).Canonical (make 12 "Bar" "" "") :=
    canonical_word (by decide) (by decide) (by decide) (by decide) (by decide)
      hfind (by decide)
  have hspelling : String.ofList ((usual.reader (.plain true)).spelling 12) = "Help" := by
    decide
  refine (titleFor_fullUrl_iff (i := {}) (by decide) usual_sited (by decide) (by decide) (by decide)
    _ hquiet _ hcanonical "action=edit").2 (Or.inr ?_)
  rw [make_ns, hspelling, hfind]

/-- The usual wiki with a namespace whose name starts with a tabulator and a space. -/
def tabbed : Wiki := { usual with
  namespaces := ⟨∅, (∅ : Std.TreeMap Int String).insert 100 "\t foo", true⟩ }

/-- The namespaces of `tabbed`. -/
def tabbedNames : Namespace.Table := .ofNames tabbed.namespaces.names

/-- A namespace that is found by its name need not be found by what links write for it. -/
theorem titleFor_fullUrl_tabbed :
    tabbed.Sited usualPath ∧ (tabbed.reader tabbedNames).Canonical (make 100 "Bar" "" "") ∧
      let st : Running Unit := { world := { registry := { mode := .production }, memory := () } }
      let link := (tabbed.resolver (tabbed.services {})).fullUrl (make 100 "Bar" "" "") "" st
      ((tabbed.titleFor (tabbed.services {}) (Request.get link.1)).run link.2).1 ≠
        .ok (make 100 "Bar" "" "") := by
  have hfind : tabbedNames.find? "\t foo" = some 100 ∧ tabbedNames.find? "\t_foo" ≠ some 100 := by
    decide +kernel
  have hcanonical : (tabbed.reader tabbedNames).Canonical (make 100 "Bar" "" "") :=
    canonical_word (by decide) (by decide) (by decide) (by decide) (by decide)
      hfind.1 (by decide)
  have hsite : tabbed.Sited usualPath :=
    ⟨rfl, rfl, usual_sited.template, usual_sited.rooted, usual_sited.server⟩
  refine ⟨hsite, hcanonical, fun hread => ?_⟩
  have hquiet : tabbed.Quiet tabbedNames usualPages
      ({ world := { registry := { mode := .production }, memory := () } } : Running Unit) :=
    ⟨fun _ => rfl, Or.inr ⟨rfl, rfl⟩, Or.inr ⟨rfl, rfl⟩⟩
  rw [hquiet.titleFor_fullUrl (by decide) hsite (by decide) (by decide) (by decide) hcanonical "",
    hcanonical.parse_prefixedKey_iff] at hread
  have hspelling : String.ofList ((tabbed.reader tabbedNames).spelling 100) = "\t_foo" := by
    decide
  rcases hread with hmain | hspelled
  · exact absurd hmain (by decide)
  · rw [make_ns, hspelling] at hspelled
    exact hfind.2 hspelled

end Wiki

end WikiEntry
