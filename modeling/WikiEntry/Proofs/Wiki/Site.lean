import WikiEntry.Proofs.Redirect.Deciding
import WikiEntry.Proofs.Request.Split

/-!
# Links of a wiki

A wiki that reads titles out of paths writes the URL of a page as the server, the start of the
article path and the prefixed key in percent code. A request for such a URL comes apart again at
these boundaries, and names what was written.
-/

namespace WikiEntry

open Text

namespace ArticlePath

variable {a : ArticlePath} {template : String}

theorem toList_of_ofTemplate (h : ofTemplate template = .ok a) :
    cutWord? ['$', '1'] template.toList = some (a.start, []) ∧ a.start.getLast? = some '/' := by
  unfold ofTemplate at h
  split at h
  · cases h
  · rename_i start rest hcut
    split at h
    · cases h
    · rename_i hmatch
      cases h
      rw [not_or, Classical.not_not, Classical.not_not] at hmatch
      exact ⟨hmatch.1 ▸ hcut, hmatch.2⟩

theorem fill_of_ofTemplate (h : ofTemplate template = .ok a) (value : List Char) :
    fill value template.toList = a.start ++ value := by
  rw [fill_of_cutWord? value (toList_of_ofTemplate h).1, fill, List.append_nil]

theorem mem_of_mem_start (h : ofTemplate template = .ok a) {c : Char} (hc : c ∈ a.start) :
    c ∈ template.toList := by
  rw [cutWord?_eq_some (toList_of_ofTemplate h).1]
  exact List.mem_append_left _ (List.mem_append_left _ hc)

theorem match?_append {value : List Char} (h : value ≠ []) :
    a.match? (String.ofList (a.start ++ value)) = some (String.ofList value) := by
  rw [match?, String.toList_ofList, after?_append]
  cases value with
  | nil => exact absurd rfl h
  | cons c rest => rfl

end ArticlePath

namespace Wiki

variable {w : Wiki} {a : ArticlePath} {table : Namespace.Table} {specials : SpecialPage.Table}
  {rewrite : Title → Title} {judge : Redirect.Snapshot → Title → Bool × Title} {t : Title}

/-- Whether the wiki reads titles out of the paths of its server, by the article path `a`. -/
structure Sited (w : Wiki) (a : ArticlePath) : Prop where
  pathInfo : w.usePathInfo = true
  articlePath : w.articlePath = some a
  template : ArticlePath.ofTemplate w.titles.articlePath = .ok a
  rooted : w.titles.articlePath.toList.head? = some '/'
  server : Request.IsServer w.titles.server.toList

theorem Sited.start_head? (h : w.Sited a) : a.start.head? = some '/' := by
  have hrooted := h.rooted
  obtain ⟨hcut, hlast⟩ := ArticlePath.toList_of_ofTemplate h.template
  rw [cutWord?_eq_some hcut, List.append_nil] at hrooted
  cases hstart : a.start with
  | nil =>
      rw [hstart] at hlast
      cases hlast
  | cons c rest =>
      rw [hstart] at hrooted
      exact hrooted

/-- The prefixed key of a title in percent code. -/
def code (w : Wiki) (table : Namespace.Table) (t : Title) : List Char :=
  Percent.encodeChars w.titles.colonEncodingBroken ((w.reader table).prefixedKey t).run.toList

theorem toList_encode_prefixedKey (t : Title) :
    ((w.reader table).encode ((w.reader table).prefixedKey t).run).toList = w.code table t := by
  rw [Resolver.encode, Percent.encode, String.toList_ofList]
  rfl

/-- The URL of a page of this wiki. -/
theorem Sited.toList_fullUrl (h : w.Sited a) (hlocal : t.isExternal = false) :
    ((w.reader table).fullUrl t "").run.toList =
      w.titles.server.toList ++ (a.start ++ w.code table t ++ (w.reader table).tail t) := by
  rw [Resolver.run_fullUrl_of_local hlocal, toList_encode_prefixedKey]
  have hfill : fill (w.code table t) (w.reader table).settings.articlePath.toList =
      a.start ++ w.code table t := ArticlePath.fill_of_ofTemplate h.template _
  have hempty : "".isEmpty = true := rfl
  rw [if_pos hempty, hfill]
  simp [reader]

/-! ### What a link says -/

/-- The text that the URL of a page is read as: the prefixed key and the fragment. -/
def said (w : Wiki) (table : Namespace.Table) (t : Title) : List Char :=
  ((w.reader table).prefixedKey t).run.toList ++
    if t.hasFragment then '#' :: exchange ' ' '_' t.fragment.toList else []

theorem decode?_code_tail (t : Title) :
    Percent.decode? (String.ofList (w.code table t ++ (w.reader table).tail t)) =
      some (String.ofList (w.said table t)) := by
  unfold code said Resolver.tail
  cases t.hasFragment with
  | false =>
      rw [if_neg Bool.false_ne_true, if_neg Bool.false_ne_true, List.append_nil, List.append_nil,
        Percent.decode?_encodeChars]
  | true =>
      rw [if_pos rfl, if_pos rfl, Resolver.encode, Percent.encode, String.toList_ofList,
        String.toList_ofList]
      exact Percent.decode?_encodeChars_append (by decide) _ _

theorem prefixedKey_ne_nil (h : t.key.isEmpty = false ∨ t.ns ≠ Namespace.main) :
    ((w.reader table).prefixedKey t).run.toList ≠ [] := by
  rw [Resolver.run_prefixedKey, String.toList_ofList]
  intro hnil
  obtain ⟨hlead, hkey⟩ := List.append_eq_nil_iff.1 hnil
  rcases h with hfull | hns
  · rw [String.toList_eq_nil_iff.1 hkey] at hfull
    exact absurd hfull (by decide)
  · rw [Resolver.lead, if_neg hns] at hlead
    simp [exchange] at hlead

theorem code_ne_nil (h : ((w.reader table).prefixedKey t).run.toList ≠ []) :
    w.code table t ≠ [] :=
  Percent.encodeChars_ne_nil h

theorem not_mem_code {c : Char} (hc : c ∈ ['?', '#', '&', '=', '+', ' ']) (t : Title) :
    c ∉ w.code table t :=
  Percent.not_mem_encodeChars hc _

theorem question_not_mem_tail (t : Title) : '?' ∉ (w.reader table).tail t := by
  unfold Resolver.tail
  split
  · rw [Resolver.encode, Percent.encode, String.toList_ofList]
    intro hmem
    rcases List.mem_cons.1 hmem with heq | hmem
    · exact absurd heq (by decide)
    · exact Percent.not_mem_encodeChars (by decide) _ hmem
  · simp

/-! ### Requests for links -/

section Requests

variable {value : List Char} {url text : String}

theorem Sited.get_of_path (h : w.Sited a) (hstart : '?' ∉ a.start) (hvalue : '?' ∉ value)
    (hurl : url.toList = w.titles.server.toList ++ (a.start ++ value)) :
    Request.get url = ⟨"GET", w.titles.server, String.ofList (a.start ++ value), "", []⟩ := by
  have hhead : (a.start ++ value).head? = some '/' := by
    rw [List.head?_append, h.start_head?]
    rfl
  rw [Request.get_of_path h.server hhead (by simp [hstart, hvalue]) hurl, String.ofList_toList]

theorem Sited.pathPart?_of_path (h : w.Sited a) (hstart : '?' ∉ a.start) (hvalue : '?' ∉ value)
    (hne : value ≠ []) (hurl : url.toList = w.titles.server.toList ++ (a.start ++ value)) :
    w.pathPart? (Request.get url) = some (String.ofList value) := by
  rw [h.get_of_path hstart hvalue hurl, pathPart?, h.pathInfo, h.articlePath]
  change ArticlePath.match? a _ = _
  exact ArticlePath.match?_append hne

/-- A request with a `title` parameter names the text of the parameter. -/
theorem requestedTitle_of_typed {m : Type → Type} [Monad m] (s : Services m) {request : Request}
    (htyped : request.valueD "title" "" = text) (hne : text ≠ "") :
    w.requestedTitle s request = do
      return (← ((w.resolver s).parse text Namespace.main).run, none) := by
  have hfull : (!text.isEmpty) = true := by simpa using hne
  unfold requestedTitle
  rw [htyped]
  dsimp only
  rw [if_pos hfull]

/-- A request for an article path names what stands after its start. -/
theorem Sited.requestedTitle_get {m : Type → Type} [Monad m] (s : Services m) (h : w.Sited a)
    (hstart : '?' ∉ a.start) (hvalue : '?' ∉ value) (hne : value ≠ [])
    (hurl : url.toList = w.titles.server.toList ++ (a.start ++ value))
    (hdecode : Percent.decode? (String.ofList value) = some text) :
    w.requestedTitle s (Request.get url) = do
      return (← ((w.resolver s).parse text Namespace.main).run, some text) := by
  have htyped : (Request.get url).valueD "title" "" = "" := by
    rw [h.get_of_path hstart hvalue hurl]
    rfl
  unfold requestedTitle
  rw [htyped, h.pathPart?_of_path hstart hvalue hne hurl]
  dsimp only
  rw [hdecode]
  rfl

theorem Sited.requestedTitle_of_path (h : w.Sited a) (hstart : '?' ∉ a.start)
    (hvalue : '?' ∉ value) (hne : value ≠ [])
    (hurl : url.toList = w.titles.server.toList ++ (a.start ++ value))
    (hdecode : Percent.decode? (String.ofList value) = some text) :
    (w.requestedTitle (Services.fixed table specials rewrite judge) (Request.get url)).run =
      (((w.reader table).parse text Namespace.main).run, some text) := by
  rw [h.requestedTitle_get _ hstart hvalue hne hurl hdecode]
  rfl

theorem Sited.snapshot_of_path (h : w.Sited a) (hstart : '?' ∉ a.start) (hvalue : '?' ∉ value)
    (hurl : url.toList = w.titles.server.toList ++ (a.start ++ value)) :
    snapshot (Request.get url) (some text) = ⟨"GET", url, some text, "view", []⟩ := by
  have hfull : (Request.get url).fullUrl = url := by
    rw [h.get_of_path hstart hvalue hurl, Request.fullUrl]
    rw [← String.toList_inj, hurl]
    simp
  have hmethod : Request.upperAscii "GET" = "GET" := by decide
  unfold snapshot Redirect.Snapshot.ofRequest
  rw [hfull, h.get_of_path hstart hvalue hurl]
  dsimp only
  rw [hmethod]
  rfl

/-- The title part of a URL ends before the fragment. -/
theorem Sited.titlePart?_eq (h : w.Sited a) (hstart : '#' ∉ a.start) (hvalue : '#' ∉ value)
    (hne : value ≠ []) {tail : List Char} (htail : tail = [] ∨ tail.head? = some '#')
    (hurl : url.toList = w.titles.server.toList ++ (a.start ++ value ++ tail)) :
    (w.still table specials rewrite judge).titlePart? url = some (String.ofList value) := by
  have hcut : (a.start ++ value ++ tail).takeWhile (fun c => decide (c ≠ '#')) =
      a.start ++ value := by
    have hfree : '#' ∉ a.start ++ value := by simp [hstart, hvalue]
    rcases htail with rfl | hhead
    · rw [List.append_nil, takeWhile_ne_of_not_mem hfree]
    · obtain ⟨rest, rfl⟩ := List.head?_eq_some_iff.1 hhead
      exact takeWhile_ne_append hfree rest
  have hpath : (w.still table specials rewrite judge).articlePath = some a := h.articlePath
  unfold Redirect.Canonical.titlePart?
  rw [hpath, hurl]
  change (after? w.titles.server.toList _ >>= fun path => _) = _
  rw [after?_append]
  change ArticlePath.match? a _ = _
  rw [hcut, ArticlePath.match?_append hne]

end Requests

/-! ### Pages

The URL of a page names the prefixed key of the page. -/

/-- A request for the URL of a page, without the fragment, names the prefixed key of the page. -/
theorem Sited.requestedTitle_page (h : w.Sited a) (hquery : '?' ∉ a.start)
    (hne : ((w.reader table).prefixedKey t).run.toList ≠ []) {page : String}
    (hpage : page.toList = w.titles.server.toList ++ (a.start ++ w.code table t)) :
    (w.requestedTitle (Services.fixed table specials rewrite judge) (Request.get page)).run =
      (((w.reader table).parse ((w.reader table).prefixedKey t).run Namespace.main).run,
        some ((w.reader table).prefixedKey t).run) := by
  have hdecode : Percent.decode? (String.ofList (w.code table t)) =
      some ((w.reader table).prefixedKey t).run := by
    rw [code, Percent.decode?_encodeChars, String.ofList_toList]
  exact h.requestedTitle_of_path hquery (not_mem_code (by decide) t) (code_ne_nil hne) hpage hdecode

/-- A redirect to a page of this wiki comes back if the prefixed key does. -/
theorem Sited.returns_fullUrl_iff (h : w.Sited a) (hhash : '#' ∉ a.start)
    (hlocal : t.isExternal = false) (hne : ((w.reader table).prefixedKey t).run.toList ≠ [])
    {url : String} (hurl : url = ((w.reader table).fullUrl t "").run) :
    ((w.still table specials rewrite judge).returns t url).run = .ok true ↔
      ∃ found,
        ((w.reader table).parse ((w.reader table).prefixedKey t).run Namespace.main).run =
          .ok found ∧
        comesTo specials judge (w.replay table t url) (found.pointingAs t) t := by
  have htail : (w.reader table).tail t = [] ∨ ((w.reader table).tail t).head? = some '#' := by
    unfold Resolver.tail
    split
    · exact Or.inr rfl
    · exact Or.inl rfl
  have hwritten : url.toList = w.titles.server.toList ++
      (a.start ++ w.code table t ++ (w.reader table).tail t) :=
    hurl ▸ h.toList_fullUrl hlocal
  have hpart : (w.still table specials rewrite judge).titlePart? url =
      some (String.ofList (w.code table t)) :=
    h.titlePart?_eq hhash (not_mem_code (by decide) t) (code_ne_nil hne) htail hwritten
  have hdecode : Percent.decode? (String.ofList (w.code table t)) =
      some ((w.reader table).prefixedKey t).run := by
    rw [code, Percent.decode?_encodeChars, String.ofList_toList]
  exact run_returns_iff hpart hdecode

end Wiki

end WikiEntry
