import WikiEntry.Proofs.Wiki.Usual

/-!
# Two routes to a title

A text can be put into a URL in two places: at the end of an article path, or in the query of the
script. The routes cut the URL at different characters and decode what they find by different
rules; a plus sign, for one, is a space in a query only. Percent code holds none of the characters
that make a difference, so either way the request names the text itself, and the wiki reads it as
if it had been typed.
-/

namespace WikiEntry.Wiki

open Text Title

variable {w : Wiki} {a : ArticlePath} {text : String}

/-! ### What a request names

These hold whatever the surroundings of the wiki do: the request is not just read as the same
title, the same questions are asked on the way. -/

section Programs

variable {m : Type → Type} [Monad m] [LawfulMonad m] (s : Services m)

theorem titleFor_of_requestedTitle {request : Request} {x : ExceptT TitleError m Title}
    {fromPath : Option String}
    (h : w.requestedTitle s request = do return (← x.run, fromPath)) :
    w.titleFor s request = x := by
  apply ExceptT.ext
  rw [titleFor, h]
  simp

/-- The path of a text names the text. -/
theorem Sited.titleFor_path (h : w.Sited a) (hmark : '?' ∉ w.titles.articlePath.toList)
    (hne : text ≠ "") (colonBroken : Bool) :
    w.titleFor s (Request.get (w.titles.server ++
        Resolver.fill w.titles.articlePath (Percent.encode text colonBroken))) =
      (w.resolver s).parse text Namespace.main := by
  have hstart : '?' ∉ a.start := fun hmem => hmark (ArticlePath.mem_of_mem_start h.template hmem)
  have hcode : '?' ∉ Percent.encodeChars colonBroken text.toList :=
    Percent.not_mem_encodeChars (by decide) _
  have hfull : Percent.encodeChars colonBroken text.toList ≠ [] :=
    Percent.encodeChars_ne_nil (by simpa using hne)
  have hdecode : Percent.decode? (String.ofList (Percent.encodeChars colonBroken text.toList)) =
      some text := Percent.decode?_encode_self text colonBroken
  refine titleFor_of_requestedTitle s (h.requestedTitle_get s hstart hcode hfull ?_ hdecode)
  rw [Resolver.fill, Percent.encode, String.toList_append, String.toList_ofList,
    String.toList_ofList, ArticlePath.fill_of_ofTemplate h.template]

/-- The query of a text names the text. -/
theorem Sited.titleFor_query (h : w.Sited a) (hrooted : w.titles.script.toList.head? = some '/')
    (hmark : '?' ∉ w.titles.script.toList) (hne : text ≠ "") (colonBroken : Bool) :
    w.titleFor s (Request.get (w.titles.server ++ w.titles.script ++ "?title=" ++
        Percent.encode text colonBroken)) =
      (w.resolver s).parse text Namespace.main := by
  have hpiece : '&' ∉ "title=".toList ++ Percent.encodeChars colonBroken text.toList := by
    intro hmem
    rcases List.mem_append.mp hmem with hmem | hmem
    · exact absurd hmem (by decide)
    · exact Percent.not_mem_encodeChars (by decide) _ hmem
  have hurl : (w.titles.server ++ w.titles.script ++ "?title=" ++
      Percent.encode text colonBroken).toList = w.titles.server.toList ++ w.titles.script.toList ++
        '?' :: ("title=".toList ++ Percent.encodeChars colonBroken text.toList) := by
    simp [Percent.encode]
  have htyped : (Request.get (w.titles.server ++ w.titles.script ++ "?title=" ++
      Percent.encode text colonBroken)).valueD "title" "" = text := by
    rw [Request.get_of_query h.server hrooted hmark hurl, Request.valueD, Request.value?,
      Request.parameters_of_piece hpiece (by simp), Request.parameter_title, String.ofList_toList]
    simp
  exact titleFor_of_requestedTitle s (requestedTitle_of_typed s htyped hne)

end Programs

/-! ### Running wikis -/

section Running

variable {σ : Type} {i : Hook.Invoker} {table : Namespace.Table} {st : Running σ}

/-- A wiki that has kept its table of namespaces reads titles by this table, and reading leaves it
as it is. -/
theorem parse_of_kept (hkept : st.namespaces = some table) (text : String) (ns : Int) :
    ((w.resolver (w.services i)).parse text ns).run st =
      (((w.reader table).parse text ns).run, st) := by
  have htable : Matches (fun st' => st' = st) (w.services i).namespaces (pure table) := by
    refine Matches.of_run ?_
    rintro _ rfl
    exact ⟨_, OnDemand.lookUp_of_kept (t := namespaceTable σ w.namespaces) hkept, rfl⟩
  obtain ⟨hread, hst⟩ := matches_parse htable text ns st rfl
  exact Prod.ext hread hst

/-- The path of a text, the query of the text and the text itself are read as the same title, or
refused for the same reason. Whether the text is a title does not matter, nor whether its colons
are encoded in the URLs. -/
theorem routes_agree (hsite : w.Sited a) (hpath : '?' ∉ w.titles.articlePath.toList)
    (hrooted : w.titles.script.toList.head? = some '/') (hscript : '?' ∉ w.titles.script.toList)
    (hkept : st.namespaces = some table) (hne : text ≠ "") (colonBroken : Bool) :
    let code := Percent.encode text colonBroken
    let byPath := Request.get (w.titles.server ++ Resolver.fill w.titles.articlePath code)
    let byQuery := Request.get (w.titles.server ++ w.titles.script ++ "?title=" ++ code)
    let read := ((w.reader table).parse text Namespace.main).run
    ((w.resolver (w.services i)).parse text Namespace.main).run st = (read, st) ∧
      (w.titleFor (w.services i) byPath).run st = (read, st) ∧
      (w.titleFor (w.services i) byQuery).run st = (read, st) := by
  intro code byPath byQuery read
  have hread : ((w.resolver (w.services i)).parse text Namespace.main).run st = (read, st) :=
    parse_of_kept hkept text Namespace.main
  refine ⟨hread, ?_, ?_⟩
  · rw [hsite.titleFor_path (w.services i) hpath hne colonBroken]
    exact hread
  · rw [hsite.titleFor_query (w.services i) hrooted hscript hne colonBroken]
    exact hread

end Running

/-- A title with a plus sign and a question mark, both of which mean something in a URL. -/
theorem routes_agree_plus :
    let st := usualRunning { mode := .production }
    let title := make Namespace.main "C++?" "" ""
    ((usual.resolver (usual.services {})).parse "C++?" Namespace.main).run st = (.ok title, st) ∧
      (usual.titleFor (usual.services {})
        (Request.get "http://localhost/wiki/C%2B%2B%3F")).run st = (.ok title, st) ∧
      (usual.titleFor (usual.services {})
        (Request.get "http://localhost/index.php?title=C%2B%2B%3F")).run st = (.ok title, st) := by
  intro st title
  have hkept : st.namespaces = some (.plain true) := rfl
  have hread : ((usual.reader (.plain true)).parse "C++?" Namespace.main).run = .ok title :=
    usual_parse "C++?" "C++?" (by decide)
  have hcode : Percent.encode "C++?" true = "C%2B%2B%3F" := by decide
  have hpath : usual.titles.server ++ Resolver.fill usual.titles.articlePath "C%2B%2B%3F" =
      "http://localhost/wiki/C%2B%2B%3F" := by decide
  have hquery : usual.titles.server ++ usual.titles.script ++ "?title=" ++ "C%2B%2B%3F" =
      "http://localhost/index.php?title=C%2B%2B%3F" := by decide
  have hagree := routes_agree (i := {}) usual_sited (by decide) (by decide) (by decide) hkept
    (by decide : "C++?" ≠ "") true
  dsimp only at hagree
  rwa [hcode, hpath, hquery, hread] at hagree

end WikiEntry.Wiki
