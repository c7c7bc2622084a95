import WikiEntry.Proofs.SpecialPage.Names

/-!
# What aliases stand for

A folded name stands for the last listed page with such a name. If there is none, it stands for the
last listed page with such an alias, however the page is called. An alias that is like no name and
like no alias of another page stands for its own page.
-/

namespace WikiEntry.SpecialPage

open Std Text

variable {names : TreeSet String} {configured : TreeMap String (List String)}
  {folded page spelling : String}

/-- Whether a page is configured to be called by an alias with this folded form. -/
def Called (configured : TreeMap String (List String)) (page folded : String) : Prop :=
  ∃ spelling ∈ configured.getD page [], fold spelling = folded

/-- Whether of all listed pages with aliases of one folded form `last` is the last. -/
structure LastCalled (names : TreeSet String) (configured : TreeMap String (List String))
    (folded last : String) : Prop where
  listed : last ∈ names
  called : Called configured last folded
  greatest (other : String) : other ∈ names → Called configured other folded → other ≤ last

/-- Whether a folded name stands for a page. Names come before aliases. -/
def StandsFor (names : TreeSet String) (configured : TreeMap String (List String))
    (folded page : String) : Prop :=
  Table.Last names folded page ∨
    (∀ name ∈ names, fold name ≠ folded) ∧ LastCalled names configured folded page

namespace Table

theorem mem_byAlias_iff :
    (folded, page) ∈ byAlias names configured ↔ page ∈ names ∧ Called configured page folded := by
  rw [byAlias, List.mem_flatMap]
  constructor
  · rintro ⟨⟨name, spellings⟩, hentry, hmem⟩
    dsimp only at hmem
    split at hmem
    · rename_i hlisted
      obtain ⟨spelling, hspelling, heq⟩ := List.mem_map.mp hmem
      cases heq
      refine ⟨hlisted, spelling, ?_, rfl⟩
      rwa [TreeMap.getD_eq_getD_getElem?, TreeMap.mem_toList_iff_getElem?_eq_some.mp hentry]
    · cases hmem
  · rintro ⟨hlisted, spelling, hspelling, rfl⟩
    rw [TreeMap.getD_eq_getD_getElem?] at hspelling
    cases hspellings : configured[page]? with
    | none => simp [hspellings] at hspelling
    | some spellings =>
        rw [hspellings, Option.getD_some] at hspelling
        refine ⟨(page, spellings), TreeMap.mem_toList_iff_getElem?_eq_some.mpr hspellings, ?_⟩
        have hcontains : names.contains page = true := hlisted
        dsimp only
        rw [if_pos hcontains]
        exact List.mem_map.mpr ⟨spelling, hspelling, rfl⟩

/-- Aliases are entered page by page. -/
theorem byAlias_ascending (names : TreeSet String) (configured : TreeMap String (List String)) :
    (byAlias names configured).Pairwise fun a b => a.2 < b.2 ∨ a.2 = b.2 := by
  have hpage : ∀ entry : String × List String,
      ∀ a ∈ (if names.contains entry.1 then
        entry.2.map fun spelling => (fold spelling, entry.1) else []), a.2 = entry.1 := by
    intro entry a ha
    split at ha
    · obtain ⟨spelling, -, rfl⟩ := List.mem_map.mp ha
      rfl
    · cases ha
  refine List.pairwise_flatMap.mpr ⟨fun entry _ => ?_, ?_⟩
  · exact List.pairwise_of_forall_mem_list fun a ha b hb =>
      .inr ((hpage entry a ha).trans (hpage entry b hb).symm)
  · refine TreeMap.ordered_keys_toList.imp fun {first second} h a ha b hb => .inl ?_
    rw [hpage first a ha, hpage second b hb]
    exact compareOfLessAndEq_eq_lt.mp h

theorem lookup_byAlias_eq_some_iff :
    (byAlias names configured).reverse.lookup folded = some page ↔
      LastCalled names configured folded page := by
  rw [lookup_reverse_eq_some_iff (byAlias_ascending names configured)]
  simp only [mem_byAlias_iff, ← Std.le_iff_lt_or_eq]
  constructor
  · rintro ⟨⟨hlisted, hcalled⟩, hgreatest⟩
    exact ⟨hlisted, hcalled, fun other hother hsame => hgreatest other ⟨hother, hsame⟩⟩
  · rintro ⟨hlisted, hcalled, hgreatest⟩
    exact ⟨⟨hlisted, hcalled⟩, fun other hother => hgreatest other hother.1 hother.2⟩

theorem lookup_byName_eq_none_iff :
    (byName names).reverse.lookup folded = none ↔ ∀ name ∈ names, fold name ≠ folded := by
  constructor
  · intro hnone name hname hfolds
    obtain ⟨found, hfound⟩ := exists_lookup_reverse (mem_byName_iff.mpr ⟨hname, hfolds⟩)
    rw [hnone] at hfound
    cases hfound
  · intro hfree
    rw [Option.eq_none_iff_forall_ne_some]
    exact fun name hname => hfree name (lookup_byName_eq_some_iff.mp hname).listed
      (lookup_byName_eq_some_iff.mp hname).folds

theorem aliases_ofNames_eq_some_iff :
    (ofNames names configured).aliases[folded]? = some page ↔
      StandsFor names configured folded page := by
  rw [aliases_ofNames, Option.or_eq_some_iff, lookup_byName_eq_some_iff, lookup_byName_eq_none_iff,
    lookup_byAlias_eq_some_iff, StandsFor]

end Table

/-- Whether an alias of a listed page is like no name and like no alias of another listed page. -/
structure OwnAlias (names : TreeSet String) (configured : TreeMap String (List String))
    (page spelling : String) : Prop where
  listed : page ∈ names
  entered : spelling ∈ configured.getD page []
  unlike_names : ∀ name ∈ names, fold name ≠ fold spelling
  unlike_others : ∀ other ∈ names, other ≠ page → ¬Called configured other (fold spelling)

theorem OwnAlias.standsFor (h : OwnAlias names configured page spelling) :
    StandsFor names configured (fold spelling) page := by
  refine .inr ⟨h.unlike_names, h.listed, ⟨spelling, h.entered, rfl⟩, fun other hother hcalled => ?_⟩
  have hsame : other = page := by
    by_contra hne
    exact h.unlike_others other hother hne hcalled
  exact hsame ▸ String.le_refl _

/-! ### The page to log in -/

/-- The page to log in has one alias, and no other page has any. -/
def loginCalled (spelling : String) : TreeMap String (List String) :=
  (∅ : TreeMap String (List String)).insert "Userlogin" [spelling]

theorem called_loginCalled_iff {folded : String} :
    Called (loginCalled spelling) page folded ↔ page = "Userlogin" ∧ fold spelling = folded := by
  rw [Called, loginCalled, TreeMap.getD_insert]
  by_cases hpage : page = "Userlogin"
  · simp [hpage]
  · have hne : compare "Userlogin" page ≠ .eq := fun h => hpage (Std.compare_eq_iff_eq.mp h).symm
    rw [if_neg hne]
    simp [hpage]

theorem ownAlias_loginCalled (hmark : '_' ∈ (fold spelling).toList) :
    OwnAlias (Settings.names {}) (loginCalled spelling) "Userlogin" spelling where
  listed := by
    rw [Settings.mem_names_iff]
    exact .inl (by decide)
  entered := by
    rw [loginCalled, TreeMap.getD_insert_self]
    exact List.mem_singleton_self spelling
  unlike_names name hname hsame := Settings.underscore_not_mem_fold hname (hsame ▸ hmark)
  unlike_others other _ hne hcalled := hne (called_loginCalled_iff.mp hcalled).1

end WikiEntry.SpecialPage
