import WikiEntry.Proofs.Entering
import WikiEntry.Proofs.Text.Cutting
import WikiEntry.SpecialPage.Table

/-!
# What tables of special pages find

Whatever a table finds is one of its pages. A page is found by its own name in any letter case,
whatever aliases there are, unless a page that is listed after it has the same name in another
letter case.
-/

namespace WikiEntry.SpecialPage

open Std Text

theorem Settings.mem_names_iff (settings : Settings) (name : String) :
    name ∈ settings.names ↔ name ∈ core ∨ settings.internalSearch = true ∧ name = search := by
  have hcore : name ∈ core.foldl TreeSet.insert (∅ : TreeSet String) ↔ name ∈ core := by
    simp [mem_foldl_insert]
  rw [names]
  cases settings.internalSearch with
  | false => simp [hcore]
  | true => simp [TreeSet.mem_insert, hcore, or_comm, eq_comm (a := name)]

namespace Table

/-- What a table finds belongs to it. -/
structure Coherent (table : Table) : Prop where
  contains_of_resolve? {key name : String} {sub : Option String} :
    table.resolve? key = some (name, sub) → table.contains name = true
  /-- A page is found by its own name, unless there is a subpage in it or another page goes by the
  same name. -/
  resolve?_of_contains {name : String} : table.contains name = true → '/' ∉ name.toList →
    ∃ found, table.resolve? name = some (found, none) ∧ table.contains found = true ∧
      fold found = fold name

/-- The aliases of a table in the form in which they are entered in its index. -/
def byAlias (names : TreeSet String) (configured : TreeMap String (List String)) :
    List (String × String) :=
  configured.toList.flatMap fun entry =>
    if names.contains entry.1 then entry.2.map fun spelling => (fold spelling, entry.1) else []

/-- The names of a table in the form in which they are entered in its index. -/
def byName (names : TreeSet String) : List (String × String) :=
  names.toList.map fun name => (fold name, name)

variable {names : TreeSet String} {configured : TreeMap String (List String)}

theorem aliases_ofNames (folded : String) :
    (ofNames names configured).aliases[folded]? =
      ((byName names).reverse.lookup folded).or
        ((byAlias names configured).reverse.lookup folded) := by
  have hindex : (ofNames names configured).aliases =
      (byAlias names configured ++ byName names).foldl
        (fun found entry => found.insert entry.1 entry.2) (∅ : TreeMap String String) := rfl
  rw [hindex, getElem?_foldl_enter, List.reverse_append, List.lookup_append]
  simp

theorem contains_of_mem_byAlias {folded name : String}
    (h : (folded, name) ∈ byAlias names configured) : names.contains name = true := by
  obtain ⟨⟨page, spellings⟩, -, hmem⟩ := List.mem_flatMap.mp h
  dsimp only at hmem
  split at hmem
  · obtain ⟨spelling, -, heq⟩ := List.mem_map.mp hmem
    cases heq
    assumption
  · cases hmem

/-- Whether of all listed names with one folded form `last` is the last. -/
structure Last (names : TreeSet String) (folded last : String) : Prop where
  listed : last ∈ names
  folds : fold last = folded
  greatest (other : String) : other ∈ names → fold other = folded → other ≤ last

theorem mem_byName_iff {folded name : String} :
    (folded, name) ∈ byName names ↔ name ∈ names ∧ fold name = folded := by
  rw [byName, List.mem_map]
  constructor
  · rintro ⟨page, hpage, heq⟩
    cases heq
    exact ⟨TreeSet.mem_toList.mp hpage, rfl⟩
  · rintro ⟨hname, rfl⟩
    exact ⟨name, TreeSet.mem_toList.mpr hname, rfl⟩

theorem byName_ascending (names : TreeSet String) :
    (byName names).Pairwise fun a b => a.2 < b.2 := by
  have hordered : names.toList.Pairwise fun a b => compare a b = .lt := TreeSet.ordered_toList
  exact List.pairwise_map.mpr (hordered.imp fun h => compareOfLessAndEq_eq_lt.mp h)

theorem lookup_byName_eq_some_iff {folded name : String} :
    (byName names).reverse.lookup folded = some name ↔ Last names folded name := by
  rw [lookup_reverse_eq_some_iff ((byName_ascending names).imp .inl)]
  simp only [mem_byName_iff, ← Std.le_iff_lt_or_eq]
  constructor
  · rintro ⟨⟨hlisted, hfolds⟩, hgreatest⟩
    exact ⟨hlisted, hfolds, fun other hother hsame => hgreatest other ⟨hother, hsame⟩⟩
  · rintro ⟨hlisted, hfolds, hgreatest⟩
    exact ⟨⟨hlisted, hfolds⟩, fun other hother => hgreatest other hother.1 hother.2⟩

theorem contains_of_aliases {folded name : String}
    (h : (ofNames names configured).aliases[folded]? = some name) :
    (ofNames names configured).contains name = true := by
  rw [aliases_ofNames, Option.or_eq_some_iff] at h
  rcases h with hname | ⟨-, halias⟩
  · exact (lookup_byName_eq_some_iff.mp hname).listed
  · exact contains_of_mem_byAlias (mem_of_lookup_reverse halias)

/-- Aliases have no say in what a listed name stands for. -/
theorem aliases_eq_some_iff {name found : String} (h : name ∈ names) :
    (ofNames names configured).aliases[fold name]? = some found ↔ Last names (fold name) found := by
  obtain ⟨last, hlast⟩ := exists_lookup_reverse (mem_byName_iff.mpr ⟨h, rfl⟩)
  rw [aliases_ofNames, ← lookup_byName_eq_some_iff, hlast, Option.some_or]

theorem exists_last {name : String} (h : name ∈ names) : ∃ found, Last names (fold name) found := by
  obtain ⟨found, hfound⟩ := exists_lookup_reverse (mem_byName_iff.mpr ⟨h, rfl⟩)
  exact ⟨found, lookup_byName_eq_some_iff.mp hfound⟩

theorem resolve?_of_slashless (table : Table) {name : String} (h : '/' ∉ name.toList) :
    table.resolve? name = (table.aliases[fold name]?).map fun found => (found, none) := by
  simp only [resolve?, cut?_of_not_mem h, String.ofList_toList]

/-- A listed name without a slash stands for the last of the listed names that it is a spelling
of. -/
theorem resolve?_eq_some_iff {name found : String} (hlisted : name ∈ names)
    (hslash : '/' ∉ name.toList) :
    (ofNames names configured).resolve? name = some (found, none) ↔
      Last names (fold name) found := by
  rw [resolve?_of_slashless _ hslash, Option.map_eq_some_iff]
  simp [aliases_eq_some_iff hlisted]

theorem ofNames_coherent (names : TreeSet String) (configured : TreeMap String (List String)) :
    Coherent (ofNames names configured) where
  contains_of_resolve? {key name sub} h := by
    obtain ⟨found, hfound, hpair⟩ := Option.map_eq_some_iff.mp h
    cases hpair
    exact contains_of_aliases hfound
  resolve?_of_contains {name} hname hslash := by
    obtain ⟨found, hlast⟩ := exists_last hname
    exact ⟨found, (resolve?_eq_some_iff hname hslash).mpr hlast, hlast.listed, hlast.folds⟩

/-! ### Names that are spellings of each other -/

/-- What a listed name without a slash stands for, whatever aliases there are: the last of the
listed names that are spellings of it. So it stands for itself exactly if it is that one. -/
theorem resolve?_listed (names : TreeSet String) (configured : TreeMap String (List String))
    (name : String) (hlisted : name ∈ names) (hslash : '/' ∉ name.toList) :
    (∃ found, (ofNames names configured).resolve? name = some (found, none) ∧
      Last names (fold name) found) ∧
    ((ofNames names configured).resolve? name = some (name, none) ↔
      ∀ other ∈ names, fold other = fold name → other ≤ name) := by
  constructor
  · obtain ⟨found, hlast⟩ := exists_last hlisted
    exact ⟨found, (resolve?_eq_some_iff hlisted hslash).mpr hlast, hlast⟩
  · rw [resolve?_eq_some_iff hlisted hslash]
    exact ⟨Last.greatest, fun hgreatest => ⟨hlisted, rfl, hgreatest⟩⟩

/-- The page to log in keeps its name, although the page to log out has it as an alias. -/
theorem resolve?_listed_login :
    let names : TreeSet String := (∅ : TreeSet String).insertMany ["Userlogin", "Userlogout"]
    "Userlogin" ∈ names ∧ '/' ∉ "Userlogin".toList ∧
      (ofNames names ((∅ : TreeMap String (List String)).insert "Userlogout" ["userlogin"])).resolve?
        "Userlogin" = some ("Userlogin", none) := by
  intro names
  have hlisted : "Userlogin" ∈ names := by simp [names]
  have hslash : '/' ∉ "Userlogin".toList := by decide
  refine ⟨hlisted, hslash, (resolve?_listed names _ _ hlisted hslash).2.mpr ?_⟩
  intro other hother hsame
  have hnames : other = "Userlogin" ∨ other = "Userlogout" := by simpa [names] using hother
  rcases hnames with rfl | rfl
  · exact String.le_refl _
  · exact absurd hsame (by decide)

/-- The special pages of a wiki in which handlers have listed one more page to log in. -/
def twoLogins : TreeSet String := (Settings.names {}).insert "userlogin"

/-- A listed name does not stand for itself if another page is listed under a spelling of it. -/
theorem resolve?_listed_taken :
    "Userlogin" ∈ twoLogins ∧ '/' ∉ "Userlogin".toList ∧
      (ofNames twoLogins ∅).resolve? "Userlogin" = some ("userlogin", none) := by
  have hlisted : "Userlogin" ∈ twoLogins := by
    rw [twoLogins, TreeSet.mem_insert, Settings.mem_names_iff]
    exact .inr (.inl (by decide))
  have hslash : '/' ∉ "Userlogin".toList := by decide
  refine ⟨hlisted, hslash, (resolve?_eq_some_iff hlisted hslash).mpr ⟨?_, by decide, ?_⟩⟩
  · exact TreeSet.mem_insert_self
  · -- All names that every wiki has begin with a capital letter.
    have hcore : ∀ page ∈ core, page ≤ "userlogin" := by decide +kernel
    intro other hother _
    rw [twoLogins, TreeSet.mem_insert, Settings.mem_names_iff] at hother
    rcases hother with hsame | hpage | ⟨-, rfl⟩
    · rw [Std.compare_eq_iff_eq] at hsame
      exact hsame ▸ String.le_refl _
    · exact hcore other hpage
    · decide

end Table

end WikiEntry.SpecialPage
