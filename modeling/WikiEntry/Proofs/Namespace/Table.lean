import WikiEntry.Namespace.Table
import WikiEntry.Proofs.Entering
import WikiEntry.Proofs.Text.LetterCase

/-!
# What tables of namespaces find

A table that was made from names finds only namespaces that it has, and it finds the same
namespace for a name in small letters. Its lists and its index all tell of the same names: a
spelling finds the last namespace that it is a name of, and an alias only what has no such name.
-/

namespace WikiEntry.Namespace

open Std Text

/-! ### Small letters -/

theorem not_isWordChar_space : isWordChar ' ' = false := by decide

theorem fold_lower {name : List Char} (h : ' ' ∉ name) :
    fold (String.ofList (lower name)) = fold (String.ofList name) := by
  have htrim : ' ' ∉ trimBlanks name := by
    obtain ⟨front, back, hname, _⟩ := exists_trimBlanks name
    intro hmem
    rw [hname] at h
    exact h (List.mem_append_left _ (List.mem_append_right _ hmem))
  have hlower : ' ' ∉ lower (trimBlanks name) := fun hmem =>
    htrim (mem_of_mem_lower hmem not_isWordChar_space)
  rw [fold, fold, String.toList_ofList, String.toList_ofList, trimBlanks_lower,
    exchange_of_not_mem hlower, exchange_of_not_mem htrim, lower_lower]

theorem Table.find?_lower (table : Table) {name : List Char} (h : ' ' ∉ name) :
    table.find? (String.ofList (lower name)) = table.find? (String.ofList name) := by
  rw [find?, find?, fold_lower h]

/-! ### Names from several sources -/

theorem nodup_builtin : (builtin.map (·.1)).Nodup := by decide

theorem nodup_aliases : (aliases.map (·.1)).Nodup := by decide

theorem Settings.getElem?_names (settings : Settings) (ns : Int) :
    settings.names[ns]? =
      settings.extra[ns]?.or (settings.extension[ns]?.or (builtin.lookup ns)) := by
  rw [names, getElem?_foldl_enter_toList, getElem?_foldl_enter_toList, getElem?_foldl_enter,
    lookup_reverse nodup_builtin]
  simp

/-! ### What belongs to a table -/

namespace Table

/-- The name of a namespace, if it has one that is not empty, in the form in which names are
compared. -/
def folded? (table : Table) (ns : Int) : Option String :=
  (table.name? ns).bind fun name => if name = "" then none else some (fold name)

/-- The lists and the index of a table all tell of the same names. -/
structure Coherent (table : Table) : Prop where
  contains_iff (ns : Int) : table.contains ns = true ↔ ∃ name, table.name? ns = some name
  mem_numbers_iff (ns : Int) : ns ∈ table.numbers ↔ ∃ name, table.name? ns = some name
  mem_storable_iff (ns : Int) :
    ns ∈ table.storable ↔ 0 ≤ ns ∧ ∃ name, table.name? ns = some name
  numbers_ascending : table.numbers.Pairwise (· < ·)
  storable_ascending : table.storable.Pairwise (· < ·)
  /-- A spelling finds the last namespace that it is a name of, and an alias what it stands for if
  it is not a name. -/
  find?_eq_some_iff (name : String) (ns : Int) :
    table.find? name = some ns ↔
      (table.folded? ns = some (fold name) ∧
        ∀ other, table.folded? other = some (fold name) → other ≤ ns) ∨
      ((∀ other, table.folded? other ≠ some (fold name)) ∧ (fold name, ns) ∈ aliases ∧
        ∃ name, table.name? ns = some name)

/-- The names of a table in the form in which they are entered in its index. -/
def named (names : TreeMap Int String) : List (String × Int) :=
  names.toList.filterMap fun entry =>
    if entry.2.isEmpty then none else some (fold entry.2, entry.1)

/-- The aliases in the index of a table. -/
def known (names : TreeMap Int String) : List (String × Int) :=
  aliases.filter fun a => names.contains a.2

theorem mem_named_iff {names : TreeMap Int String} {folded : String} {ns : Int} :
    (folded, ns) ∈ named names ↔ (ofNames names).folded? ns = some folded := by
  rw [named, folded?, name?, ofNames, List.mem_filterMap, Option.bind_eq_some_iff]
  constructor
  · rintro ⟨⟨number, name⟩, hentry, hfolded⟩
    simp only [String.isEmpty_iff, ite_eq_iff, reduceCtorEq, and_false, false_or,
      Option.some.injEq, Prod.mk.injEq] at hfolded
    obtain ⟨hname, rfl, rfl⟩ := hfolded
    exact ⟨name, TreeMap.mem_toList_iff_getElem?_eq_some.mp hentry, if_neg hname⟩
  · rintro ⟨name, hname, hfolded⟩
    refine ⟨(ns, name), TreeMap.mem_toList_iff_getElem?_eq_some.mpr hname, ?_⟩
    simp only [ite_eq_iff, reduceCtorEq, and_false, false_or, Option.some.injEq] at hfolded
    simp [hfolded]

theorem named_ascending (names : TreeMap Int String) :
    (named names).Pairwise fun a b => a.2 < b.2 := by
  refine List.Pairwise.filterMap _ ?_ TreeMap.ordered_keys_toList
  intro a b hab c hc d hd
  simp only [ite_eq_iff, reduceCtorEq, and_false, false_or, Option.some.injEq] at hc hd
  rw [← hc.2, ← hd.2]
  exact Int.compare_eq_lt.mp hab

theorem mem_known_iff {names : TreeMap Int String} {folded : String} {ns : Int} :
    (folded, ns) ∈ known names ↔
      (folded, ns) ∈ aliases ∧ ∃ name, (ofNames names).name? ns = some name := by
  rw [known, List.mem_filter, TreeMap.contains_eq_isSome_getElem?, Option.isSome_iff_exists]
  rfl

theorem nodup_known (names : TreeMap Int String) : ((known names).map (·.1)).Nodup :=
  nodup_aliases.sublist (List.filter_sublist.map _)

theorem find?_ofNames (names : TreeMap Int String) (name : String) :
    (ofNames names).find? name =
      ((named names).reverse.lookup (fold name)).or ((known names).lookup (fold name)) := by
  have hindex : (ofNames names).find? name =
      ((known names ++ named names).foldl (fun found entry => found.insert entry.1 entry.2)
        (∅ : TreeMap String Int))[fold name]? := rfl
  rw [hindex, getElem?_foldl_enter, List.reverse_append, List.lookup_append,
    lookup_reverse (nodup_known names)]
  simp

theorem lookup_named_eq_none_iff {names : TreeMap Int String} {folded : String} :
    (named names).reverse.lookup folded = none ↔
      ∀ ns, (ofNames names).folded? ns ≠ some folded := by
  simp only [List.lookup_eq_none_iff, List.mem_reverse, ← mem_named_iff, bne_iff_ne, ne_eq]
  constructor
  · exact fun h ns hmem => h _ hmem rfl
  · rintro h ⟨other, ns⟩ hmem rfl
    exact h ns hmem

theorem ofNames_coherent (names : TreeMap Int String) : Coherent (ofNames names) where
  contains_iff ns := by
    rw [contains, TreeMap.contains_eq_isSome_getElem?, Option.isSome_iff_exists]
    rfl
  mem_numbers_iff ns := by
    rw [numbers, TreeMap.mem_keys, TreeMap.mem_iff_isSome_getElem?, Option.isSome_iff_exists]
    rfl
  mem_storable_iff ns := by
    rw [storable, List.mem_filter, numbers, TreeMap.mem_keys, TreeMap.mem_iff_isSome_getElem?,
      Option.isSome_iff_exists, and_comm, decide_eq_true_eq]
    rfl
  numbers_ascending := TreeMap.ordered_keys.imp fun h => Int.compare_eq_lt.mp h
  storable_ascending :=
    (TreeMap.ordered_keys.imp fun h => Int.compare_eq_lt.mp h).sublist List.filter_sublist
  find?_eq_some_iff name ns := by
    rw [find?_ofNames, Option.or_eq_some_iff,
      lookup_reverse_eq_some_iff ((named_ascending names).imp .inl), lookup_named_eq_none_iff,
      lookup_eq_some_iff_mem (nodup_known names), mem_known_iff]
    simp only [mem_named_iff, ← Int.le_iff_lt_or_eq]

/-- Only namespaces that a table has are found in it. -/
theorem contains_of_find? {names : TreeMap Int String} {name : String} {ns : Int}
    (h : (ofNames names).find? name = some ns) : (ofNames names).contains ns = true := by
  rw [(ofNames_coherent names).contains_iff]
  rcases ((ofNames_coherent names).find?_eq_some_iff name ns).mp h with ⟨hnamed, -⟩ | ⟨-, -, hname⟩
  · obtain ⟨text, htext, -⟩ := Option.bind_eq_some_iff.mp hnamed
    exact ⟨text, htext⟩
  · exact hname

/-! ### What a spelling finds -/

/-- The greatest number of a namespace that is called `name` in some spelling. -/
def bearer? (table : Table) (name : String) : Option Int :=
  (table.numbers.filter fun ns => table.folded? ns = some (fold name)).max?

/-- The namespace that was called `name`, in some spelling, if the table has it. -/
def aliased? (table : Table) (name : String) : Option Int :=
  (aliases.lookup (fold name)).filter table.contains

/-- A spelling finds exactly the namespaces it should, whatever names collide. -/
structure Exact (table : Table) : Prop where
  /-- The last namespace of the name is found, and without one an alias counts. -/
  find?_eq (name : String) : table.find? name = (table.bearer? name).or (table.aliased? name)
  bearer?_eq_some_iff (name : String) (ns : Int) :
    table.bearer? name = some ns ↔
      table.folded? ns = some (fold name) ∧
        ∀ other, table.folded? other = some (fold name) → other ≤ ns
  contains_of_find? {name : String} {ns : Int} :
    table.find? name = some ns → table.contains ns = true
  /-- An alias never takes the place of a name. -/
  find?_of_folded? {name : String} {ns : Int} : table.folded? ns = some (fold name) →
    ∃ found, table.find? name = some found ∧ table.folded? found = some (fold name)
  /-- If no two names are spellings of each other, every name finds its namespace. -/
  find?_of_distinct :
    (∀ ns other folded, table.folded? ns = some folded → table.folded? other = some folded →
      ns = other) →
    ∀ ns name, table.name? ns = some name → name ≠ "" → table.find? name = some ns

variable {table : Table} {name : String} {ns : Int}

theorem folded?_of_name? (h : table.name? ns = some name) (hne : name ≠ "") :
    table.folded? ns = some (fold name) := by
  rw [folded?, h, Option.bind_some, if_neg hne]

theorem exists_name?_of_folded? {folded : String} (h : table.folded? ns = some folded) :
    ∃ name, table.name? ns = some name := by
  obtain ⟨name, hname, -⟩ := Option.bind_eq_some_iff.mp h
  exact ⟨name, hname⟩

theorem folded?_of_text_eq_empty (h : table.text ns = "") : table.folded? ns = none := by
  rw [folded?]
  cases hname : table.name? ns with
  | none => rfl
  | some name =>
      have hempty : name = "" := by simpa [text, hname] using h
      rw [Option.bind_some, if_pos hempty]

/-- What is found by its own name has a name. -/
theorem Coherent.text_ne_empty (h : table.Coherent)
    (hfind : table.find? (table.text ns) = some ns) : table.text ns ≠ "" := by
  intro hempty
  rw [hempty] at hfind
  rcases (h.find?_eq_some_iff "" ns).mp hfind with ⟨hnamed, -⟩ | ⟨-, halias, -⟩
  · rw [folded?_of_text_eq_empty hempty] at hnamed
    cases hnamed
  · have hfilled : ∀ entry ∈ aliases, entry.1 ≠ fold "" := by decide
    exact hfilled _ halias rfl

theorem Coherent.mem_bearers_iff (h : table.Coherent) :
    ns ∈ (table.numbers.filter fun ns => table.folded? ns = some (fold name)) ↔
      table.folded? ns = some (fold name) := by
  rw [List.mem_filter, decide_eq_true_eq, h.mem_numbers_iff]
  exact ⟨And.right, fun hfolded => ⟨exists_name?_of_folded? hfolded, hfolded⟩⟩

theorem Coherent.bearer?_eq_some_iff (h : table.Coherent) :
    table.bearer? name = some ns ↔
      table.folded? ns = some (fold name) ∧
        ∀ other, table.folded? other = some (fold name) → other ≤ ns := by
  simp only [bearer?, List.max?_eq_some_iff, h.mem_bearers_iff]

theorem Coherent.bearer?_eq_none_iff (h : table.Coherent) :
    table.bearer? name = none ↔ ∀ ns, table.folded? ns ≠ some (fold name) := by
  simp only [bearer?, List.max?_eq_none_iff, List.eq_nil_iff_forall_not_mem, h.mem_bearers_iff,
    ne_eq]

theorem Coherent.aliased?_eq_some_iff (h : table.Coherent) :
    table.aliased? name = some ns ↔
      (fold name, ns) ∈ aliases ∧ ∃ written, table.name? ns = some written := by
  rw [aliased?, Option.filter_eq_some_iff, lookup_eq_some_iff_mem nodup_aliases, h.contains_iff]

theorem Coherent.find?_eq (h : table.Coherent) (name : String) :
    table.find? name = (table.bearer? name).or (table.aliased? name) := by
  refine Option.ext fun ns => ?_
  rw [h.find?_eq_some_iff, Option.or_eq_some_iff, h.bearer?_eq_some_iff, h.bearer?_eq_none_iff,
    h.aliased?_eq_some_iff]

theorem Coherent.find?_of_folded? (h : table.Coherent)
    (hfolded : table.folded? ns = some (fold name)) :
    ∃ found, table.find? name = some found ∧ table.folded? found = some (fold name) := by
  cases hbearer : table.bearer? name with
  | none => exact absurd hfolded (h.bearer?_eq_none_iff.mp hbearer ns)
  | some found =>
      refine ⟨found, ?_, (h.bearer?_eq_some_iff.mp hbearer).1⟩
      rw [h.find?_eq, hbearer, Option.some_or]

theorem ofNames_exact (names : TreeMap Int String) : Exact (ofNames names) where
  find?_eq := (ofNames_coherent names).find?_eq
  bearer?_eq_some_iff _ _ := (ofNames_coherent names).bearer?_eq_some_iff
  contains_of_find? := contains_of_find?
  find?_of_folded? := (ofNames_coherent names).find?_of_folded?
  find?_of_distinct hdistinct ns name hname hne := by
    have hfolded := folded?_of_name? hname hne
    obtain ⟨found, hfound, hsame⟩ := (ofNames_coherent names).find?_of_folded? hfolded
    rw [hfound, hdistinct ns found _ hfolded hsame]

/-- The table of a wiki that names no namespaces of its own. -/
def plain (capitalLinks : Bool) : Table := .ofNames (Settings.names ⟨∅, ∅, capitalLinks⟩)

/-- The names every wiki has are no spellings of each other. -/
theorem folded?_plain_inj {other : Int} {folded : String}
    (h : (plain true).folded? ns = some folded) (h' : (plain true).folded? other = some folded) :
    ns = other := by
  have hnodup : ((named (Settings.names ⟨∅, ∅, true⟩)).map (·.1)).Nodup := by decide +kernel
  have heq := List.inj_on_of_nodup_map hnodup (mem_named_iff.mpr h) (mem_named_iff.mpr h') rfl
  exact congrArg Prod.snd heq

theorem find?_plain (h : (plain true).name? ns = some name) (hne : name ≠ "") :
    (plain true).find? name = some ns := by
  have hfolded := folded?_of_name? h hne
  obtain ⟨found, hfound, hsame⟩ := (ofNames_coherent _).find?_of_folded? hfolded
  exact folded?_plain_inj hfolded hsame ▸ hfound

/-- The names every wiki has are no spellings of each other, so each finds its namespace. -/
theorem ofNames_exact_plain :
    (∀ ns other folded, (plain true).folded? ns = some folded →
      (plain true).folded? other = some folded → ns = other) ∧
    ∀ ns name, (plain true).name? ns = some name → name ≠ "" →
      (plain true).find? name = some ns := by
  have hdistinct : ∀ ns other folded, (plain true).folded? ns = some folded →
      (plain true).folded? other = some folded → ns = other := fun _ _ _ => folded?_plain_inj
  exact ⟨hdistinct, (ofNames_exact _).find?_of_distinct hdistinct⟩

theorem mem_builtin_of_contains_plain (capitalLinks : Bool) {ns : Int}
    (h : (plain capitalLinks).contains ns = true) : ns ∈ builtin.map (·.1) := by
  obtain ⟨name, hname⟩ := ((ofNames_coherent _).contains_iff ns).mp h
  change (Settings.names _)[ns]? = some name at hname
  rw [Settings.getElem?_names] at hname
  have hbuiltin : builtin.lookup ns = some name := by simpa using hname
  exact List.mem_map.mpr ⟨_, (lookup_eq_some_iff_mem nodup_builtin).mp hbuiltin, rfl⟩

end Table

end WikiEntry.Namespace
