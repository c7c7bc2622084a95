import WikiEntry.Proofs.Title.Forbidden

/-!
# Prefixes as they are typed

A text with a prefix before it, as it is typed: separators may stand on either side of the colon.
Normalising treats what stands before the colon and what stands after it apart, and cutting the
prefix off leaves the text as it is normalised on its own, its fragment included. So prefixes of
this wiki say nothing: a text is read with any number of them as it is read without.
-/

namespace WikiEntry

open Text

namespace Title.Key

variable {text front rest name before after : List Char} {c : Char}

/-! ### Separators and what they separate -/

theorem normalizeFrom_of_isSeparator (hc : isSeparator c = true) (started pending : Bool)
    (rest : List Char) :
    normalizeFrom started pending (c :: rest) = normalizeFrom started true rest := by
  rw [normalizeFrom, if_pos hc]

theorem normalizeFrom_of_not_isSeparator (hc : isSeparator c = false) (started pending : Bool)
    (rest : List Char) :
    normalizeFrom started pending (c :: rest) =
      (if pending && started then ['_'] else []) ++ c :: normalizeFrom true false rest := by
  rw [normalizeFrom, if_neg (by simp [hc])]
  split <;> rfl

/-- Before the first character that is kept, separators are dropped. -/
theorem normalizeFrom_false (pending : Bool) (text : List Char) :
    normalizeFrom false pending text = normalize text := by
  cases text with
  | nil => rfl
  | cons c rest => simp [normalize, normalizeFrom]

theorem normalize_separators_append (hfront : ∀ c ∈ front, isSeparator c = true)
    (text : List Char) : normalize (front ++ text) = normalize text := by
  induction front with
  | nil => rfl
  | cons c front ih =>
      obtain ⟨hc, hrest⟩ := List.forall_mem_cons.mp hfront
      rw [List.cons_append, normalize, normalizeFrom_of_isSeparator hc, normalizeFrom_false,
        ih hrest]

theorem normalizeFrom_separators (hrest : ∀ c ∈ rest, isSeparator c = true)
    (started pending : Bool) : normalizeFrom started pending rest = [] := by
  induction rest generalizing pending with
  | nil => rfl
  | cons c rest ih =>
      obtain ⟨hc, hrest⟩ := List.forall_mem_cons.mp hrest
      rw [normalizeFrom_of_isSeparator hc, ih hrest]

theorem normalizeFrom_append_separators (hrest : ∀ c ∈ rest, isSeparator c = true)
    (started pending : Bool) (text : List Char) :
    normalizeFrom started pending (text ++ rest) = normalizeFrom started pending text := by
  induction text generalizing started pending with
  | nil => exact normalizeFrom_separators hrest started pending
  | cons c text ih => simp only [List.cons_append, normalizeFrom, ih]

/-- Within a text, separators in front leave at most an underscore. -/
theorem dropWhile_normalizeFrom (pending : Bool) (text : List Char) :
    (normalizeFrom true pending text).dropWhile (fun c => c = '_') = normalize text := by
  induction text generalizing pending with
  | nil => rfl
  | cons c rest ih =>
      cases hc : isSeparator c with
      | true =>
          rw [normalize, normalizeFrom_of_isSeparator hc, normalizeFrom_of_isSeparator hc, ih,
            normalizeFrom_false]
      | false =>
          have hne : c ≠ '_' := by
            rintro rfl
            exact absurd hc (by decide)
          rw [normalize, normalizeFrom_of_not_isSeparator hc, normalizeFrom_of_not_isSeparator hc]
          cases pending <;> simp [hne]

/-- What stands before a character that is kept and what stands after it are normalised apart,
but for the separators before it. -/
theorem exists_normalizeFrom_append_cons (hc : isSeparator c = false) (started pending : Bool)
    (front rest : List Char) :
    ∃ gap, (∀ d ∈ gap, decide (d = '_') = true) ∧
      normalizeFrom started pending (front ++ c :: rest) =
        normalizeFrom started pending front ++ gap ++ c :: normalizeFrom true false rest := by
  induction front generalizing started pending with
  | nil =>
      refine ⟨if pending && started then ['_'] else [], ?_, ?_⟩
      · split <;> simp
      · rw [List.nil_append, normalizeFrom_of_not_isSeparator hc]
        rfl
  | cons d front ih =>
      cases hd : isSeparator d with
      | true =>
          obtain ⟨gap, hgap, heq⟩ := ih started true
          refine ⟨gap, hgap, ?_⟩
          rw [List.cons_append, normalizeFrom_of_isSeparator hd, normalizeFrom_of_isSeparator hd,
            heq]
      | false =>
          obtain ⟨gap, hgap, heq⟩ := ih true false
          refine ⟨gap, hgap, ?_⟩
          rw [List.cons_append, normalizeFrom_of_not_isSeparator hd,
            normalizeFrom_of_not_isSeparator hd, heq]
          simp only [List.append_assoc, List.cons_append]

/-! ### Prefixes and fragments -/

/-- A prefix is cut off as it was typed, and the text after it is as it is on its own. -/
theorem cutPrefix?_normalize (hname : Spaced false name) (hne : name ≠ []) (hcolon : ':' ∉ name)
    (hbefore : ∀ c ∈ before, isSeparator c = true) (hafter : ∀ c ∈ after, isSeparator c = true)
    (text : List Char) :
    cutPrefix? (normalize (name ++ before ++ ':' :: (after ++ text))) =
      some (name, normalize text) := by
  obtain ⟨gap, hgap, hsplit⟩ := exists_normalizeFrom_append_cons not_isSeparator_colon false false
    (name ++ before) (after ++ text)
  have hfront : normalizeFrom false false (name ++ before) = name :=
    (normalizeFrom_append_separators hbefore false false name).trans (normalize_of_spaced hname)
  have hfree : ':' ∉ name ++ gap := by
    rw [List.mem_append]
    rintro (hmem | hmem)
    · exact hcolon hmem
    · simpa using hgap ':' hmem
  rw [normalize, hsplit, hfront, cutPrefix?, cut?_append_of_not_mem hfree, Option.bind_some]
  simp only [dropEndWhile_append_of_forall hgap, hname.dropEndWhile_eq, if_neg hne,
    dropWhile_normalizeFrom, normalize_separators_append hafter]

theorem cutFragment_normalize_of_not_mem (h : '#' ∉ text) :
    Resolver.cutFragment (normalize text) = (normalize text, []) :=
  Resolver.cutFragment_of_not_mem (not_mem_normalize h (by decide))

theorem cutFragment_normalize_append (h : '#' ∉ front) (rest : List Char) :
    Resolver.cutFragment (normalize (front ++ '#' :: rest)) =
      (normalize front, exchange '_' ' ' (normalizeFrom true false rest)) := by
  obtain ⟨gap, hgap, hsplit⟩ :=
    exists_normalizeFrom_append_cons not_isSeparator_hash false false front rest
  have hfree : '#' ∉ normalize front ++ gap := by
    rw [List.mem_append]
    rintro (hmem | hmem)
    · exact not_mem_normalize h (by decide) hmem
    · simpa using hgap '#' hmem
  rw [normalize, hsplit, ← normalize, Resolver.cutFragment_append hfree,
    dropEndWhile_append_of_forall hgap, (spaced_normalize front).dropEndWhile_eq]

/-- What is typed before a text goes into the key, and the fragment is that of the text. -/
theorem cutFragment_normalize (hfront : '#' ∉ front) (text : List Char) :
    Resolver.cutFragment (normalize (front ++ text)) =
      (normalize (front ++ text.takeWhile fun c => c ≠ '#'),
        (Resolver.cutFragment (normalize text)).2) := by
  by_cases hhash : '#' ∈ text
  · obtain ⟨key, fragment, rfl, hkey⟩ := List.eq_append_cons_of_mem hhash
    have hfree : '#' ∉ front ++ key := by simp [hfront, hkey]
    rw [← List.append_assoc, cutFragment_normalize_append hfree, takeWhile_ne_append hkey,
      cutFragment_normalize_append hkey]
  · have hfree : '#' ∉ front ++ text := by simp [hfront, hhash]
    rw [cutFragment_normalize_of_not_mem hfree, takeWhile_ne_of_not_mem hhash,
      cutFragment_normalize_of_not_mem hhash]

theorem head?_ne_of_cutPrefix? {key : List Char} (h : cutPrefix? key = some (name, rest)) :
    key.head? ≠ some ':' := by
  obtain ⟨front, -, rfl, hcolon, hne, rfl, -⟩ := exists_of_cutPrefix? h
  refine head?_append_ne_colon (fun hnil => hne ?_) hcolon
  rw [hnil]
  rfl

/-- A colon in front of the key is one in front of the text. -/
theorem head?_normalize_takeWhile (h : (normalize text).head? ≠ some ':') :
    (normalize (text.takeWhile fun c => c ≠ '#')).head? ≠ some ':' := by
  by_cases hhash : '#' ∈ text
  · obtain ⟨key, fragment, rfl, hkey⟩ := List.eq_append_cons_of_mem hhash
    obtain ⟨gap, -, hsplit⟩ :=
      exists_normalizeFrom_append_cons not_isSeparator_hash false false key fragment
    rw [takeWhile_ne_append hkey]
    rw [normalize, hsplit, ← normalize] at h
    cases hnormal : normalize key with
    | nil => simp
    | cons c rest => simpa [hnormal] using h
  · rwa [takeWhile_ne_of_not_mem hhash]

end Title.Key

/-- A prefix as it is typed: a name, and what stands on either side of the colon after it. -/
structure TypedPrefix where
  name : String
  before : String
  after : String

namespace TypedPrefix

/-- The text with a prefix typed before it. -/
def onto (p : TypedPrefix) (text : String) : String :=
  p.name ++ p.before ++ ":" ++ p.after ++ text

/-- What a prefix puts before a text. -/
def lead (p : TypedPrefix) : List Char :=
  p.name.toList ++ p.before.toList ++ ':' :: p.after.toList

theorem toList_onto (p : TypedPrefix) (text : String) :
    (p.onto text).toList = p.lead ++ text.toList := by
  simp [onto, lead]

end TypedPrefix

/-- The text with prefixes typed before it, the first of them first. -/
def typed : List TypedPrefix → String → String
  | [], text => text
  | p :: more, text => p.onto (typed more text)

namespace Resolver

open Title

variable {r : Resolver Id} {p : TypedPrefix} {text : String} {ns : Int}

/-- Whether a prefix is one of this wiki, in some letter case, with nothing but separators around
its colon. -/
structure OwnPrefix (r : Resolver Id) (p : TypedPrefix) : Prop where
  configured : String.ofList (lower p.name.toList) ∈ r.settings.localInterwikis
  filled : lower p.name.toList ≠ []
  markless : ∀ c ∈ [':', '#', '\x00'], c ∉ lower p.name.toList
  blankless : ∀ c ∈ lower p.name.toList, isBlank c = false
  underscore_first : (lower p.name.toList).head? ≠ some '_'
  underscore_last : (lower p.name.toList).getLast? ≠ some '_'
  underscore_doubled : ¬['_', '_'] <:+: lower p.name.toList
  unknown : r.table.find? p.name = none
  before : ∀ c ∈ p.before.toList, Key.isSeparator c = true
  after : ∀ c ∈ p.after.toList, Key.isSeparator c = true

theorem OwnPrefix.spaced (h : r.OwnPrefix p) : Key.Spaced false p.name.toList := by
  have hlower : Key.Spaced false (lower p.name.toList) := by
    refine Key.spaced_of_forall (fun c hc hseparator => ?_) (.inr h.underscore_first)
      h.underscore_last h.underscore_doubled
    simpa [Key.isSeparator, h.blankless c hc] using hseparator
  exact hlower.of_lowerAfter

theorem OwnPrefix.not_mem_name (h : r.OwnPrefix p) {c : Char} (hc : c ∈ [':', '#', '\x00']) :
    c ∉ p.name.toList := by
  have hword : isWordChar c = false := by
    have hall : [':', '#', '\x00'].all (fun c => !isWordChar c) = true := by decide
    simpa using List.all_eq_true.mp hall c hc
  exact fun hmem => h.markless c hc (mem_lower_of_mem hmem hword)

theorem OwnPrefix.name_ne_nil (h : r.OwnPrefix p) : p.name.toList ≠ [] := by
  intro hnil
  apply h.filled
  rw [hnil]
  rfl

theorem OwnPrefix.not_mem_lead (h : r.OwnPrefix p) {c : Char} (hc : c ∈ ['#', '\x00']) :
    c ∉ p.lead := by
  have hsep : Key.isSeparator c = false := by
    have hall : ['#', '\x00'].all (fun c => !Key.isSeparator c) = true := by decide
    simpa using List.all_eq_true.mp hall c hc
  have hgap : ∀ gap : List Char, (∀ d ∈ gap, Key.isSeparator d = true) → c ∉ gap := by
    intro gap hgap hmem
    rw [hgap c hmem] at hsep
    cases hsep
  have hcolon : c ≠ ':' := by
    rintro rfl
    exact absurd hc (by decide)
  simp [TypedPrefix.lead, h.not_mem_name (List.mem_cons_of_mem _ hc), hgap _ h.before,
    hgap _ h.after, hcolon]

/-- The key of a text with a prefix before it has the prefix, and then the key of the text. -/
theorem OwnPrefix.cutPrefix? (h : r.OwnPrefix p) (text : List Char) :
    Key.cutPrefix? (Key.normalize (p.lead ++ text)) = some (p.name.toList, Key.normalize text) := by
  have hcut := Key.cutPrefix?_normalize h.spaced h.name_ne_nil
    (h.not_mem_name List.mem_cons_self) h.before h.after text
  rwa [TypedPrefix.lead, List.append_assoc, List.cons_append]

/-- One prefix of this wiki changes nothing. -/
theorem OwnPrefix.parse_onto (h : r.OwnPrefix p)
    (hstart : (Key.normalize text.toList).head? ≠ some ':') (ns : Int) :
    (r.parse (p.onto text) ns).run = (r.parse text ns).run := by
  by_cases hnul : '\x00' ∈ text.toList
  · have honto : '\x00' ∈ (p.onto text).toList := by simp [p.toList_onto, hnul]
    rw [run_parse_of_nul hnul, run_parse_of_nul honto]
  · have honto : '\x00' ∉ (p.onto text).toList := by
      simp [p.toList_onto, hnul, h.not_mem_lead]
    have hcut := h.cutPrefix? (text.toList.takeWhile fun c => c ≠ '#')
    have hhome : r.settings.localInterwikis.contains (String.ofList (lower p.name.toList)) = true :=
      List.contains_iff_mem.mpr h.configured
    have hfind : r.table.find? (String.ofList p.name.toList) = none := by
      rw [String.ofList_toList, h.unknown]
    have hfragment := Key.cutFragment_normalize (List.not_mem_nil) text.toList
    rw [List.nil_append, List.nil_append] at hfragment
    rw [run_parse honto, run_parse hnul, p.toList_onto,
      Key.cutFragment_normalize (h.not_mem_lead List.mem_cons_self), hfragment]
    dsimp only
    rw [cutColon_of_head?_ne (Key.head?_ne_of_cutPrefix? hcut),
      cutColon_of_head?_ne (Key.head?_normalize_takeWhile hstart), place_of_home hcut hfind hhome]

theorem OwnPrefix.head?_normalize_onto (h : r.OwnPrefix p) (text : String) :
    (Key.normalize (p.onto text).toList).head? ≠ some ':' := by
  rw [p.toList_onto]
  exact Key.head?_ne_of_cutPrefix? (h.cutPrefix? text.toList)

/-- Prefixes of this wiki are transparent: however many are typed before a text, it is read as it
is read without them, or refused for the same reason. -/
theorem parse_typed (r : Resolver Id) (ns : Int) (prefixes : List TypedPrefix)
    (hown : ∀ p ∈ prefixes, r.OwnPrefix p) (text : String)
    (hstart : (Key.normalize text.toList).head? ≠ some ':') :
    (r.parse (typed prefixes text) ns).run = (r.parse text ns).run := by
  induction prefixes with
  | nil => rfl
  | cons p more ih =>
      obtain ⟨hp, hmore⟩ := List.forall_mem_cons.mp hown
      have hrest : (Key.normalize (typed more text).toList).head? ≠ some ':' := by
        cases more with
        | nil => exact hstart
        | cons q others => exact (hmore q List.mem_cons_self).head?_normalize_onto _
      rw [typed, hp.parse_onto hrest, ih hmore]

/-- The settings of a wiki that goes by two names. -/
def twofold : Title.Settings := { localInterwikis := ["local", "the_wiki"] }

/-- Both names of this wiki in other letter cases, the second between separators. -/
def twofoldPrefixes : List TypedPrefix := [⟨"The_Wiki", "", ""⟩, ⟨"LOCAL", " _", "_ "⟩]

/-- Whether a prefix is one of this wiki can be computed. -/
theorem ownPrefix_of_all
    (hconfigured : String.ofList (lower p.name.toList) ∈ r.settings.localInterwikis)
    (hfilled : lower p.name.toList ≠ [])
    (hmarks : [':', '#', '\x00'].all (fun c => !(lower p.name.toList).contains c) = true)
    (hblanks : (lower p.name.toList).all (fun c => !isBlank c) = true)
    (hnormal : Key.normalize (lower p.name.toList) = lower p.name.toList)
    (hunknown : r.table.find? p.name = none) (hbefore : p.before.toList.all Key.isSeparator = true)
    (hafter : p.after.toList.all Key.isSeparator = true) : r.OwnPrefix p where
  configured := hconfigured
  filled := hfilled
  markless c hc := by simpa using List.all_eq_true.mp hmarks c hc
  blankless c hc := by simpa using List.all_eq_true.mp hblanks c hc
  underscore_first := (Key.spaced_of_normalize_eq hnormal).head?_ne
  underscore_last := (Key.spaced_of_normalize_eq hnormal).getLast?_ne
  underscore_doubled := (Key.spaced_of_normalize_eq hnormal).not_doubled
  unknown := hunknown
  before := List.all_eq_true.mp hbefore
  after := List.all_eq_true.mp hafter

theorem ownPrefix_twofold : ∀ p ∈ twofoldPrefixes, (plain twofold true).OwnPrefix p := by
  obtain ⟨hwiki, hlocal⟩ : (plain twofold true).table.find? "The_Wiki" = none ∧
      (plain twofold true).table.find? "LOCAL" = none := by
    decide +kernel
  refine List.forall_mem_cons.mpr ⟨?_, List.forall_mem_singleton.mpr ?_⟩
  · exact ownPrefix_of_all (by decide) (by decide) (by decide) (by decide) (by decide) hwiki
      (by decide) (by decide)
  · exact ownPrefix_of_all (by decide) (by decide) (by decide) (by decide) (by decide) hlocal
      (by decide) (by decide)

/-- Both names of this wiki may stand before the name of a namespace. -/
theorem parse_typed_twofold :
    (∀ p ∈ twofoldPrefixes, (plain twofold true).OwnPrefix p) ∧
      (Key.normalize " help: foo#x".toList).head? ≠ some ':' ∧
      typed twofoldPrefixes " help: foo#x" = "The_Wiki:LOCAL _:_  help: foo#x" ∧
      ((plain twofold true).parse "The_Wiki:LOCAL _:_  help: foo#x" Namespace.main).run =
        ((plain twofold true).parse " help: foo#x" Namespace.main).run := by
  have hstart : (Key.normalize " help: foo#x".toList).head? ≠ some ':' := by decide
  have htyped : typed twofoldPrefixes " help: foo#x" = "The_Wiki:LOCAL _:_  help: foo#x" := by
    decide
  refine ⟨ownPrefix_twofold, hstart, htyped, ?_⟩
  rw [← htyped]
  exact parse_typed (plain twofold true) Namespace.main twofoldPrefixes ownPrefix_twofold
    " help: foo#x" hstart

end Resolver

end WikiEntry
