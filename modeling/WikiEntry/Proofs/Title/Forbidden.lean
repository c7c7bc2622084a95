import WikiEntry.Proofs.Title.Length
import WikiEntry.Proofs.Title.Normal

/-!
# Forbidden characters in texts

Control characters and the marks of wiki text may not be in a key, and the checks refuse a key
that holds one. The checks see only what the prefixes have left of a text. On the way there
nothing is lost that is forbidden: normalising and cutting drop separators, colons and number
signs only, and a prefix is taken away if it is equal to some name in small letters, which holds
no such character if the name does not.

There is one gap. A namespace is found by its name without the blanks at its ends, and the line
ends and the tabulators are blanks although they are control characters. So a text with forbidden
characters is read exactly if all of them are blanks around the name of a namespace.
-/

namespace WikiEntry

open Text

namespace Title.Key

variable {text key name rest : List Char} {c : Char}

/-- The forbidden characters of a text, in order. -/
def forbidden (text : List Char) : List Char := text.filter isForbidden

theorem forbidden_eq_nil_iff : forbidden text = [] ↔ ∀ c ∈ text, isForbidden c = false := by
  simp [forbidden]

@[simp] theorem forbidden_nil : forbidden [] = [] := rfl

@[simp] theorem forbidden_append (front back : List Char) :
    forbidden (front ++ back) = forbidden front ++ forbidden back :=
  List.filter_append front back

theorem forbidden_cons_of_not (h : isForbidden c = false) (text : List Char) :
    forbidden (c :: text) = forbidden text := by
  rw [forbidden, List.filter_cons_of_neg (by simp [h])]
  rfl

theorem forbidden_cons_congr {back back' : List Char} (h : forbidden back = forbidden back')
    (c : Char) : forbidden (c :: back) = forbidden (c :: back') := by
  rw [← List.singleton_append, forbidden_append, h, ← forbidden_append, List.singleton_append]

theorem forbidden_of_subset {part : List Char} (h : part ⊆ text) (htext : forbidden text = []) :
    forbidden part = [] :=
  forbidden_eq_nil_iff.mpr fun c hc => forbidden_eq_nil_iff.mp htext c (h hc)

/-! ### Characters that are not forbidden -/

theorem not_isMarkup_of {p : Char → Bool} (h : p c = true)
    (hmarks : ['<', '>', '[', ']', '|', '{', '}'].all fun mark => !p mark) :
    isMarkup c = false := by
  rw [Bool.eq_false_iff]
  intro hmark
  have hnot := List.all_eq_true.mp hmarks c (List.contains_iff_mem.mp hmark)
  rw [h] at hnot
  cases hnot

theorem not_isForbidden_of_isSeparator (h : isSeparator c = true) : isForbidden c = false := by
  by_cases hc : c = '_'
  · exact hc ▸ by decide
  · obtain ⟨hblank, hcontrol⟩ : isBlank c = true ∧ isControl c = false := by
      simpa [isSeparator, hc] using h
    rw [isForbidden, hcontrol, not_isMarkup_of hblank (by decide)]
    rfl

theorem not_isForbidden_of_isWordChar (h : isWordChar c = true) : isForbidden c = false := by
  rw [isForbidden, not_isControl_of_isWordChar h, not_isMarkup_of h (by decide)]
  rfl

/-! ### What normalising and cutting keep -/

theorem forbidden_takeWhile_normalizeFrom (started pending : Bool) (text : List Char) :
    forbidden ((normalizeFrom started pending text).takeWhile fun c => c ≠ '#') =
      forbidden (text.takeWhile fun c => c ≠ '#') := by
  induction text generalizing started pending with
  | nil => rfl
  | cons c rest ih =>
      have hkept : forbidden ((c :: normalizeFrom true false rest).takeWhile fun c => c ≠ '#') =
          forbidden ((c :: rest).takeWhile fun c => c ≠ '#') := by
        by_cases hhash : c = '#'
        · simp [hhash]
        · rw [List.takeWhile_cons_of_pos (by simpa using hhash),
            List.takeWhile_cons_of_pos (by simpa using hhash)]
          exact forbidden_cons_congr (ih true false) c
      cases hseparator : isSeparator c with
      | true =>
          have hhash : c ≠ '#' := by
            rintro rfl
            exact absurd hseparator (by decide)
          rw [normalizeFrom, if_pos hseparator, ih started true,
            List.takeWhile_cons_of_pos (by simpa using hhash),
            forbidden_cons_of_not (not_isForbidden_of_isSeparator hseparator)]
      | false =>
          rw [normalizeFrom, if_neg (by simp [hseparator])]
          split
          · rw [List.takeWhile_cons_of_pos (by decide), forbidden_cons_of_not (by decide), hkept]
          · exact hkept

theorem forbidden_eq_nil_of_underscores (h : ∀ c ∈ text, decide (c = '_') = true) :
    forbidden text = [] := by
  rw [forbidden_eq_nil_iff]
  intro c hc
  obtain rfl : c = '_' := by simpa using h c hc
  decide

theorem forbidden_dropEndWhile (text : List Char) :
    forbidden (dropEndWhile (fun c => c = '_') text) = forbidden text := by
  obtain ⟨dropped, htext, hdropped⟩ := exists_eq_dropEndWhile_append (fun c => c = '_') text
  conv => rhs; rw [htext]
  rw [forbidden_append, forbidden_eq_nil_of_underscores hdropped, List.append_nil]

theorem forbidden_dropWhile (text : List Char) :
    forbidden (text.dropWhile fun c => c = '_') = forbidden text := by
  conv => rhs; rw [← List.takeWhile_append_dropWhile (p := fun c => decide (c = '_')) (l := text)]
  rw [forbidden_append, forbidden_eq_nil_of_underscores (List.all_eq_true.mp List.all_takeWhile),
    List.nil_append]

/-- A key holds what its prefix and the rest hold. -/
theorem forbidden_of_cutPrefix? (h : cutPrefix? key = some (name, rest)) :
    forbidden key = forbidden name ++ forbidden rest := by
  obtain ⟨before, after, rfl, -, -, rfl, rfl⟩ := exists_of_cutPrefix? h
  rw [forbidden_append, forbidden_cons_of_not (by decide), forbidden_dropEndWhile,
    forbidden_dropWhile]

theorem forbidden_cutColon (ns : Int) (key : List Char) :
    forbidden (Resolver.cutColon ns key).2 = forbidden key := by
  unfold Resolver.cutColon
  split
  · rw [forbidden_dropWhile, forbidden_cons_of_not (by decide)]
  · rfl

theorem forbidden_cutFragment (text : List Char) :
    forbidden (Resolver.cutFragment text).1 = forbidden (text.takeWhile fun c => c ≠ '#') := by
  by_cases hhash : '#' ∈ text
  · obtain ⟨front, back, rfl, hfront⟩ := List.eq_append_cons_of_mem hhash
    rw [Resolver.cutFragment_append hfront, takeWhile_ne_append hfront, forbidden_dropEndWhile]
  · rw [Resolver.cutFragment_of_not_mem hhash, takeWhile_ne_of_not_mem hhash]

/-! ### What names in small letters hold -/

theorem forbidden_lower (text : List Char) : forbidden (lower text) = forbidden text := by
  -- The letters before the text only decide about the final sigma.
  unfold lower
  generalize [] = before
  induction text generalizing before with
  | nil => rfl
  | cons c rest ih =>
      have hone : forbidden (lowerOne before rest c) = forbidden [c] := by
        cases hword : isWordChar c with
        | true =>
            rw [forbidden_cons_of_not (not_isForbidden_of_isWordChar hword), forbidden_nil,
              forbidden_eq_nil_iff]
            exact fun d hd => not_isForbidden_of_isWordChar (isWordChar_of_mem_lowerOne hword hd)
        | false => rw [lowerOne_of_not_isWordChar hword]
      rw [lowerAfter_cons, forbidden_append, hone, ih, ← forbidden_append, List.singleton_append]

theorem forbidden_exchange (text : List Char) :
    forbidden (exchange ' ' '_' text) = forbidden text := by
  induction text with
  | nil => rfl
  | cons c rest ih =>
      change forbidden ((if c = ' ' then '_' else c) :: exchange ' ' '_' rest) = _
      by_cases hspace : c = ' '
      · rw [if_pos hspace, hspace, forbidden_cons_of_not (by decide),
          forbidden_cons_of_not (by decide), ih]
      · rw [if_neg hspace]
        exact forbidden_cons_congr ih c

end Title.Key

namespace Namespace

open Title.Key (forbidden)

theorem forbidden_fold (name : String) :
    forbidden (fold name).toList = forbidden (trimBlanks name.toList) := by
  rw [fold, String.toList_ofList, Title.Key.forbidden_lower, Title.Key.forbidden_exchange]

theorem trimBlanks_subset (text : List Char) : trimBlanks text ⊆ text := by
  obtain ⟨front, back, htext, -⟩ := exists_trimBlanks text
  intro c hc
  rw [htext]
  exact List.mem_append_left _ (List.mem_append_right _ hc)

/-- Blanks around a name do not count. -/
theorem fold_blanks {front back : List Char} (hfront : ∀ c ∈ front, isBlank c = true)
    (hback : ∀ c ∈ back, isBlank c = true) (name : List Char) :
    fold (String.ofList (front ++ name ++ back)) = fold (String.ofList name) := by
  obtain ⟨more, less, hname, hmore, hless, hhead, hlast⟩ := exists_trimBlanks name
  have hwhole : front ++ name ++ back = (front ++ more) ++ trimBlanks name ++ (less ++ back) := by
    conv => lhs; rw [hname]
    simp only [List.append_assoc]
  have htrim : trimBlanks (front ++ name ++ back) = trimBlanks name := by
    rw [hwhole]
    refine trimBlanks_append ?_ ?_ hhead hlast
    · exact List.forall_mem_append.mpr ⟨hfront, hmore⟩
    · exact List.forall_mem_append.mpr ⟨hless, hback⟩
  rw [fold, fold, String.toList_ofList, String.toList_ofList, htrim]

theorem Table.find?_blanks (table : Table) {front back : List Char}
    (hfront : ∀ c ∈ front, isBlank c = true) (hback : ∀ c ∈ back, isBlank c = true)
    (name : List Char) :
    table.find? (String.ofList (front ++ name ++ back)) = table.find? (String.ofList name) := by
  rw [find?, find?, fold_blanks hfront hback]

/-- What finds a namespace holds no forbidden characters but at its ends, if no name does. -/
theorem Table.forbidden_of_find? {names : Std.TreeMap Int String}
    (hnames : ∀ (ns : Int) (name : String), names[ns]? = some name → forbidden name.toList = [])
    {name : String} {ns : Int} (h : (ofNames names).find? name = some ns) :
    forbidden (trimBlanks name.toList) = [] := by
  rw [← forbidden_fold]
  rcases ((ofNames_coherent names).find?_eq_some_iff name ns).mp h with
    ⟨hnamed, -⟩ | ⟨-, halias, -⟩
  · obtain ⟨written, hwritten, hfold⟩ := Option.bind_eq_some_iff.mp hnamed
    simp only [Option.ite_none_left_eq_some, Option.some.injEq] at hfold
    rw [← hfold.2, forbidden_fold]
    exact Title.Key.forbidden_of_subset (trimBlanks_subset _) (hnames ns written hwritten)
  · have haliases : ∀ entry ∈ aliases, forbidden entry.1.toList = [] := by decide
    have hfold := haliases (fold name, ns) halias
    exact hfold

end Namespace

namespace Resolver

open Title

variable {r : Resolver Id} {ns : Int} {key last name rest : List Char} {text : String} {t : Title}

/-- The part of a text before the first number sign, of which the key is made. -/
def beforeHash (text : String) : List Char := text.toList.takeWhile fun c => c ≠ '#'

/-- The search for prefixes begins with all forbidden characters of the text. -/
theorem forbidden_begun (text : String) (ns : Int) :
    Key.forbidden (begun text ns).2 = Key.forbidden (beforeHash text) := by
  rw [begun, Key.forbidden_cutColon, Key.forbidden_cutFragment, Key.normalize,
    Key.forbidden_takeWhile_normalizeFrom, beforeHash]

/-! ### Prefixes of this wiki -/

/-- Taking prefixes of this wiki away from `key` can leave `last`. -/
inductive Homeward (r : Resolver Id) : (key last : List Char) → Prop
  | here (key : List Char) : Homeward r key key
  | past {key name rest last : List Char} (hcut : Key.cutPrefix? key = some (name, rest))
      (hfind : r.table.find? (String.ofList name) = none)
      (hhome : r.settings.localInterwikis.contains (String.ofList (lower name)) = true)
      (hrest : Homeward r rest last) : Homeward r key last

theorem Homeward.place_eq (h : r.Homeward key last) (ns : Int) :
    (r.place ns key).run = (r.place ns last).run := by
  induction h with
  | here => rfl
  | past hcut hfind hhome _ ih => rw [place_of_home hcut hfind hhome, ih]

/-! ### Names without forbidden characters -/

/-- Whether no name that prefixes are compared with holds a forbidden character. -/
structure UnmarkedNames (settings : Title.Settings) (names : Std.TreeMap Int String) : Prop where
  namespaces (ns : Int) (name : String) :
    names[ns]? = some name → ∀ c ∈ name.toList, Key.isForbidden c = false
  interwikis (name : String) : settings.interwikis.contains name = true →
    ∀ c ∈ name.toList, Key.isForbidden c = false
  localInterwikis (name : String) : name ∈ settings.localInterwikis →
    ∀ c ∈ name.toList, Key.isForbidden c = false

/-- How a text with forbidden characters comes to be read as `t`. After prefixes of this wiki it
has the name of a namespace between blanks, and then the rest, which is read as the key. -/
structure Muffled (r : Resolver Id) (ns : Int) (text : String) (t : Title)
    (front name back rest : List Char) : Prop where
  nulless : '\x00' ∉ text.toList
  homeward : ∃ last, r.Homeward (begun text ns).2 last ∧
    Key.cutPrefix? last = some (front ++ name ++ back, rest)
  blank : ∀ c ∈ front ++ back, isBlank c = true
  /-- The forbidden characters of the text are all among these blanks. -/
  confined : Key.forbidden (beforeHash text) = Key.forbidden (front ++ back)
  found : r.table.find? (String.ofList name) = some t.ns
  stays : (Namespace.isTalk t.ns && r.leadsAway rest) = false
  settled : r.settle ⟨t.ns, "", rest⟩ (fragmentOf text) = .ok t

theorem Muffled.parse_eq {front back : List Char} (h : r.Muffled ns text t front name back rest) :
    (r.parse text ns).run = .ok t := by
  obtain ⟨last, hhome, hcut⟩ := h.homeward
  obtain ⟨hfront, hback⟩ := List.forall_mem_append.mp h.blank
  have hfind : r.table.find? (String.ofList (front ++ name ++ back)) = some t.ns := by
    rw [r.table.find?_blanks hfront hback, h.found]
  have hplace : (r.place (begun text ns).1 (begun text ns).2).run = .ok ⟨t.ns, "", rest⟩ := by
    rw [hhome.place_eq, place_of_find? hcut hfind, h.stays]
    rfl
  unfold begun at hplace
  rw [run_parse h.nulless, hplace]
  exact h.settled

section Unmarked

variable {settings : Title.Settings} {capitalLinks : Bool} {names : Std.TreeMap Int String}
  {spot : Place}

theorem UnmarkedNames.forbidden_of_find? (h : UnmarkedNames settings names) {found : Int}
    (hfind : (ofNames settings capitalLinks names).table.find? (String.ofList name) = some found) :
    Key.forbidden (trimBlanks name) = [] := by
  have hname := Namespace.Table.forbidden_of_find?
    (fun ns name hname => Key.forbidden_eq_nil_iff.mpr (h.namespaces ns name hname)) hfind
  rwa [String.toList_ofList] at hname

theorem UnmarkedNames.forbidden_of_home (h : UnmarkedNames settings names)
    (hhome : settings.localInterwikis.contains (String.ofList (lower name)) = true) :
    Key.forbidden name = [] := by
  have hname := h.localInterwikis _ (by simpa using hhome)
  rwa [← Key.forbidden_eq_nil_iff, String.toList_ofList, Key.forbidden_lower] at hname

theorem UnmarkedNames.forbidden_of_away (h : UnmarkedNames settings names)
    (haway : settings.interwikis.contains (String.ofList (lower name)) = true) :
    Key.forbidden name = [] := by
  have hname := h.interwikis _ haway
  rwa [← Key.forbidden_eq_nil_iff, String.toList_ofList, Key.forbidden_lower] at hname

/-- The forbidden characters of a key that leads to a key without any were in the name of a
namespace: prefixes of wikis have none, and what follows the prefixes keeps its own. -/
theorem UnmarkedNames.exists_name_of_place (h : UnmarkedNames settings names)
    (hplace : ((ofNames settings capitalLinks names).place ns key).run = .ok spot)
    (hspot : Key.forbidden spot.key = []) (hkey : Key.forbidden key ≠ []) :
    spot.interwiki = "" ∧ ∃ last name, (ofNames settings capitalLinks names).Homeward key last ∧
      Key.cutPrefix? last = some (name, spot.key) ∧
      (ofNames settings capitalLinks names).table.find? (String.ofList name) = some spot.ns ∧
      Key.forbidden key = Key.forbidden name := by
  revert hspot hkey
  refine place_induction _ ns
    (motive := fun key spot => Key.forbidden spot.key = [] → Key.forbidden key ≠ [] →
      spot.interwiki = "" ∧ ∃ last name, (ofNames settings capitalLinks names).Homeward key last ∧
        Key.cutPrefix? last = some (name, spot.key) ∧
        (ofNames settings capitalLinks names).table.find? (String.ofList name) = some spot.ns ∧
        Key.forbidden key = Key.forbidden name)
    ?plain ?named ?home ?away hplace
  case plain => exact fun key _ hspot hkey => absurd hspot hkey
  case named =>
    intro key name rest found hcut hfind hspot _
    have hsplit := Key.forbidden_of_cutPrefix? hcut
    rw [hspot, List.append_nil] at hsplit
    exact ⟨rfl, key, name, .here key, hcut, hfind, hsplit⟩
  case home =>
    intro key name rest spot hcut hfind hhome ih hspot hkey
    have hsplit := Key.forbidden_of_cutPrefix? hcut
    rw [h.forbidden_of_home hhome, List.nil_append] at hsplit
    rw [hsplit] at hkey ⊢
    obtain ⟨hlocal, last, name', hlast, hcut', hfind', hname⟩ := ih hspot hkey
    exact ⟨hlocal, last, name', .past hcut hfind hhome hlast, hcut', hfind', hname⟩
  case away =>
    intro key name rest hcut _ _ haway hspot hkey
    rw [Key.forbidden_cutColon] at hspot
    rw [Key.forbidden_of_cutPrefix? hcut, h.forbidden_of_away haway, hspot] at hkey
    exact absurd rfl hkey

theorem UnmarkedNames.muffled_of_parse (h : UnmarkedNames settings names)
    (hbad : Key.forbidden (beforeHash text) ≠ [])
    (hparse : ((ofNames settings capitalLinks names).parse text ns).run = .ok t) :
    ∃ front name back rest,
      (ofNames settings capitalLinks names).Muffled ns text t front name back rest := by
  obtain ⟨spot, hplace, hsettle⟩ := exists_place_of_parse hparse
  obtain ⟨hfault, -, ht⟩ := settle_eq_ok_iff.mp hsettle
  have hspot : Key.forbidden spot.key = [] :=
    Key.forbidden_eq_nil_iff.mpr (Key.fault?_eq_none_iff.mp hfault).1.characters
  rw [← forbidden_begun text ns] at hbad
  obtain ⟨hlocal, last, name, hhome, hcut, hfind, hname⟩ :=
    h.exists_name_of_place hplace hspot hbad
  obtain ⟨front, back, hsplit, hfront, hback, -⟩ := exists_trimBlanks name
  have hns : t.ns = spot.ns := by rw [ht, make_ns]
  have hwhere : spot = ⟨t.ns, "", spot.key⟩ := by rw [hns, ← hlocal]
  refine ⟨front, trimBlanks name, back, spot.key, nul_not_mem_of_parse hparse,
    ⟨last, hhome, hsplit ▸ hcut⟩, List.forall_mem_append.mpr ⟨hfront, hback⟩, ?_, ?_, ?_,
    hwhere ▸ hsettle⟩
  · rw [← forbidden_begun text ns, hname]
    conv => lhs; rw [hsplit]
    simp [h.forbidden_of_find? hfind]
  · rw [← Namespace.Table.find?_blanks _ hfront hback, ← hsplit, hfind, hns]
  · rw [hhome.place_eq, place_of_find? hcut hfind] at hplace
    split at hplace
    · cases hplace
    · rename_i hstays
      rw [hns]
      simpa using hstays

end Unmarked

theorem run_parseUrl {code : String} (h : Percent.decode? code = some text) :
    r.parseUrl code = r.parse text Namespace.main := by
  rw [parseUrl, h]

/-- Forbidden characters before the first number sign make a text unreadable, unless all of them
are blanks around the name of a namespace. The same holds of percent code for such a text. -/
theorem parse_forbidden_iff (settings : Title.Settings) (capitalLinks : Bool)
    (names : Std.TreeMap Int String) (hnames : UnmarkedNames settings names) (text : String)
    (hbad : ∃ c ∈ beforeHash text, Key.isForbidden c = true) (ns : Int) (t : Title) :
    let r := ofNames settings capitalLinks names
    ((r.parse text ns).run = .ok t ↔
      ∃ front name back rest, r.Muffled ns text t front name back rest) ∧
    ∀ code, Percent.decode? code = some text →
      ((r.parseUrl code).run = .ok t ↔
        ∃ front name back rest, r.Muffled Namespace.main text t front name back rest) := by
  intro r
  have hforbidden : Key.forbidden (beforeHash text) ≠ [] := by
    obtain ⟨c, hc, hbad⟩ := hbad
    intro hnil
    rw [Key.forbidden_eq_nil_iff.mp hnil c hc] at hbad
    cases hbad
  have hread : ∀ ns, (r.parse text ns).run = .ok t ↔
      ∃ front name back rest, r.Muffled ns text t front name back rest := by
    intro ns
    constructor
    · exact hnames.muffled_of_parse hforbidden
    · rintro ⟨front, name, back, rest, h⟩
      exact h.parse_eq
  refine ⟨hread ns, fun code hcode => ?_⟩
  rw [run_parseUrl hcode]
  exact hread Namespace.main

/-! ### A tabulator that is passed over -/

/-- The names of a wiki that names no namespaces of its own. -/
def plainNames : Std.TreeMap Int String := Namespace.Settings.names ⟨∅, ∅, true⟩

theorem unmarkedNames_plain : UnmarkedNames {} plainNames where
  namespaces ns name hname := by
    have hbuiltin : ∀ entry ∈ Namespace.builtin, Key.forbidden entry.2.toList = [] := by decide
    rw [plainNames, Namespace.Settings.getElem?_names] at hname
    have hlookup : Namespace.builtin.lookup ns = some name := by simpa using hname
    exact Key.forbidden_eq_nil_iff.mp (hbuiltin _
      ((lookup_eq_some_iff_mem Namespace.nodup_builtin).mp hlookup))
  interwikis name hname := by simp at hname
  localInterwikis name hname := by simp at hname

theorem exists_mem_beforeHash_help :
    ∃ c ∈ beforeHash "Help\t:Foo", Key.isForbidden c = true :=
  ⟨'\t', by decide, by decide⟩

theorem parse_help_tab :
    ((ofNames {} true plainNames).parse "Help\t:Foo" Namespace.main).run =
      .ok (make 12 "Foo" "" "") := by
  have hfind : (ofNames {} true plainNames).table.find? (String.ofList ("Help".toList ++ ['\t'])) =
      some 12 := by
    have hname : (plain {} true).table.find? (String.ofList "Help".toList) = some 12 :=
      (plain_faithful {} true).finds 12 (by decide) (by decide)
    have hblanks := (plain {} true).table.find?_blanks (List.forall_mem_nil _)
      (List.forall_mem_singleton.mpr (by decide : isBlank '\t' = true)) "Help".toList
    exact hblanks.trans hname
  have hclean : Key.Clean "Help\t:Foo".toList :=
    ⟨Key.spaced_of_normalize_eq (by decide), by decide, by decide⟩
  have hcut : Key.cutPrefix? "Help\t:Foo".toList =
      some ("Help".toList ++ ['\t'], "Foo".toList) := by
    decide
  have hplace : ((ofNames {} true plainNames).place Namespace.main "Help\t:Foo".toList).run =
      .ok ⟨12, "", "Foo".toList⟩ := by
    rw [place_of_find? hcut hfind]
    rfl
  rw [run_parse_of_place hclean (by decide) hplace, settle_eq_ok_iff]
  decide

/-- All that is forbidden in this text is the tabulator after the name of a namespace. -/
theorem parse_forbidden_help :
    UnmarkedNames {} plainNames ∧ (∃ c ∈ beforeHash "Help\t:Foo", Key.isForbidden c = true) ∧
      ∃ front name back rest, (ofNames {} true plainNames).Muffled Namespace.main "Help\t:Foo"
        (make 12 "Foo" "" "") front name back rest :=
  ⟨unmarkedNames_plain, exists_mem_beforeHash_help,
    (parse_forbidden_iff {} true plainNames unmarkedNames_plain "Help\t:Foo"
      exists_mem_beforeHash_help Namespace.main (make 12 "Foo" "" "")).1.mp parse_help_tab⟩

/-- A text with a tabulator before its first number sign can be read. -/
theorem parse_forbidden_passed :
    UnmarkedNames {} plainNames ∧ (∃ c ∈ beforeHash "Help\t:Foo", Key.isForbidden c = true) ∧
      ((ofNames {} true plainNames).parse "Help\t:Foo" Namespace.main).run =
        .ok (make 12 "Foo" "" "") :=
  ⟨unmarkedNames_plain, exists_mem_beforeHash_help, parse_help_tab⟩

end Resolver

end WikiEntry
