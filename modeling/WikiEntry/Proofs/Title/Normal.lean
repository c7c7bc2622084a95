import WikiEntry.Proofs.Percent
import WikiEntry.Proofs.Title.RoundTrip

/-!
# The normal form of titles

Every title that is read has a key in normal form: no separators but single underscores between
other characters, and nothing in it that could be taken for markup, an escape, a signature, a
prefix or a relative path. The checks look for such things before the first letter of the key
becomes a capital, and find nothing new after. Here they are said in terms of what occurs in the
key instead of how it is looked for.
-/

namespace WikiEntry

open Text

namespace Title.Key

variable {key : List Char}

/-- A key as it may be stored. -/
structure Normal (key : List Char) : Prop where
  underscore_first : key.head? ≠ some '_'
  underscore_last : key.getLast? ≠ some '_'
  underscore_doubled : ¬['_', '_'] <:+: key
  blankless : ∀ c ∈ key, isBlank c = false
  controlless : ∀ c ∈ key, isControl c = false
  markupless : ∀ c ∈ key, c ∉ ['<', '>', '[', ']', '|', '{', '}', '#']
  escapeless : ∀ high low, (Percent.hexValue? high).isSome = true →
    (Percent.hexValue? low).isSome = true → ¬['%', high, low] <:+: key
  unsigned : ¬['~', '~', '~'] <:+: key
  colon_first : key.head? ≠ some ':'
  segments : ∀ segment ∈ pieces (fun c => c = '/') key, segment ≠ ['.'] ∧ segment ≠ ['.', '.']

theorem Sound.normal (hsound : Sound key) (hclean : Clean key) : Normal key where
  underscore_first := hclean.spaced.head?_ne
  underscore_last := hclean.spaced.getLast?_ne
  underscore_doubled := hclean.spaced.not_doubled
  blankless c hc := by
    -- A blank is either a separator, of which only underscores are left, or a control character.
    rw [Bool.eq_false_iff]
    intro hblank
    have hcontrol := (Bool.or_eq_false_iff.mp (hsound.characters c hc)).1
    have hseparator : isSeparator c = true := by simp [isSeparator, hblank, hcontrol]
    rw [hclean.spaced.eq_underscore_of_mem hc hseparator] at hblank
    exact absurd hblank (by decide)
  controlless c hc := (Bool.or_eq_false_iff.mp (hsound.characters c hc)).1
  markupless c hc hmark := by
    have hmarkup := (Bool.or_eq_false_iff.mp (hsound.characters c hc)).2
    by_cases hhash : c = '#'
    · exact hclean.hashless (hhash ▸ hc)
    · simp_all [isMarkup]
  escapeless high low hhigh hlow hin := by
    have hescape := Percent.hasEscape_iff.mpr ⟨high, low, hhigh, hlow, hin⟩
    rw [hsound.escapes] at hescape
    cases hescape
  unsigned hin := by
    have hsignature : hasSignature key = true := occurs_iff.mpr hin
    rw [hsound.signatures] at hsignature
    cases hsignature
  colon_first := hsound.start
  segments segment hsegment := by
    have hpath : ¬isRelative key = true := by simp [hsound.path]
    rw [isRelative_iff] at hpath
    constructor
    · rintro rfl
      exact hpath (.inl hsegment)
    · rintro rfl
      exact hpath (.inr hsegment)

end Title.Key

namespace Resolver

open Title

/-- A title in normal form, for a wiki and the namespace in which titles without a prefix lie. -/
structure Normal (r : Resolver Id) (ns : Int) (t : Title) : Prop where
  /-- Only the title of another wiki may have no key. -/
  filled : t.key.toList ≠ [] ∨ t.isExternal = true
  key : Key.Normal t.key.toList
  /-- The namespace is the one given, the main one, or one that the table has. -/
  namespaced : t.ns = ns ∨ t.ns = Namespace.main ∨ r.table.contains t.ns = true
  /-- A prefix of another wiki is one that is configured, in small letters, and then the title
  lies in the main namespace. -/
  interwiki : t.interwiki = "" ∨ (r.settings.interwikis.contains t.interwiki = true ∧
    lower t.interwiki.toList = t.interwiki.toList ∧ t.ns = Namespace.main)
  fragment : '_' ∉ t.fragment.toList
  text_of_key : t.text.toList = exchange '_' ' ' t.key.toList
  key_of_text : t.key.toList = exchange ' ' '_' t.text.toList

/-- How titles are read and written with a table made from names. -/
def ofNames (settings : Title.Settings) (capitalLinks : Bool) (names : Std.TreeMap Int String) :
    Resolver Id :=
  ⟨settings, capitalLinks, Namespace.Table.ofNames names⟩

variable {r : Resolver Id} {ns start : Int} {spot : Place} {t : Title}

theorem Reached.ns_cases (h : r.Reached start spot) (hstart : start = ns ∨ start = Namespace.main)
    (honly : ∀ name found, r.table.find? name = some found → r.table.contains found = true) :
    spot.ns = ns ∨ spot.ns = Namespace.main ∨ r.table.contains spot.ns = true := by
  cases h with
  | here key => exact hstart.imp_right .inl
  | named key hfind => exact .inr (.inr (honly _ _ hfind))
  | away key hname => exact .inr (.inl rfl)

theorem Reached.interwiki_cases (h : r.Reached start spot) :
    spot.interwiki = "" ∨ (r.settings.interwikis.contains spot.interwiki = true ∧
      lower spot.interwiki.toList = spot.interwiki.toList ∧ spot.ns = Namespace.main) := by
  cases h with
  | here key => exact .inl rfl
  | named key hfind => exact .inl rfl
  | away key hname =>
      refine .inr ⟨hname.known, ?_, rfl⟩
      rw [String.toList_ofList, lower_lower]

/-- Every title that is read is in normal form. -/
theorem parse_normal (settings : Title.Settings) (capitalLinks : Bool)
    (names : Std.TreeMap Int String) (text : String) (ns : Int) (t : Title)
    (h : ((ofNames settings capitalLinks names).parse text ns).run = .ok t) :
    (ofNames settings capitalLinks names).Normal ns t := by
  obtain ⟨start, spot, fragment, hstart, hreached, hclean, _, _, hsettle⟩ := exists_of_parse h
  have hkey := toList_key_of_settle hclean hsettle
  obtain ⟨hfault, hne, rfl⟩ := settle_eq_ok_iff.mp hsettle
  obtain ⟨hsound, -⟩ := Key.fault?_eq_none_iff.mp hfault
  constructor
  case filled =>
    rw [hkey, isExternal_make]
    exact hne.imp_right fun haway => by rw [haway, Bool.not_false]
  case key =>
    rw [hkey]
    exact (stored_sound hsound).normal (stored_clean hclean)
  case namespaced =>
    exact hreached.ns_cases hstart fun _ _ => Namespace.Table.contains_of_find?
  case interwiki => exact hreached.interwiki_cases
  case fragment =>
    rw [make_fragment, String.toList_ofList]
    exact not_mem_exchange (by decide) fragment
  -- The two forms come from one text, each by its own exchange.
  case text_of_key =>
    simp only [text_make, make_key, String.toList_ofList, exchange_exchange_back]
  case key_of_text =>
    simp only [text_make, make_key, String.toList_ofList, exchange_exchange_back]

theorem parse_normal_help :
    ((ofNames {} true (Namespace.Settings.names ⟨∅, ∅, true⟩)).parse " Help_ :  foo _bar#a_b"
        Namespace.main).run = .ok (make 12 "Foo_bar" "a b" "") ∧
      (ofNames {} true (Namespace.Settings.names ⟨∅, ∅, true⟩)).Normal Namespace.main
        (make 12 "Foo_bar" "a b" "") := by
  have hcut : Key.cutPrefix? "Help_:_foo_bar".toList =
      some ((plain {} true).spelling 12, "foo_bar".toList) := by
    decide
  have hplace : ((plain {} true).place Namespace.main "Help_:_foo_bar".toList).run =
      .ok ⟨12, "", "foo_bar".toList⟩ := by
    rw [place_of_find? hcut ((plain_faithful {} true).finds 12 (by decide) (by decide))]
    rfl
  have hfragment : cutFragment (Key.normalize " Help_ :  foo _bar#a_b".toList) =
      ("Help_:_foo_bar".toList, "a b".toList) := by
    decide
  have hparse : ((plain {} true).parse " Help_ :  foo _bar#a_b" Namespace.main).run =
      .ok (make 12 "Foo_bar" "a b" "") := by
    rw [run_parse (by decide), hfragment]
    dsimp only
    rw [cutColon_of_head?_ne (by decide), hplace]
    change (plain {} true).settle ⟨12, "", "foo_bar".toList⟩ "a b" = _
    rw [settle_eq_ok_iff]
    decide
  exact ⟨hparse, parse_normal {} true _ _ _ _ hparse⟩

end Resolver

end WikiEntry
