import WikiEntry.Proofs.Namespace.Table
import WikiEntry.Proofs.Title.Rereading

/-!
# Titles that survive being written and read

A title that was read from a text and is written in full need not be read as itself again. The
prefixes are looked at before the first letter of the key becomes a capital, and so is the length
of the key; a capital form can be a different prefix, or longer. And a talk page named without a
prefix is not asked whether it leads away. These are the only exceptions.
-/

namespace WikiEntry.Resolver

open Text Title

variable {r : Resolver Id} {t : Title} {ns : Int} {key name fragment : List Char}

/-! ### Keys that are stored -/

theorem storable_of_settle {spot : Place} {fragment : String} (hspot : Key.Clean spot.key)
    (h : r.settle spot fragment = .ok t) (hlocal : t.isExternal = false) :
    r.Storable t.ns t.key.toList := by
  have hkey := toList_key_of_settle hspot h
  obtain ⟨hfault, hne, rfl⟩ := settle_eq_ok_iff.1 h
  obtain ⟨hsound, _⟩ := Key.fault?_eq_none_iff.1 hfault
  have hwiki : spot.interwiki = "" := interwiki_of_local hlocal
  rw [hkey]
  refine ⟨stored_clean hspot, stored_sound hsound, ?_, ?_⟩
  · rcases hne with hne | haway
    · exact hne
    · rw [hwiki] at haway
      exact absurd haway (by decide)
  · have htwice := stored_stored (r := r) spot
    rw [hwiki] at htwice
    exact htwice

/-! ### Titles of other wikis -/

theorem Foreign.lower_colonless (hname : r.Foreign name) : ':' ∉ lower name := fun hmem =>
  hname.colonless (mem_of_mem_lower hmem (by decide))

/-- The prefix of another wiki leads there again in small letters. -/
theorem place_of_foreign (hname : r.Foreign name) (hkey : Key.Clean key)
    (hhead : key.head? ≠ some ':') :
    (r.place ns (lower name ++ ':' :: key)).run =
      .ok ⟨Namespace.main, String.ofList (lower name), key⟩ := by
  have hcut := Key.cutPrefix?_append (lower_ne_nil hname.ne_nil) hname.lower_colonless
    hname.clean.lower.spaced hkey.spaced
  have hfind : r.table.find? (String.ofList (lower name)) = none := by
    rw [Namespace.Table.find?_lower _ hname.clean.spaceless]
    exact hname.unknown
  rw [place_of_away hcut hfind (by rw [lower_lower]; exact hname.outside)
    (by rw [lower_lower]; exact hname.known), lower_lower, cutColon_of_head?_ne hhead]

theorem reread_of_foreign {fragment : String} (hname : r.Foreign name) (hkey : Key.Clean key)
    (hsettle : r.settle ⟨Namespace.main, String.ofList (lower name), key⟩ fragment = .ok t) :
    ((r.place Namespace.main (r.prefixedKey t).run.toList).run.bind fun spot =>
      r.settle spot t.fragment) = .ok t ∧ Key.Clean (r.prefixedKey t).run.toList ∧
        (r.prefixedKey t).run.toList.head? ≠ some ':' ∧ t.isExternal = true := by
  obtain ⟨hfault, _, rfl⟩ := settle_eq_ok_iff.1 hsettle
  obtain ⟨hsound, _⟩ := Key.fault?_eq_none_iff.1 hfault
  have hwiki : (String.ofList (lower name)).isEmpty = false := by
    simpa using lower_ne_nil hname.ne_nil
  have hstored : r.stored ⟨Namespace.main, String.ofList (lower name), key⟩ = key := by
    unfold stored
    rw [hwiki, Bool.false_and, if_neg Bool.false_ne_true]
  rw [hstored] at hsettle ⊢
  have hexternal : (make Namespace.main (String.ofList key) fragment
      (String.ofList (lower name))).isExternal = true := by
    rw [Title.isExternal, make_interwiki, hwiki]
    rfl
  have hwritten : (r.prefixedKey (make Namespace.main (String.ofList key) fragment
      (String.ofList (lower name)))).run.toList = lower name ++ ':' :: key := by
    rw [run_prefixedKey, lead, hexternal, make_ns, make_key, make_interwiki]
    simp only [if_true, List.append_nil, String.toList_ofList]
    rw [exchange_append, exchange_of_not_mem hname.clean.lower.spaceless,
      exchange_of_not_mem hkey.spaceless]
    simp [exchange]
  rw [hwritten, place_of_foreign hname hkey hsound.start]
  exact ⟨hsettle, hname.clean.lower.append_colon hkey,
    Key.head?_append_ne_colon (lower_ne_nil hname.ne_nil) hname.lower_colonless, hexternal⟩

/-! ### The round trip -/

/-- Whether every namespace of the table is found by its name as it is written, and only these
are found. -/
structure Faithful (r : Resolver Id) : Prop where
  spells : ∀ ns, r.table.contains ns = true → ns ≠ Namespace.main → r.Spells ns
  finds : ∀ ns, r.table.contains ns = true → ns ≠ Namespace.main →
    r.table.find? (String.ofList (r.spelling ns)) = some ns
  only : ∀ name ns, r.table.find? name = some ns → r.table.contains ns = true

/-- What was settled at a place of this wiki comes back exactly if it is stable. -/
theorem parse_fullText_of_local (hfaithful : r.Faithful) {spot : Place}
    (hspot : Key.Clean spot.key) (hspaced : Key.Spaced true fragment) (hnul : '\x00' ∉ fragment)
    (hsettle : r.settle spot (String.ofList (exchange '_' ' ' fragment)) = .ok t)
    (hwiki : spot.interwiki = "")
    (hreal : spot.ns = Namespace.main ∨ r.table.contains spot.ns = true) :
    (r.parse (r.fullText t).run Namespace.main).run = .ok t ↔
      t.isExternal = true ∨ r.Stable t := by
  obtain ⟨hlocal, hsame, hfragment⟩ : t.isExternal = false ∧ t.ns = spot.ns ∧
      t.fragment = String.ofList (exchange '_' ' ' fragment) := by
    obtain ⟨_, _, rfl⟩ := settle_eq_ok_iff.1 hsettle
    refine ⟨?_, rfl, rfl⟩
    rw [Title.isExternal, make_interwiki, hwiki]
    rfl
  have hcontains : t.ns ≠ Namespace.main → r.table.contains t.ns = true := by
    rw [hsame]
    exact hreal.resolve_left
  have hspells : t.ns ≠ Namespace.main → r.Spells t.ns := fun hne =>
    hfaithful.spells t.ns (hcontains hne) hne
  have hfinds : t.ns ≠ Namespace.main →
      r.table.find? (String.ofList (r.spelling t.ns)) = some t.ns := fun hne =>
    hfaithful.finds t.ns (hcontains hne) hne
  have hkey := storable_of_settle hspot hsettle hlocal
  obtain ⟨hclean, hhead⟩ := prefixedKey_clean hlocal hkey hspells
  rw [run_parse_fullText hclean hhead hspaced hnul hfragment,
    reread_iff hlocal hkey fun hne => ⟨hspells hne, hfinds hne⟩, hlocal]
  simp

theorem parse_fullText_iff (hfaithful : r.Faithful) {text : String}
    (hns : r.table.contains ns = true) (h : (r.parse text ns).run = .ok t) :
    (r.parse (r.fullText t).run Namespace.main).run = .ok t ↔
      t.isExternal = true ∨ r.Stable t := by
  obtain ⟨start, spot, fragment, hstart, hreached, hspot, hspaced, hnul, hsettle⟩ :=
    exists_of_parse h
  cases hreached with
  | here key =>
      refine parse_fullText_of_local hfaithful hspot hspaced hnul hsettle rfl ?_
      rcases hstart with rfl | hmain
      · exact Or.inr hns
      · exact Or.inl hmain
  | named key hfind =>
      exact parse_fullText_of_local hfaithful hspot hspaced hnul hsettle rfl
        (Or.inr (hfaithful.only _ _ hfind))
  | away key hforeign =>
      have hfragment : t.fragment = String.ofList (exchange '_' ' ' fragment) := by
        obtain ⟨_, _, rfl⟩ := settle_eq_ok_iff.1 hsettle
        rfl
      obtain ⟨hread, hclean, hhead, hexternal⟩ := reread_of_foreign hforeign hspot hsettle
      rw [run_parse_fullText hclean hhead hspaced hnul hfragment, hread, hexternal]
      simp

/-! ### Wikis with the built-in namespaces -/

/-- How titles are read and written where no namespaces are named besides the built-in ones. -/
def plain (settings : Title.Settings) (capitalLinks : Bool) : Resolver Id :=
  ⟨settings, capitalLinks, Namespace.Table.plain capitalLinks⟩

theorem plain_names : ∀ ns ∈ Namespace.builtin.map (·.1), ns ≠ Namespace.main →
    let name := exchange ' ' '_' ((Namespace.Table.plain true).text ns).toList
    Key.normalize name = name ∧ name ≠ [] ∧ ':' ∉ name ∧ '#' ∉ name ∧ '\x00' ∉ name ∧
      (Namespace.Table.plain true).find? (String.ofList name) = some ns := by
  have hwritten : ∀ ns ∈ Namespace.builtin.map (·.1), ns ≠ Namespace.main →
      let text := (Namespace.Table.plain true).text ns
      (Namespace.Table.plain true).name? ns = some text ∧ ' ' ∉ text.toList ∧
        Key.normalize text.toList = text.toList ∧ text.toList ≠ [] ∧ ':' ∉ text.toList ∧
        '#' ∉ text.toList ∧ '\x00' ∉ text.toList := by
    decide +kernel
  intro ns hns hne
  obtain ⟨hname, hspace, hnormal, hfull, hcolon, hhash, hnul⟩ := hwritten ns hns hne
  have hfind := Namespace.Table.find?_plain hname fun hempty => hfull (by rw [hempty]; rfl)
  rw [exchange_of_not_mem hspace]
  exact ⟨hnormal, hfull, hcolon, hhash, hnul, String.ofList_toList.symm ▸ hfind⟩

theorem plain_faithful (settings : Title.Settings) (capitalLinks : Bool) :
    (plain settings capitalLinks).Faithful := by
  have hnames : ∀ ns, (plain settings capitalLinks).table.contains ns = true →
      ns ≠ Namespace.main → _ := fun ns hns hne =>
    plain_names ns (Namespace.Table.mem_builtin_of_contains_plain true hns) hne
  constructor
  · intro ns hns hne
    obtain ⟨hnormal, hfull, hcolon, hhash, hnul, _⟩ := hnames ns hns hne
    exact ⟨⟨Key.spaced_of_normalize_eq hnormal, hhash, hnul⟩, hfull, hcolon⟩
  · intro ns hns hne
    obtain ⟨_, _, _, _, _, hfind⟩ := hnames ns hns hne
    exact hfind
  · exact fun name ns h => Namespace.Table.contains_of_find? h

/-- A title that was read is read again from its full text exactly if it lies in another wiki or
is stable. -/
theorem parse_fullText_plain_iff (settings : Title.Settings) (capitalLinks : Bool) (text : String)
    (ns : Int) (t : Title) (hns : (Namespace.Table.plain capitalLinks).contains ns = true)
    (h : ((plain settings capitalLinks).parse text ns).run = .ok t) :
    ((plain settings capitalLinks).parse ((plain settings capitalLinks).fullText t).run
        Namespace.main).run = .ok t ↔
      t.isExternal = true ∨ (plain settings capitalLinks).Stable t :=
  parse_fullText_iff (plain_faithful settings capitalLinks) hns h

/-- A page of a built-in namespace comes back. -/
theorem parse_fullText_plain_help :
    (Namespace.Table.plain true).contains Namespace.main = true ∧
      ((plain {} true).parse "Help:foo" Namespace.main).run = .ok (make 12 "Foo" "" "") ∧
      ((plain {} true).parse ((plain {} true).fullText (make 12 "Foo" "" "")).run
        Namespace.main).run = .ok (make 12 "Foo" "" "") := by
  have hcontains : (Namespace.Table.plain true).contains Namespace.main = true := by
    decide
  have hclean : Key.Clean "Help:foo".toList :=
    ⟨Key.spaced_of_normalize_eq (by decide), by decide, by decide⟩
  have hcut : Key.cutPrefix? "Help:foo".toList =
      some ((plain {} true).spelling 12, "foo".toList) := by
    decide
  have hplace : ((plain {} true).place Namespace.main "Help:foo".toList).run =
      .ok ⟨12, "", "foo".toList⟩ := by
    rw [place_of_find? hcut ((plain_faithful {} true).finds 12 (by decide) (by decide))]
    rfl
  have hparse : ((plain {} true).parse "Help:foo" Namespace.main).run =
      .ok (make 12 "Foo" "" "") := by
    rw [run_parse_of_place hclean (by decide) hplace, settle_eq_ok_iff]
    decide
  refine ⟨hcontains, hparse, ?_⟩
  apply (parse_fullText_plain_iff {} true "Help:foo" Namespace.main _ hcontains hparse).2
  refine Or.inr ⟨Or.inr (by decide), fun hmain => ?_, fun htalk => ?_⟩
  · exact absurd hmain (by decide)
  · exact absurd htalk (by decide)

/-- The long s is no capital letter, so `ſpecial` names no namespace; its capital form does. -/
theorem parse_fullText_plain_long_s :
    ((plain {} true).parse "ſpecial:foo" Namespace.main).run =
        .ok (make Namespace.main "Special:foo" "" "") ∧
      ((plain {} true).parse
          ((plain {} true).fullText (make Namespace.main "Special:foo" "" "")).run
          Namespace.main).run ≠ .ok (make Namespace.main "Special:foo" "" "") := by
  have hplain : (plain {} true).Unprefixed "ſpecial:foo".toList := by
    intro name rest h
    have hcut : Key.cutPrefix? "ſpecial:foo".toList = some ("ſpecial".toList, "foo".toList) := by
      decide
    rw [hcut] at h
    cases h
    decide +kernel
  have hclean : Key.Clean "ſpecial:foo".toList :=
    ⟨Key.spaced_of_normalize_eq (by decide), by decide, by decide⟩
  have hparse : ((plain {} true).parse "ſpecial:foo" Namespace.main).run =
      .ok (make Namespace.main "Special:foo" "" "") := by
    rw [run_parse_of_place hclean (by decide) (place_of_unprefixed hplain), settle_eq_ok_iff]
    decide
  refine ⟨hparse, fun h => ?_⟩
  have hcontains : (plain {} true).table.contains Namespace.main = true := by decide
  rcases (parse_fullText_iff (plain_faithful {} true) hcontains hparse).1 h with haway | hstable
  · exact absurd haway (by decide)
  · have hcut : Key.cutPrefix? "Special:foo".toList =
        some ((plain {} true).spelling Namespace.special, "foo".toList) := by
      decide
    have hnone := (hstable.plain rfl _ _ hcut).1
    rw [(plain_faithful {} true).finds _ (by decide) (by decide)] at hnone
    cases hnone

end WikiEntry.Resolver
