import WikiEntry.Proofs.Title.Shape
import WikiEntry.Proofs.Title.Writing

/-!
# Reading what was written

The prefixed key of a title is read back as the title if the name of its namespace is found and
the key passes the checks and is not read as a prefix of its own. A key that is read as prefixed
comes out with fewer colons, so it does not come out as itself.
-/

namespace WikiEntry

open Text

namespace Title.Key

variable {key : List Char}

/-- What spaces are read as does not matter to a clean key. -/
theorem normalize_exchange_append {fragment : List Char}
    (hkey : Spaced false (exchange ' ' '_' key)) (hfragment : Spaced true fragment) :
    normalize (exchange '_' ' ' key ++ '#' :: exchange '_' ' ' fragment) =
      exchange ' ' '_' key ++ '#' :: fragment := by
  have hback : Spaced false (exchange ' ' '_' key ++ '#' :: fragment) :=
    spaced_append_cons not_isSeparator_hash hkey hfragment
  have hwhole : exchange '_' ' ' key ++ '#' :: exchange '_' ' ' fragment =
      exchange '_' ' ' (key ++ '#' :: fragment) := by
    rw [exchange_append]
    rfl
  have hspaces : exchange ' ' '_' (key ++ '#' :: fragment) =
      exchange ' ' '_' key ++ '#' :: fragment := by
    have hfree : exchange ' ' '_' fragment = fragment :=
      exchange_of_not_mem hfragment.space_not_mem
    rw [exchange_append]
    change exchange ' ' '_' key ++ '#' :: exchange ' ' '_' fragment = _
    rw [hfree]
  rw [hwhole, normalize_exchange '_' ' ' rfl rfl, ← normalize_exchange ' ' '_' rfl rfl,
    hspaces, normalize_of_spaced hback]

theorem normalize_exchange_underscore (hkey : Spaced false (exchange ' ' '_' key)) :
    normalize (exchange '_' ' ' key) = exchange ' ' '_' key := by
  rw [normalize_exchange '_' ' ' rfl rfl, ← normalize_exchange ' ' '_' rfl rfl,
    normalize_of_spaced hkey]

end Title.Key

namespace Resolver

open Title

variable {r : Resolver Id} {t : Title} {ns : Int} {key name rest fragment : List Char}

/-! ### Clean texts -/

/-- A clean text has no fragment, and prefixes are looked for at once. -/
theorem run_parse_of_clean {text : String} (h : Key.Clean text.toList)
    (hhead : text.toList.head? ≠ some ':') (ns : Int) :
    (r.parse text ns).run = (r.place ns text.toList).run.bind fun spot => r.settle spot "" := by
  rw [run_parse h.nulless, Key.normalize_of_spaced h.spaced, cutFragment_of_not_mem h.hashless,
    cutColon_of_head?_ne hhead]

theorem run_parse_of_place {text : String} {spot : Place} (h : Key.Clean text.toList)
    (hhead : text.toList.head? ≠ some ':') (hplace : (r.place ns text.toList).run = .ok spot) :
    (r.parse text ns).run = r.settle spot "" := by
  rw [run_parse_of_clean h hhead, hplace]
  rfl

/-- A text without colons is the key of a page of the namespace it is read in. -/
theorem run_parse_of_colonless {text : String} (h : Key.Clean text.toList)
    (hcolon : ':' ∉ text.toList) (ns : Int) :
    (r.parse text ns).run = r.settle ⟨ns, "", text.toList⟩ "" := by
  have hhead : text.toList.head? ≠ some ':' := fun hhead =>
    hcolon (List.mem_of_head? hhead)
  have hplain : r.Unprefixed text.toList := by
    intro name rest hcut
    obtain ⟨before, after, heq, _⟩ := Key.exists_of_cutPrefix? hcut
    rw [heq] at hcolon
    exact absurd (List.mem_append_right _ List.mem_cons_self) hcolon
  exact run_parse_of_place h hhead (place_of_unprefixed hplain)

/-- The full text of a title is read like its prefixed key, and the fragment is found again. -/
theorem run_parse_fullText (hkey : Key.Clean (r.prefixedKey t).run.toList)
    (hhead : (r.prefixedKey t).run.toList.head? ≠ some ':') (hspaced : Key.Spaced true fragment)
    (hnul : '\x00' ∉ fragment)
    (hfragment : t.fragment = String.ofList (exchange '_' ' ' fragment)) (ns : Int) :
    (r.parse (r.fullText t).run ns).run =
      (r.place ns (r.prefixedKey t).run.toList).run.bind fun spot => r.settle spot t.fragment := by
  have hwritten : (r.prefixedKey t).run.toList = exchange ' ' '_' (r.lead t ++ t.key.toList) := by
    have hfree : exchange ' ' '_' t.key.toList = t.key.toList := exchange_of_not_mem t.key_spaceless
    rw [run_prefixedKey, String.toList_ofList, exchange_append, hfree]
  rw [hwritten] at hkey hhead ⊢
  have hnul' : '\x00' ∉ exchange '_' ' ' (r.lead t ++ t.key.toList) := fun hmem =>
    hkey.nulless (mem_exchange_of_mem (mem_of_mem_exchange hmem (by decide)) (by decide))
  cases hempty : t.hasFragment with
  | false =>
      have htext : (r.fullText t).run.toList = exchange '_' ' ' (r.lead t ++ t.key.toList) := by
        rw [toList_fullText, hempty, if_neg Bool.false_ne_true, List.append_nil]
      have hnone : t.fragment = "" := by simpa [Title.hasFragment] using hempty
      rw [run_parse (htext ▸ hnul'), htext, Key.normalize_exchange_underscore hkey.spaced,
        cutFragment_of_not_mem hkey.hashless, cutColon_of_head?_ne hhead, hnone]
  | true =>
      have htext : (r.fullText t).run.toList =
          exchange '_' ' ' (r.lead t ++ t.key.toList) ++ '#' :: exchange '_' ' ' fragment := by
        rw [toList_fullText, hempty, if_pos rfl, hfragment, String.toList_ofList]
      have hfragmentNul : '\x00' ∉ exchange '_' ' ' fragment := fun hmem =>
        hnul (mem_of_mem_exchange hmem (by decide))
      have htextNul : '\x00' ∉ (r.fullText t).run.toList := by
        rw [htext]
        simp [hnul', hfragmentNul]
      rw [run_parse htextNul, htext, Key.normalize_exchange_append hkey.spaced hspaced,
        cutFragment_append hkey.hashless, hkey.spaced.dropEndWhile_eq, cutColon_of_head?_ne hhead,
        hfragment]

/-! ### Prefixes that are taken away -/

/-- Keys only lose colons. -/
theorem count_colon_le_of_place {spot : Place} (h : (r.place ns key).run = .ok spot) :
    spot.key.count ':' ≤ key.count ':' := by
  refine place_induction r ns (motive := fun key spot => spot.key.count ':' ≤ key.count ':')
    ?plain ?named ?home ?away h
  case plain => exact fun key _ => Nat.le_refl _
  case named =>
    intro key name rest found hcut _
    exact Nat.le_of_lt (Key.count_colon_lt_of_cutPrefix? hcut)
  case home =>
    intro key name rest spot hcut _ _ ih
    exact Nat.le_of_lt (Nat.lt_of_le_of_lt ih (Key.count_colon_lt_of_cutPrefix? hcut))
  case away =>
    intro key name rest hcut _ _ _
    exact Nat.le_trans (count_colon_cutColon_le _ rest)
      (Nat.le_of_lt (Key.count_colon_lt_of_cutPrefix? hcut))

/-- A key that is not read as it stands loses a colon. -/
theorem count_colon_lt_of_place {spot : Place} (hplain : ¬r.Unprefixed key)
    (h : (r.place ns key).run = .ok spot) : spot.key.count ':' < key.count ':' := by
  rcases r.place_cases ns key with ⟨h', _⟩ |
    ⟨name, rest, hcut, ⟨found, _, h'⟩ | ⟨_, _, h'⟩ | ⟨_, _, _, h'⟩⟩
  · exact absurd h' hplain
  · rw [h'] at h
    split at h
    · cases h
    · cases h
      exact Key.count_colon_lt_of_cutPrefix? hcut
  · rw [h'] at h
    exact Nat.lt_of_le_of_lt (count_colon_le_of_place h) (Key.count_colon_lt_of_cutPrefix? hcut)
  · rw [h'] at h
    cases h
    exact Nat.lt_of_le_of_lt (count_colon_cutColon_le _ rest)
      (Key.count_colon_lt_of_cutPrefix? hcut)

theorem count_colon_of_settle {spot : Place} {fragment : String}
    (h : r.settle spot fragment = .ok t) : t.key.toList.count ':' = spot.key.count ':' := by
  obtain ⟨_, _, rfl⟩ := settle_eq_ok_iff.1 h
  have hstored : (r.stored spot).count ':' = spot.key.count ':' := by
    unfold stored
    split
    · exact Key.count_colon_upperFirst spot.key
    · rfl
  rw [make_key, String.toList_ofList, String.toList_ofList, count_exchange (by decide) (by decide),
    hstored]

/-! ### Titles of this wiki -/

/-- The name of a namespace as it is written before a key. -/
def spelling (r : Resolver Id) (ns : Int) : List Char :=
  exchange ' ' '_' (r.table.text ns).toList

/-- Whether what is written for a namespace is cut off again as it was written. -/
structure Spells (r : Resolver Id) (ns : Int) : Prop where
  clean : Key.Clean (r.spelling ns)
  ne_nil : r.spelling ns ≠ []
  colonless : ':' ∉ r.spelling ns

/-- A name without the marks that cut a text is cut off again if it is normalised already. -/
theorem spells_of_written (hwritten : ∀ c ∈ [':', '#', '\x00'], c ∉ (r.table.text ns).toList)
    (hnormal : Key.normalize (r.spelling ns) = r.spelling ns) (hne : r.table.text ns ≠ "") :
    r.Spells ns := by
  have hfree : ∀ c ∈ [':', '#', '\x00'], c ∉ r.spelling ns := by
    intro c hc hmem
    refine hwritten c hc (mem_of_mem_exchange hmem ?_)
    rintro rfl
    exact absurd hc (by decide)
  refine ⟨⟨Key.spaced_of_normalize_eq hnormal, hfree _ (by decide), hfree _ (by decide)⟩,
    ?_, hfree _ (by decide)⟩
  intro hnil
  have hname : (r.table.text ns).toList = [] := by
    simpa [spelling, exchange] using hnil
  exact hne (String.toList_eq_nil_iff.1 hname)

/-- Whether a key could have been stored in a namespace, its length aside. -/
structure Storable (r : Resolver Id) (ns : Int) (key : List Char) : Prop where
  clean : Key.Clean key
  sound : Key.Sound key
  ne_nil : key ≠ []
  capital : r.stored ⟨ns, "", key⟩ = key

/-- What it takes for a title of this wiki to be read again: the key is not too long, in the main
namespace no prefix of it means anything, and a talk page does not seem to lie elsewhere. -/
structure Stable (r : Resolver Id) (t : Title) : Prop where
  short : t.ns = Namespace.special ∨ Key.byteLength t.key.toList ≤ Key.maxLength
  plain : t.ns = Namespace.main → r.Unprefixed t.key.toList
  home : Namespace.isTalk t.ns = true → r.leadsAway t.key.toList = false

theorem toList_prefixedKey_main (hlocal : t.isExternal = false) (hns : t.ns = Namespace.main) :
    (r.prefixedKey t).run.toList = t.key.toList := by
  rw [run_prefixedKey, lead, hlocal, if_neg Bool.false_ne_true, if_pos hns]
  simp [exchange_nil]

theorem toList_prefixedKey_of_ne_main (hlocal : t.isExternal = false)
    (hns : t.ns ≠ Namespace.main) :
    (r.prefixedKey t).run.toList = r.spelling t.ns ++ ':' :: t.key.toList := by
  rw [run_prefixedKey, lead, hlocal, if_neg Bool.false_ne_true, if_neg hns, spelling,
    List.nil_append, exchange_append]
  simp [exchange]

/-- A prefixed key of this wiki starts with no colon and is clean. -/
theorem prefixedKey_clean (hlocal : t.isExternal = false) (hkey : r.Storable t.ns t.key.toList)
    (hspells : t.ns ≠ Namespace.main → r.Spells t.ns) :
    Key.Clean (r.prefixedKey t).run.toList ∧ (r.prefixedKey t).run.toList.head? ≠ some ':' := by
  by_cases hns : t.ns = Namespace.main
  · rw [toList_prefixedKey_main hlocal hns]
    exact ⟨hkey.clean, hkey.sound.start⟩
  · have hname := hspells hns
    rw [toList_prefixedKey_of_ne_main hlocal hns]
    exact ⟨hname.clean.append_colon hkey.clean,
      Key.head?_append_ne_colon hname.ne_nil hname.colonless⟩

theorem interwiki_of_local (hlocal : t.isExternal = false) : t.interwiki = "" := by
  simpa [Title.isExternal] using hlocal

theorem make_of_local (hlocal : t.isExternal = false) :
    make t.ns (String.ofList t.key.toList) t.fragment "" = t := by
  have h := make_self t
  rw [interwiki_of_local hlocal] at h
  rw [String.ofList_toList, h]

theorem settle_own_iff (hlocal : t.isExternal = false) (hkey : r.Storable t.ns t.key.toList) :
    r.settle ⟨t.ns, "", t.key.toList⟩ t.fragment = .ok t ↔
      t.ns = Namespace.special ∨ Key.byteLength t.key.toList ≤ Key.maxLength := by
  rw [settle_eq_ok_iff, Key.fault?_eq_none_iff, hkey.capital]
  constructor
  · exact fun h => h.1.2
  · exact fun h => ⟨⟨hkey.sound, h⟩, Or.inl hkey.ne_nil, (make_of_local hlocal).symm⟩

/-- A title of this wiki is read back from its prefixed key exactly if it is stable. -/
theorem reread_iff (hlocal : t.isExternal = false) (hkey : r.Storable t.ns t.key.toList)
    (hname : t.ns ≠ Namespace.main →
      r.Spells t.ns ∧ r.table.find? (String.ofList (r.spelling t.ns)) = some t.ns) :
    ((r.place Namespace.main (r.prefixedKey t).run.toList).run.bind fun spot =>
      r.settle spot t.fragment) = .ok t ↔ r.Stable t := by
  by_cases hns : t.ns = Namespace.main
  · have hnotTalk : Namespace.isTalk t.ns = false := by
      rw [hns]
      decide
    rw [toList_prefixedKey_main hlocal hns]
    constructor
    · intro h
      obtain ⟨spot, hplace, hsettle⟩ := bind_settle_eq_ok h
      by_cases hplain : r.Unprefixed t.key.toList
      · rw [place_of_unprefixed hplain, ← hns] at hplace
        cases hplace
        refine ⟨(settle_own_iff hlocal hkey).1 hsettle, fun _ => hplain, fun htalk => ?_⟩
        rw [hnotTalk] at htalk
        exact Bool.noConfusion htalk
      · -- The key has lost a colon, so it is not the key of the title any more.
        have hlt := count_colon_lt_of_place hplain hplace
        have heq := count_colon_of_settle hsettle
        omega
    · intro h
      rw [place_of_unprefixed (h.plain hns), ← hns]
      exact (settle_own_iff hlocal hkey).2 h.short
  · obtain ⟨hspells, hfind⟩ := hname hns
    have hcut := Key.cutPrefix?_append hspells.ne_nil hspells.colonless hspells.clean.spaced
      hkey.clean.spaced
    rw [toList_prefixedKey_of_ne_main hlocal hns, place_of_find? hcut hfind]
    constructor
    · intro h
      split at h
      · cases h
      · rename_i haway
        refine ⟨(settle_own_iff hlocal hkey).1 h, fun hmain => absurd hmain hns, fun htalk => ?_⟩
        rw [htalk, Bool.true_and] at haway
        simpa using haway
    · intro h
      have haway : (Namespace.isTalk t.ns && r.leadsAway t.key.toList) = false := by
        cases htalk : Namespace.isTalk t.ns with
        | false => rfl
        | true => rw [h.home htalk, Bool.and_false]
      rw [haway, if_neg Bool.false_ne_true]
      exact (settle_own_iff hlocal hkey).2 h.short

/-- A prefix leads out of the main namespace with nothing but itself lost only if it is the name of
the namespace to which it leads. -/
theorem find?_of_place {spot : Place} (hcut : Key.cutPrefix? key = some (name, rest))
    (hplace : (r.place Namespace.main key).run = .ok spot) (hns : spot.ns ≠ Namespace.main)
    (hcount : spot.key.count ':' = rest.count ':') :
    r.table.find? (String.ofList name) = some spot.ns := by
  rcases r.place_cases Namespace.main key with ⟨_, h⟩ |
    ⟨name', rest', hcut', ⟨found, hfind, h⟩ | ⟨_, _, h⟩ | ⟨_, _, _, h⟩⟩
  · rw [h] at hplace
    cases hplace
    exact absurd rfl hns
  · rw [hcut] at hcut'
    cases hcut'
    rw [h] at hplace
    split at hplace
    · cases hplace
    · cases hplace
      exact hfind
  · -- What is left after a prefix of this wiki would have to lose its colons and keep them.
    rw [hcut] at hcut'
    cases hcut'
    rw [h] at hplace
    by_cases hplain : r.Unprefixed rest
    · rw [place_of_unprefixed hplain] at hplace
      cases hplace
      exact absurd rfl hns
    · have hlt := count_colon_lt_of_place hplain hplace
      omega
  · rw [h] at hplace
    cases hplace
    exact absurd rfl hns

/-- A title outside the main namespace is read back only if the name of its namespace is found
as it is written. -/
theorem find?_of_reread {fragment : String} (hlocal : t.isExternal = false)
    (hns : t.ns ≠ Namespace.main) (hspells : r.Spells t.ns) (hkey : Key.Clean t.key.toList)
    (h : ((r.place Namespace.main (r.prefixedKey t).run.toList).run.bind fun spot =>
      r.settle spot fragment) = .ok t) :
    r.table.find? (String.ofList (r.spelling t.ns)) = some t.ns := by
  have hcut := Key.cutPrefix?_append hspells.ne_nil hspells.colonless hspells.clean.spaced
    hkey.spaced
  rw [toList_prefixedKey_of_ne_main hlocal hns] at h
  obtain ⟨spot, hplace, hsettle⟩ := bind_settle_eq_ok h
  have hspot : spot.ns = t.ns := by
    obtain ⟨_, _, rfl⟩ := settle_eq_ok_iff.1 hsettle
    rfl
  have hfind := find?_of_place hcut hplace (hspot ▸ hns) (count_colon_of_settle hsettle).symm
  rwa [hspot] at hfind

end Resolver

end WikiEntry
