import WikiEntry.Proofs.Title.Reading

/-!
# The shape of titles that are read

What reading a text says about the title that comes of it. The key is clean: single underscores
between other characters, no number sign and no NUL. The title lies in the namespace that was
given, in the main namespace, or in one that a prefix has named; or it lies in another wiki, and
then its prefix would be read as that wiki again.
-/

namespace WikiEntry

open Text

namespace Title.Key

variable {key name rest : List Char}

/-- What holds of keys at every step of reading. -/
structure Clean (key : List Char) : Prop where
  spaced : Spaced false key
  hashless : '#' ∉ key
  nulless : '\x00' ∉ key

theorem Clean.spaceless (h : Clean key) : ' ' ∉ key := h.spaced.space_not_mem

theorem Clean.of_cutPrefix? (h : Clean key) (hcut : cutPrefix? key = some (name, rest)) :
    Clean name ∧ Clean rest := by
  obtain ⟨hname, hrest⟩ := spaced_of_cutPrefix? hcut h.spaced
  constructor
  · exact ⟨hname, fun hmem => h.hashless (mem_of_cutPrefix? hcut (Or.inl hmem)),
      fun hmem => h.nulless (mem_of_cutPrefix? hcut (Or.inl hmem))⟩
  · exact ⟨hrest, fun hmem => h.hashless (mem_of_cutPrefix? hcut (Or.inr hmem)),
      fun hmem => h.nulless (mem_of_cutPrefix? hcut (Or.inr hmem))⟩

theorem Clean.append_colon (hname : Clean name) (hrest : Clean rest) :
    Clean (name ++ ':' :: rest) := by
  refine ⟨spaced_append_cons not_isSeparator_colon hname.spaced hrest.spaced.weaken, ?_, ?_⟩
  · simp [hname.hashless, hrest.hashless]
  · simp [hname.nulless, hrest.nulless]

theorem Clean.upperFirst (h : Clean key) : Clean (upperFirst key) := by
  refine ⟨h.spaced.upperFirst, fun hmem => h.hashless ?_, fun hmem => h.nulless ?_⟩
  · exact mem_of_mem_upperFirst hmem (by decide)
  · exact mem_of_mem_upperFirst hmem (by decide)

theorem Clean.lower (h : Clean key) : Clean (lower key) := by
  refine ⟨h.spaced.lower, fun hmem => h.hashless ?_, fun hmem => h.nulless ?_⟩
  · exact mem_of_mem_lower hmem (by decide)
  · exact mem_of_mem_lower hmem (by decide)

theorem Clean.of_cutColon (h : Clean key) (ns : Int) : Clean (Resolver.cutColon ns key).2 := by
  unfold Resolver.cutColon
  split
  · rename_i rest
    have hrest : Spaced true rest :=
      (spaced_cons_of_not_isSeparator not_isSeparator_colon).1 h.spaced
    have hsub : ∀ c ∈ rest.dropWhile (fun c => c = '_'), c ∈ ':' :: rest := fun c hc =>
      List.mem_cons_of_mem _ ((List.dropWhile_sublist _).subset hc)
    exact ⟨hrest.dropWhile, fun hmem => h.hashless (hsub _ hmem),
      fun hmem => h.nulless (hsub _ hmem)⟩
  · exact h

theorem not_isSeparator_hash : isSeparator '#' = false := by decide

/-- The key and the fragment of a normalised text. -/
theorem exists_cutFragment (hspaced : Spaced false key) (hnul : '\x00' ∉ key) :
    ∃ front back, Resolver.cutFragment key = (front, exchange '_' ' ' back) ∧ Clean front ∧
      Spaced true back ∧ '\x00' ∉ back := by
  by_cases hhash : '#' ∈ key
  · obtain ⟨front, back, hkey, hfront⟩ := List.eq_append_cons_of_mem hhash
    subst hkey
    refine ⟨dropEndWhile (fun c => c = '_') front, back,
      Resolver.cutFragment_append hfront back, ⟨hspaced.dropEndWhile, ?_, ?_⟩,
      hspaced.of_append_cons not_isSeparator_hash, ?_⟩
    · exact fun hmem => hfront (mem_of_mem_dropEndWhile hmem)
    · exact fun hmem => hnul (List.mem_append_left _ (mem_of_mem_dropEndWhile hmem))
    · exact fun hmem => hnul (List.mem_append_right _ (List.mem_cons_of_mem _ hmem))
  · exact ⟨key, [], Resolver.cutFragment_of_not_mem hhash, ⟨hspaced, hhash, hnul⟩, spaced_nil,
      by simp⟩

theorem nul_not_mem_normalize {text : List Char} (h : '\x00' ∉ text) :
    '\x00' ∉ normalize text := not_mem_normalize h (by decide)

end Title.Key

namespace Resolver

open Title

variable {r : Resolver Id} {ns : Int} {key name rest fragment : List Char}

/-- Whether a name is read as the prefix of another wiki. -/
structure Foreign (r : Resolver Id) (name : List Char) : Prop where
  clean : Key.Clean name
  ne_nil : name ≠ []
  colonless : ':' ∉ name
  unknown : r.table.find? (String.ofList name) = none
  outside : r.settings.localInterwikis.contains (String.ofList (lower name)) = false
  known : r.settings.interwikis.contains (String.ofList (lower name)) = true

/-- The places to which prefixes lead from namespace `ns`. -/
inductive Reached (r : Resolver Id) (ns : Int) : Place → Prop
  | here (key : List Char) : Reached r ns ⟨ns, "", key⟩
  | named (key : List Char) {name : String} {found : Int}
      (h : r.table.find? name = some found) : Reached r ns ⟨found, "", key⟩
  | away (key : List Char) {name : List Char} (h : r.Foreign name) :
      Reached r ns ⟨Namespace.main, String.ofList (lower name), key⟩

theorem reached_of_place (hkey : Key.Clean key) {spot : Place}
    (h : (r.place ns key).run = .ok spot) : Key.Clean spot.key ∧ r.Reached ns spot := by
  revert hkey
  refine place_induction r ns
    (motive := fun key spot => Key.Clean key → Key.Clean spot.key ∧ r.Reached ns spot)
    ?plain ?named ?home ?away h
  case plain => exact fun key _ hkey => ⟨hkey, .here key⟩
  case named =>
    intro key name rest found hcut hfind hkey
    exact ⟨(hkey.of_cutPrefix? hcut).2, .named rest hfind⟩
  case home =>
    intro key name rest spot hcut _ _ ih hkey
    exact ih (hkey.of_cutPrefix? hcut).2
  case away =>
    intro key name rest hcut hfind hhome haway hkey
    obtain ⟨hname, hrest⟩ := hkey.of_cutPrefix? hcut
    exact ⟨hrest.of_cutColon _, .away _ ⟨hname, Key.ne_nil_of_cutPrefix? hcut,
      Key.colon_not_mem_of_cutPrefix? hcut, hfind, hhome, haway⟩⟩

/-- The key under which the page at a place is stored. -/
def stored (r : Resolver Id) (spot : Place) : List Char :=
  if spot.interwiki.isEmpty && Namespace.isCapitalized r.capitalLinks spot.ns then
    upperFirst spot.key
  else spot.key

theorem settle_eq (r : Resolver Id) (spot : Place) (fragment : String) :
    r.settle spot fragment =
      match Key.fault? spot.ns spot.key with
      | some fault => .error fault
      | none =>
        if r.stored spot = [] ∧ spot.interwiki.isEmpty then .error .empty
        else .ok (make spot.ns (String.ofList (r.stored spot)) fragment spot.interwiki) := rfl

theorem settle_eq_ok_iff {spot : Place} {fragment : String} {t : Title} :
    r.settle spot fragment = .ok t ↔
      Key.fault? spot.ns spot.key = none ∧
        (r.stored spot ≠ [] ∨ spot.interwiki.isEmpty = false) ∧
        t = make spot.ns (String.ofList (r.stored spot)) fragment spot.interwiki := by
  rw [settle_eq]
  constructor
  · intro h
    split at h
    · cases h
    · rename_i hfault
      split at h
      · cases h
      · rename_i hempty
        refine ⟨hfault, ?_, (Except.ok.inj h).symm⟩
        by_cases hkey : r.stored spot = []
        · exact Or.inr (by simpa [hkey] using hempty)
        · exact Or.inl hkey
  · rintro ⟨hfault, hempty, rfl⟩
    rw [hfault]
    dsimp only
    rw [if_neg]
    rintro ⟨hkey, hwiki⟩
    rcases hempty with hne | haway
    · exact hne hkey
    · rw [hwiki] at haway
      exact Bool.noConfusion haway

theorem stored_clean {spot : Place} (h : Key.Clean spot.key) : Key.Clean (r.stored spot) := by
  unfold stored
  split
  · exact h.upperFirst
  · exact h

theorem stored_sound {spot : Place} (h : Key.Sound spot.key) : Key.Sound (r.stored spot) := by
  unfold stored
  split
  · exact h.upperFirst
  · exact h

/-- What is settled has the key that is stored. -/
theorem toList_key_of_settle {spot : Place} {fragment : String} {t : Title}
    (hspot : Key.Clean spot.key) (h : r.settle spot fragment = .ok t) :
    t.key.toList = r.stored spot := by
  obtain ⟨_, _, rfl⟩ := settle_eq_ok_iff.mp h
  rw [make_key, String.toList_ofList, String.toList_ofList,
    exchange_of_not_mem (stored_clean hspot).spaceless]

theorem stored_stored (spot : Place) :
    r.stored { spot with key := r.stored spot } = r.stored spot := by
  cases hcap : spot.interwiki.isEmpty && Namespace.isCapitalized r.capitalLinks spot.ns with
  | true =>
      simp only [stored, hcap, if_true]
      exact upperFirst_upperFirst spot.key
  | false => simp only [stored, hcap, Bool.false_eq_true, if_false]

theorem clean_begun {text : String} (hnul : '\x00' ∉ text.toList) (ns : Int) :
    Key.Clean (begun text ns).2 := by
  obtain ⟨key, _, hcut, hkey, _⟩ :=
    Key.exists_cutFragment (Key.spaced_normalize text.toList) (Key.nul_not_mem_normalize hnul)
  rw [begun, hcut]
  exact hkey.of_cutColon ns

/-- Every title that is read is settled at a place that its prefixes lead to. -/
theorem exists_of_parse {text : String} {t : Title} (h : (r.parse text ns).run = .ok t) :
    ∃ start spot fragment, (start = ns ∨ start = Namespace.main) ∧ r.Reached start spot ∧
      Key.Clean spot.key ∧ Key.Spaced true fragment ∧ '\x00' ∉ fragment ∧
      r.settle spot (String.ofList (exchange '_' ' ' fragment)) = .ok t := by
  have hnul := nul_not_mem_of_parse h
  obtain ⟨_, fragment, hcut, _, hfragment, hfree⟩ :=
    Key.exists_cutFragment (Key.spaced_normalize text.toList) (Key.nul_not_mem_normalize hnul)
  obtain ⟨spot, hplace, hsettle⟩ := exists_place_of_parse h
  rw [fragmentOf, hcut] at hsettle
  obtain ⟨hspot, hreached⟩ := reached_of_place (clean_begun hnul ns) hplace
  exact ⟨_, spot, fragment, begun_fst text ns, hreached, hspot, hfragment, hfree, hsettle⟩

theorem key_isEmpty_of_parse {text : String} {t : Title} (h : (r.parse text ns).run = .ok t)
    (hlocal : t.isExternal = false) : t.key.isEmpty = false := by
  obtain ⟨_, spot, fragment, _, _, hspot, _, _, hsettle⟩ := exists_of_parse h
  obtain ⟨_, hne, rfl⟩ := settle_eq_ok_iff.1 hsettle
  have hwiki : spot.interwiki.isEmpty = true := by simpa [isExternal_make] using hlocal
  rcases hne with hne | haway
  · rw [make_key, String.toList_ofList, exchange_of_not_mem (stored_clean hspot).spaceless]
    simpa using hne
  · rw [hwiki] at haway
    exact Bool.noConfusion haway

/-- Pages of other wikis lie in the main namespace, whatever they are there. -/
theorem ns_of_parse_of_isExternal {text : String} {t : Title}
    (h : (r.parse text ns).run = .ok t) (hexternal : t.isExternal = true) :
    t.ns = Namespace.main := by
  obtain ⟨_, spot, fragment, _, hreached, _, _, _, hsettle⟩ := exists_of_parse h
  obtain ⟨_, _, rfl⟩ := settle_eq_ok_iff.1 hsettle
  cases hreached with
  | here key =>
      rw [isExternal_make] at hexternal
      simp at hexternal
  | named key hfind =>
      rw [isExternal_make] at hexternal
      simp at hexternal
  | away key hname => rfl

theorem fragment_of_parse {text : String} {t : Title} (h : (r.parse text ns).run = .ok t)
    (hhash : '#' ∉ text.toList) : t.fragment = "" := by
  have hnormal : '#' ∉ Key.normalize text.toList := Key.not_mem_normalize hhash (by decide)
  obtain ⟨spot, -, hsettle⟩ := exists_place_of_parse h
  rw [fragmentOf, cutFragment_of_not_mem hnormal] at hsettle
  obtain ⟨_, _, rfl⟩ := settle_eq_ok_iff.1 hsettle
  rfl

/-! ### What keys are made of -/

section Members

variable {c : Char}

theorem mem_of_mem_cutColon (h : c ∈ (cutColon ns key).2) : c ∈ key := by
  unfold cutColon at h
  split at h
  · exact List.mem_cons_of_mem _ ((List.dropWhile_sublist _).subset h)
  · exact h

theorem mem_of_mem_cutFragment (h : c ∈ (cutFragment key).1) : c ∈ key := by
  by_cases hhash : '#' ∈ key
  · obtain ⟨front, back, rfl, hfront⟩ := List.eq_append_cons_of_mem hhash
    rw [cutFragment_append hfront] at h
    exact List.mem_append_left _ (Key.mem_of_mem_dropEndWhile h)
  · rwa [cutFragment_of_not_mem hhash] at h

theorem mem_of_place {spot : Place} (h : (r.place ns key).run = .ok spot) (hc : c ∈ spot.key) :
    c ∈ key := by
  revert hc
  refine place_induction r ns (motive := fun key spot => c ∈ spot.key → c ∈ key)
    ?plain ?named ?home ?away h
  case plain => exact fun _ _ hc => hc
  case named => exact fun _ _ _ _ hcut _ hc => Key.mem_of_cutPrefix? hcut (.inr hc)
  case home => exact fun _ _ _ _ hcut _ _ ih hc => Key.mem_of_cutPrefix? hcut (.inr (ih hc))
  case away =>
    exact fun _ _ _ hcut _ _ _ hc => Key.mem_of_cutPrefix? hcut (.inr (mem_of_mem_cutColon hc))

/-- A title that is read has the key that is stored for the place that was found. -/
theorem exists_stored_of_parse {text : String} {t : Title} (h : (r.parse text ns).run = .ok t) :
    ∃ spot, (r.place (begun text ns).1 (begun text ns).2).run = .ok spot ∧ t.ns = spot.ns ∧
      t.key.toList = r.stored spot := by
  obtain ⟨spot, hplace, hsettle⟩ := exists_place_of_parse h
  have hclean := (reached_of_place (clean_begun (nul_not_mem_of_parse h) ns) hplace).1
  refine ⟨spot, hplace, ?_, toList_key_of_settle hclean hsettle⟩
  obtain ⟨-, -, rfl⟩ := settle_eq_ok_iff.mp hsettle
  rfl

/-- Reading a text brings nothing but word characters and underscores into the key. -/
theorem mem_of_mem_key {text : String} {t : Title} (h : (r.parse text ns).run = .ok t)
    (hc : c ∈ t.key.toList) (hword : isWordChar c = false) (hne : c ≠ '_') : c ∈ text.toList := by
  obtain ⟨spot, hplace, -, hkey⟩ := exists_stored_of_parse h
  rw [hkey] at hc
  have hspot : c ∈ spot.key := by
    unfold stored at hc
    split at hc
    · exact Key.mem_of_mem_upperFirst hc hword
    · exact hc
  have hnormal := mem_of_mem_cutFragment (mem_of_mem_cutColon (mem_of_place hplace hspot))
  exact (Key.mem_of_mem_normalizeFrom hnormal).resolve_right hne

end Members

end Resolver

end WikiEntry
