import WikiEntry.Proofs.Title.Typed

/-!
# Titles that are made of parts

A title is made of parts by reading the text as if it had been typed after the name of its
namespace. The name is cut off first, and a namespace ends the search for prefixes, so whatever
the text holds stays in the key.

This takes a name that is found as it is normalised. A table finds a namespace by its name without
the blanks at the ends, and normalising writes spaces as underscores, which are no blanks. So a
name that starts with a tabulator and a space can be found as it is and not as it is normalised,
and a title of the namespace ends up in another one or nowhere.
-/

namespace WikiEntry

open Text

namespace Resolver

open Title

variable {r : Resolver Id} {ns : Int} {text fragment : String} {t : Title}

/-! ### Text and fragment -/

/-- A text with its fragment, as they are typed. -/
def joined (text fragment : String) : String :=
  text ++ if fragment.isEmpty then "" else "#" ++ fragment

theorem nul_mem_joined_iff :
    '\x00' ∈ (joined text fragment).toList ↔ '\x00' ∈ text.toList ∨ '\x00' ∈ fragment.toList := by
  rw [joined]
  split
  · rename_i hempty
    obtain rfl := String.isEmpty_iff.mp hempty
    simp
  · simp

/-- The key is made of the text alone. -/
theorem beforeHash_joined (text fragment : String) :
    beforeHash (joined text fragment) = beforeHash text := by
  rw [joined]
  split
  · rw [String.append_empty]
  · have hmark : (text ++ ("#" ++ fragment)).toList = text.toList ++ '#' :: fragment.toList := by
      simp
    rw [beforeHash, beforeHash, hmark]
    by_cases hhash : '#' ∈ text.toList
    · obtain ⟨front, back, htext, hfront⟩ := List.eq_append_cons_of_mem hhash
      rw [htext, List.append_assoc, List.cons_append, takeWhile_ne_append hfront,
        takeWhile_ne_append hfront]
    · rw [takeWhile_ne_append hhash, takeWhile_ne_of_not_mem hhash]

/-- The key of a text before capital letters. -/
def keyOf (text : String) : List Char := Key.normalize (beforeHash text)

theorem keyOf_joined (text fragment : String) : keyOf (joined text fragment) = keyOf text := by
  rw [keyOf, beforeHash_joined, keyOf]

theorem keyOf_clean (hnul : '\x00' ∉ text.toList) : Key.Clean (keyOf text) := by
  have hhash : '#' ∉ beforeHash text := fun hmem => by
    simpa using List.all_eq_true.mp List.all_takeWhile '#' hmem
  have hfree : '\x00' ∉ beforeHash text := fun hmem =>
    hnul ((List.takeWhile_sublist _).subset hmem)
  exact ⟨Key.spaced_normalize _, Key.not_mem_normalize hhash (by decide),
    Key.nul_not_mem_normalize hfree⟩

/-! ### Names that stand before a text -/

namespace Spells

theorem not_mem_text (h : r.Spells ns) {c : Char} (hc : c ∈ ['#', '\x00']) :
    c ∉ (r.table.text ns).toList := by
  have hspelling : c ∉ r.spelling ns := by
    rcases List.mem_pair.mp hc with rfl | rfl
    · exact h.clean.hashless
    · exact h.clean.nulless
  refine fun hmem => hspelling (mem_exchange_of_mem hmem ?_)
  rintro rfl
  exact absurd hc (by decide)

/-- The name of a namespace is cut off as it is normalised, and the text after it is as it is on
its own. -/
theorem cutPrefix? (h : r.Spells ns) (text : List Char) :
    Key.cutPrefix? (Key.normalize ((r.table.text ns).toList ++ ':' :: text)) =
      some (r.spelling ns, Key.normalize text) := by
  have hexchange : exchange ' ' '_' ((r.table.text ns).toList ++ ':' :: text) =
      r.spelling ns ++ [] ++ ':' :: ([] ++ exchange ' ' '_' text) := by
    rw [exchange_append, spelling]
    simp [exchange]
  rw [← Key.normalize_exchange ' ' '_' rfl rfl, hexchange,
    Key.cutPrefix?_normalize h.clean.spaced h.ne_nil h.colonless (List.forall_mem_nil _)
      (List.forall_mem_nil _), Key.normalize_exchange ' ' '_' rfl rfl]

theorem run_parse (h : r.Spells ns) (hnul : '\x00' ∉ text.toList) :
    (r.parse (r.table.text ns ++ ":" ++ text) Namespace.main).run =
      (r.place Namespace.main
        (Key.normalize ((r.table.text ns).toList ++ ':' :: beforeHash text))).run.bind
          fun spot => r.settle spot (fragmentOf text) := by
  have hwhole : (r.table.text ns ++ ":" ++ text).toList =
      ((r.table.text ns).toList ++ [':']) ++ text.toList := by
    simp
  have hwholeNul : '\x00' ∉ (r.table.text ns ++ ":" ++ text).toList := by
    simp [hwhole, hnul, h.not_mem_text]
  have hhash : '#' ∉ (r.table.text ns).toList ++ [':'] := by
    simp [h.not_mem_text]
  have hhead := Key.head?_ne_of_cutPrefix? (h.cutPrefix? (beforeHash text))
  rw [Resolver.run_parse hwholeNul, hwhole, Key.cutFragment_normalize hhash, List.append_assoc,
    List.singleton_append]
  dsimp only
  rw [← beforeHash, cutColon_of_head?_ne hhead, fragmentOf]

/-- With a name that is found, all that matters is the key of the text. -/
theorem parse_eq_ok_iff (h : r.Spells ns)
    (hfind : r.table.find? (String.ofList (r.spelling ns)) = some ns) :
    (r.parse (r.table.text ns ++ ":" ++ text) Namespace.main).run = .ok t ↔
      '\x00' ∉ text.toList ∧ (Namespace.isTalk ns && r.leadsAway (keyOf text)) = false ∧
        r.settle ⟨ns, "", keyOf text⟩ (fragmentOf text) = .ok t := by
  by_cases hnul : '\x00' ∈ text.toList
  · have hwholeNul : '\x00' ∈ (r.table.text ns ++ ":" ++ text).toList := by simp [hnul]
    rw [run_parse_of_nul hwholeNul]
    simp [hnul]
  · rw [h.run_parse hnul, place_of_find? (h.cutPrefix? (beforeHash text)) hfind, ← keyOf]
    cases haway : Namespace.isTalk ns && r.leadsAway (keyOf text) with
    | true =>
        rw [if_pos rfl]
        simp [Except.bind]
    | false =>
        rw [if_neg Bool.false_ne_true]
        simp [Except.bind, hnul]

end Spells

/-! ### Staying where one is put -/

/-- Whether a title lies in a namespace, under the key that a text has there. -/
structure Contained (r : Resolver Id) (ns : Int) (text : String) (t : Title) : Prop where
  ns_eq : t.ns = ns
  here : t.isExternal = false
  key_eq : t.key.toList =
    if Namespace.isCapitalized r.capitalLinks ns then upperFirst (keyOf text) else keyOf text

theorem stored_local (r : Resolver Id) (ns : Int) (key : List Char) :
    r.stored ⟨ns, "", key⟩ =
      if Namespace.isCapitalized r.capitalLinks ns then upperFirst key else key := rfl

theorem contained_joined :
    r.Contained ns (joined text fragment) t ↔ r.Contained ns text t := by
  constructor
  · exact fun h => ⟨h.ns_eq, h.here, keyOf_joined text fragment ▸ h.key_eq⟩
  · exact fun h => ⟨h.ns_eq, h.here, (keyOf_joined text fragment).symm ▸ h.key_eq⟩

theorem contained_of_settle (hnul : '\x00' ∉ text.toList) {fragment : String}
    (h : r.settle ⟨ns, "", keyOf text⟩ fragment = .ok t) : r.Contained ns text t := by
  have hkey := toList_key_of_settle (keyOf_clean hnul) h
  obtain ⟨-, -, rfl⟩ := settle_eq_ok_iff.mp h
  exact ⟨rfl, rfl, hkey.trans (r.stored_local ns (keyOf text))⟩

theorem Contained.count_colon (h : r.Contained ns text t) :
    t.key.toList.count ':' = (keyOf text).count ':' := by
  rw [h.key_eq]
  split
  · exact Key.count_colon_upperFirst _
  · rfl

/-- What is read after a name stays in its namespace exactly if the name is found as it is
normalised. Otherwise a prefix of this wiki may still lead there, but it takes a colon of the key
away. -/
theorem Spells.contained_iff (hspells : r.Spells ns) (hns : ns ≠ Namespace.main)
    (h : (r.parse (r.table.text ns ++ ":" ++ text) Namespace.main).run = .ok t) :
    r.Contained ns text t ↔ r.table.find? (String.ofList (r.spelling ns)) = some ns := by
  constructor
  · intro hcontained
    have hnul : '\x00' ∉ text.toList := by
      have hwhole := nul_not_mem_of_parse h
      simp only [String.toList_append, List.mem_append, not_or] at hwhole
      exact hwhole.2
    rw [hspells.run_parse hnul] at h
    obtain ⟨spot, hplace, hsettle⟩ := bind_settle_eq_ok h
    have hspot : spot.ns = ns := by
      rw [← hcontained.ns_eq, (settle_eq_ok_iff.mp hsettle).2.2, make_ns]
    have hcount : spot.key.count ':' = (keyOf text).count ':' :=
      (count_colon_of_settle hsettle).symm.trans hcontained.count_colon
    have hfind := find?_of_place (hspells.cutPrefix? (beforeHash text)) hplace (hspot ▸ hns) hcount
    rwa [hspot] at hfind
  · intro hfind
    obtain ⟨hnul, -, hsettle⟩ := (hspells.parse_eq_ok_iff hfind).mp h
    exact contained_of_settle hnul hsettle

/-! ### Making titles of parts -/

theorem run_makeSafe (r : Resolver Id) (ns : Int) (text fragment interwiki : String) :
    (r.makeSafe ns text fragment interwiki).run =
      if r.table.contains ns = true then
        (r.parse ((if interwiki.isEmpty then "" else interwiki ++ ":") ++ r.table.text ns ++ ":" ++
          text ++ if fragment.isEmpty then "" else "#" ++ fragment) Namespace.main).run
      else .error (.unknownNamespace ns) := by
  have hrun : (r.makeSafe ns text fragment interwiki).run =
      (if (!r.table.contains ns) = true then throw (.unknownNamespace ns)
        else r.parse ((if interwiki.isEmpty then "" else interwiki ++ ":") ++ r.table.text ns ++
          ":" ++ text ++ if fragment.isEmpty then "" else "#" ++ fragment) Namespace.main :
        ExceptT TitleError Id Title).run := by
    unfold makeSafe
    -- What the text is read by does not matter, and is not to be unfolded.
    generalize r.parse = parse
    rfl
  rw [hrun]
  cases r.table.contains ns <;> rfl

theorem run_makeSafe_of_contains (h : r.table.contains ns = true) (text fragment : String) :
    (r.makeSafe ns text fragment "").run =
      (r.parse (r.table.text ns ++ ":" ++ joined text fragment) Namespace.main).run := by
  have hjoined : r.table.text ns ++ ":" ++ text ++
      (if fragment.isEmpty then "" else "#" ++ fragment) =
        r.table.text ns ++ ":" ++ joined text fragment := String.append_assoc
  rw [run_makeSafe, if_pos h, if_pos (by decide : "".isEmpty = true), String.empty_append, hjoined]

/-- Whether a namespace other than the main one has a name that can stand before a key and by
which it is found. -/
structure Nameable (r : Resolver Id) (ns : Int) : Prop where
  registered : r.table.contains ns = true
  other : ns ≠ Namespace.main
  written : ∀ c ∈ [':', '#', '\x00'], c ∉ (r.table.text ns).toList
  normal : Key.normalize (r.spelling ns) = r.spelling ns
  found : r.table.find? (r.table.text ns) = some ns

theorem nameable_of_free (hregistered : r.table.contains ns = true) (hother : ns ≠ Namespace.main)
    (hfree : ':' ∉ (r.table.text ns).toList ∧ '#' ∉ (r.table.text ns).toList ∧
      '\x00' ∉ (r.table.text ns).toList)
    (hnormal : Key.normalize (r.spelling ns) = r.spelling ns)
    (hfound : r.table.find? (r.table.text ns) = some ns) : r.Nameable ns :=
  ⟨hregistered, hother, by simpa using hfree, hnormal, hfound⟩

section Made

variable {settings : Title.Settings} {capitalLinks : Bool} {names : Std.TreeMap Int String}

theorem Nameable.spells (h : (ofNames settings capitalLinks names).Nameable ns) :
    (ofNames settings capitalLinks names).Spells ns :=
  spells_of_written h.written h.normal
    ((Namespace.Table.ofNames_coherent names).text_ne_empty h.found)

/-- A title made of parts stays in its namespace exactly if the namespace is found by its name as
it is normalised. -/
theorem Nameable.contained_iff (h : (ofNames settings capitalLinks names).Nameable ns)
    (hmade : ((ofNames settings capitalLinks names).makeSafe ns text fragment "").run = .ok t) :
    (ofNames settings capitalLinks names).Contained ns text t ↔
      (ofNames settings capitalLinks names).table.find?
        (String.ofList ((ofNames settings capitalLinks names).spelling ns)) = some ns := by
  rw [run_makeSafe_of_contains h.registered] at hmade
  have hjoined := h.spells.contained_iff h.other hmade
  rwa [contained_joined] at hjoined

end Made

/-- A title made of parts lies in its namespace under the key of the text, whatever the text and
the fragment are, if the namespace is found by its name as it is normalised, and otherwise never.
A number without a namespace is refused. -/
theorem makeSafe_contained (settings : Title.Settings) (capitalLinks : Bool)
    (names : Std.TreeMap Int String) (ns : Int) :
    let r := ofNames settings capitalLinks names
    (r.table.contains ns = false → ∀ text fragment interwiki,
      (r.makeSafe ns text fragment interwiki).run = .error (.unknownNamespace ns)) ∧
    (r.Nameable ns →
      (∀ text fragment t, (r.makeSafe ns text fragment "").run = .ok t →
        (r.Contained ns text t ↔ r.table.find? (String.ofList (r.spelling ns)) = some ns)) ∧
      (r.table.find? (String.ofList (r.spelling ns)) = some ns → ∀ text fragment t,
        ((r.makeSafe ns text fragment "").run = .ok t ↔
          '\x00' ∉ text.toList ∧ '\x00' ∉ fragment.toList ∧
            (Namespace.isTalk ns && r.leadsAway (keyOf text)) = false ∧
            r.settle ⟨ns, "", keyOf text⟩ (fragmentOf (joined text fragment)) = .ok t))) := by
  intro r
  refine ⟨fun hcontains text fragment interwiki => ?_, fun h => ⟨fun text fragment t hmade => ?_,
    fun hfind text fragment t => ?_⟩⟩
  · rw [run_makeSafe, hcontains, if_neg Bool.false_ne_true]
  · exact h.contained_iff hmade
  · rw [run_makeSafe_of_contains h.registered, h.spells.parse_eq_ok_iff hfind, nul_mem_joined_iff,
      not_or, keyOf_joined, and_assoc]

/-- Settings that know another wiki, and this one by a second name. -/
def neighboured : Title.Settings where
  interwikis := (∅ : Std.TreeMap String String).insert "wikipedia" "https://wikipedia.org/$1"
  localInterwikis := ["local"]

/-- A text full of prefixes is a key of the namespace of help. -/
theorem makeSafe_contained_help :
    let r := ofNames neighboured true plainNames
    r.Nameable 12 ∧ r.table.find? (String.ofList (r.spelling 12)) = some 12 ∧
      (r.makeSafe 12 "_ local:wikipedia: talk:Foo _bar #x" "y" "").run =
        .ok (make 12 "Local:wikipedia:_talk:Foo_bar" "x#y" "") ∧
      r.Contained 12 "_ local:wikipedia: talk:Foo _bar #x"
        (make 12 "Local:wikipedia:_talk:Foo_bar" "x#y" "") := by
  intro r
  have hfind : r.table.find? (String.ofList (r.spelling 12)) = some 12 :=
    (plain_faithful neighboured true).finds 12 (by decide) (by decide)
  have hname : r.table.text 12 = String.ofList (r.spelling 12) := by decide
  have hfound : r.table.find? (r.table.text 12) = some 12 := hname ▸ hfind
  have hnameable : r.Nameable 12 :=
    nameable_of_free (by decide) (by decide) (by decide) (by decide) hfound
  have hmade : (r.makeSafe 12 "_ local:wikipedia: talk:Foo _bar #x" "y" "").run =
      .ok (make 12 "Local:wikipedia:_talk:Foo_bar" "x#y" "") := by
    rw [((makeSafe_contained neighboured true plainNames 12).2 hnameable).2 hfind,
      settle_eq_ok_iff]
    decide
  exact ⟨hnameable, hfind, hmade, (((makeSafe_contained neighboured true plainNames 12).2
    hnameable).1 _ _ _ hmade).mpr hfind⟩

/-- The names of a wiki with one namespace that starts with a tabulator and a space, and one that
starts with an underscore. -/
def strayNames : Std.TreeMap Int String := Namespace.Settings.names
  ⟨∅, ((∅ : Std.TreeMap Int String).insert 100 "\t foo").insert 102 "_foo", true⟩

/-- A namespace that is found by its name may lose a title to another. -/
theorem makeSafe_stray :
    let r := ofNames {} true strayNames
    r.Nameable 100 ∧ (r.makeSafe 100 "Bar" "" "").run = .ok (make 102 "Bar" "" "") ∧
      ¬r.Contained 100 "Bar" (make 102 "Bar" "" "") := by
  intro r
  obtain ⟨hfound, hfind⟩ : r.table.find? (r.table.text 100) = some 100 ∧
      r.table.find? (String.ofList (r.spelling 100)) = some 102 := by
    decide +kernel
  have hnameable : r.Nameable 100 :=
    nameable_of_free (by decide) (by decide) (by decide) (by decide) hfound
  have hplace : (r.place Namespace.main
      (Key.normalize ((r.table.text 100).toList ++ ':' :: beforeHash (joined "Bar" "")))).run =
        .ok ⟨102, "", "Bar".toList⟩ := by
    rw [place_of_find? (hnameable.spells.cutPrefix? _) hfind]
    rfl
  have hsettle : r.settle ⟨102, "", "Bar".toList⟩ (fragmentOf (joined "Bar" "")) =
      .ok (make 102 "Bar" "" "") := by
    rw [settle_eq_ok_iff]
    decide
  refine ⟨hnameable, ?_, fun h => absurd h.ns_eq (by decide)⟩
  rw [run_makeSafe_of_contains hnameable.registered, hnameable.spells.run_parse (by decide), hplace]
  exact hsettle

end Resolver

end WikiEntry
