import WikiEntry.Proofs.Title.RoundTrip

/-!
# How long the keys of titles are

The length of a key is checked before its first letter becomes a capital, and a capital form can
take more octets than the letter: a small iota with diaeresis and tonos takes two, and its capital
form is a letter and two marks of two octets each. No letter grows by more than these four octets.
So keys that are stored may be that much longer than the checks allow, and no longer.
-/

namespace WikiEntry

open Text

namespace Title.Key

@[simp] theorem byteLength_nil : byteLength [] = 0 := rfl

@[simp] theorem byteLength_cons (c : Char) (key : List Char) :
    byteLength (c :: key) = c.utf8Size + byteLength key := rfl

@[simp] theorem byteLength_append (front back : List Char) :
    byteLength (front ++ back) = byteLength front + byteLength back := by
  induction front with
  | nil => simp
  | cons c front ih => rw [List.cons_append, byteLength_cons, ih, byteLength_cons, Nat.add_assoc]

@[simp] theorem byteLength_replicate (n : Nat) (c : Char) :
    byteLength (List.replicate n c) = n * c.utf8Size := by
  induction n with
  | zero => simp
  | succ n ih => rw [List.replicate_succ, byteLength_cons, ih, Nat.succ_mul, Nat.add_comm]

/-- The number of octets by which a capital form can be longer than its letter. -/
def maxGrowth : Nat := 4

theorem byteLength_upperExpansions : ∀ e ∈ upperExpansions,
    byteLength (e.2.map Char.ofNat) ≤ (Char.ofNat e.1).utf8Size + maxGrowth := by
  decide

theorem byteLength_upper_le (c : Char) : byteLength (upper c) ≤ c.utf8Size + maxGrowth := by
  rcases mapCase_cases upperExpansions upperRules c with
    ⟨_, _, m, _, himage⟩ | ⟨e, he, hcode, himage⟩ | ⟨_, _, himage⟩
  · -- One character never takes more than four octets.
    have hsize := (Char.ofNat m).utf8Size_le_four
    rw [upper, himage, byteLength_cons, byteLength_nil]
    unfold maxGrowth
    omega
  · have hsize := byteLength_upperExpansions e he
    rw [hcode, Char.ofNat_toNat] at hsize
    rw [upper, himage]
    exact hsize
  · rw [upper, himage, byteLength_cons, byteLength_nil]
    omega

theorem byteLength_upperFirst_le (key : List Char) :
    byteLength (upperFirst key) ≤ byteLength key + maxGrowth := by
  cases key with
  | nil => simp [upperFirst]
  | cons c rest =>
      have hsize := byteLength_upper_le c
      rw [upperFirst, byteLength_append, byteLength_cons]
      omega

/-! ### Keys of word characters -/

section Words

variable {key : List Char}

theorem not_mem_of_words (hkey : ∀ c ∈ key, isWordChar c = true) {c : Char}
    (hc : isWordChar c = false) : c ∉ key := fun hmem => by
  rw [hkey c hmem] at hc
  exact Bool.noConfusion hc

theorem Clean.of_words (hne : key ≠ []) (hkey : ∀ c ∈ key, isWordChar c = true) : Clean key where
  spaced := by
    have hspaced : Spaced false (key ++ []) := spaced_append_of_forall hne
      (fun c hc => not_isSeparator_of_isWordChar (hkey c hc)) spaced_nil
    rwa [List.append_nil] at hspaced
  hashless := not_mem_of_words hkey (by decide)
  nulless := not_mem_of_words hkey (by decide)

theorem Sound.of_forall_isWordChar (hne : key ≠ []) (hkey : ∀ c ∈ key, isWordChar c = true) :
    Sound key := by
  have hfault : fault? Namespace.main (['a'] ++ []) = none := by decide
  have hall := (fault?_eq_none_iff.mp hfault).1.of_words (List.cons_ne_nil _ _)
    (List.forall_mem_singleton.mpr (by decide)) hne hkey
  rwa [List.append_nil] at hall

end Words

end Title.Key

namespace Resolver

open Title

variable {r : Resolver Id} {text : String} {ns : Int} {t : Title}

/-- Where the prefixes of a text lead, and what of the text is left as a key. -/
def placeOf (r : Resolver Id) (text : String) (ns : Int) : Except TitleError Place :=
  let start := cutColon ns (cutFragment (Key.normalize text.toList)).1
  (r.place start.1 start.2).run

theorem exists_placeOf_of_parse (h : (r.parse text ns).run = .ok t) :
    ∃ spot fragment, r.placeOf text ns = .ok spot ∧ Key.Clean spot.key ∧
      r.settle spot fragment = .ok t := by
  obtain ⟨spot, hplace, hsettle⟩ := exists_place_of_parse h
  have hclean := clean_begun (nul_not_mem_of_parse h) ns
  exact ⟨spot, _, hplace, (reached_of_place hclean hplace).1, hsettle⟩

/-- How long the key of a title can be that was read: what the prefixes leave of the text is
within the limit, and a capital letter adds at most four octets. The limit is passed exactly if
the title begins with a capital letter that makes it so long. -/
theorem parse_byteLength (r : Resolver Id) (text : String) (ns : Int) (t : Title)
    (h : (r.parse text ns).run = .ok t) (hns : t.ns ≠ Namespace.special) :
    ∃ spot, r.placeOf text ns = .ok spot ∧ spot.ns = t.ns ∧ spot.interwiki = t.interwiki ∧
      t.key.toList = r.stored spot ∧ Key.byteLength spot.key ≤ Key.maxLength ∧
      Key.byteLength t.key.toList ≤ Key.maxLength + Key.maxGrowth ∧
      (Key.maxLength < Key.byteLength t.key.toList ↔
        t.isExternal = false ∧ Namespace.isCapitalized r.capitalLinks t.ns = true ∧
          ∃ c rest, spot.key = c :: rest ∧
            Key.maxLength < Key.byteLength (upper c) + Key.byteLength rest) := by
  obtain ⟨spot, fragment, hplace, hclean, hsettle⟩ := exists_placeOf_of_parse h
  have hkey := toList_key_of_settle hclean hsettle
  obtain ⟨hfault, -, rfl⟩ := settle_eq_ok_iff.mp hsettle
  have hshort : Key.byteLength spot.key ≤ Key.maxLength :=
    (Key.fault?_eq_none_iff.mp hfault).2.resolve_left hns
  refine ⟨spot, hplace, rfl, rfl, hkey, hshort, ?_⟩
  rw [hkey, isExternal_make, make_ns, stored]
  cases hcapital : spot.interwiki.isEmpty && Namespace.isCapitalized r.capitalLinks spot.ns with
  | false =>
      rw [if_neg Bool.false_ne_true]
      refine ⟨by omega, by omega, ?_⟩
      rintro ⟨hlocal, hlinks, -⟩
      simp_all
  | true =>
      rw [if_pos rfl]
      have hgrowth := Key.byteLength_upperFirst_le spot.key
      obtain ⟨hlocal, hlinks⟩ := Bool.and_eq_true_iff.mp hcapital
      refine ⟨by omega, fun hlong => ⟨by simp [hlocal], hlinks, ?_⟩, ?_⟩
      · cases hspot : spot.key with
        | nil => simp [hspot, upperFirst] at hlong
        | cons c rest =>
            rw [hspot, upperFirst, Key.byteLength_append] at hlong
            exact ⟨c, rest, rfl, hlong⟩
      · rintro ⟨-, -, c, rest, hspot, hlong⟩
        rwa [hspot, upperFirst, Key.byteLength_append]

/-! ### A key that is too long -/

/-- A key of 255 octets whose first letter grows by four when it becomes a capital. -/
def growing : List Char := '\u0390' :: 'a' :: List.replicate 63 '😀'

/-- The page that `growing` names, whose key has 259 octets. -/
def grown : Title :=
  make Namespace.main (String.ofList (['\u0399', '\u0308', '\u0301', 'a'] ++
    List.replicate 63 '😀')) "" ""

theorem isWordChar_of_mem_growing : ∀ c ∈ growing, isWordChar c = true := by
  intro c hc
  simp only [growing, List.mem_cons, List.mem_replicate] at hc
  obtain rfl | rfl | ⟨-, rfl⟩ := hc <;> decide

theorem parse_growing :
    ((plain {} true).parse (String.ofList growing) Namespace.main).run = .ok grown := by
  have hclean : Key.Clean growing := .of_words (by decide) isWordChar_of_mem_growing
  have hsound : Key.Sound growing := .of_forall_isWordChar (by decide) isWordChar_of_mem_growing
  have hcolon : ':' ∉ growing := fun hmem =>
    absurd (isWordChar_of_mem_growing ':' hmem) (by decide)
  have hstored : (plain {} true).stored ⟨Namespace.main, "", growing⟩ =
      ['\u0399', '\u0308', '\u0301', 'a'] ++ List.replicate 63 '😀' := by
    have hupper : upper '\u0390' = ['\u0399', '\u0308', '\u0301'] := by decide
    have hcapital : Namespace.isCapitalized true Namespace.main = true := by decide
    rw [stored, plain, hcapital, growing, upperFirst, hupper]
    rfl
  rw [run_parse_of_colonless (by rwa [String.toList_ofList]) (by rwa [String.toList_ofList]),
    settle_eq_ok_iff, String.toList_ofList, Key.fault?_eq_none_iff]
  refine ⟨⟨hsound, .inr ?_⟩, .inl ?_, ?_⟩
  · rw [growing, Key.byteLength_cons, Key.byteLength_cons, Key.byteLength_replicate]
    decide
  · rw [hstored]
    exact List.cons_ne_nil _ _
  · rw [hstored, grown]

theorem byteLength_grown : Key.byteLength grown.key.toList = 259 := by
  have hspace : ' ' ∉ ['\u0399', '\u0308', '\u0301', 'a'] ++ List.replicate 63 '😀' := by
    simp
  rw [grown, make_key, String.toList_ofList, String.toList_ofList, exchange_of_not_mem hspace,
    Key.byteLength_append, Key.byteLength_replicate]
  decide

theorem parse_byteLength_grown :
    ((plain {} true).parse (String.ofList growing) Namespace.main).run = .ok grown ∧
      grown.ns ≠ Namespace.special ∧
      Key.byteLength grown.key.toList ≤ Key.maxLength + Key.maxGrowth := by
  obtain ⟨_, _, _, _, _, _, hlimit, _⟩ :=
    parse_byteLength (plain {} true) _ Namespace.main grown parse_growing (by decide)
  exact ⟨parse_growing, by decide, hlimit⟩

/-- A title outside the special pages whose key has more than 255 octets. -/
theorem parse_overlong :
    ((plain {} true).parse (String.ofList growing) Namespace.main).run = .ok grown ∧
      grown.ns ≠ Namespace.special ∧ ¬Key.byteLength grown.key.toList ≤ Key.maxLength := by
  rw [byteLength_grown]
  exact ⟨parse_growing, by decide, by decide⟩

end Resolver

end WikiEntry
