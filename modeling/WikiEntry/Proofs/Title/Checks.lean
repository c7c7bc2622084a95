import Mathlib.Tactic.Tauto
import WikiEntry.Proofs.Text.Pieces
import WikiEntry.Proofs.Title.Prefix

/-!
# Checks of keys and capital letters

The checks of a key come before its first letter is made a capital. Capital forms are made of
word characters, and every check but that of the length looks at other characters only. So a key
that has passed passes again with a capital letter, unless the capital letter is longer.
-/

namespace WikiEntry.Title.Key

open Text

/-- The checks that do not depend on the length. -/
structure Sound (key : List Char) : Prop where
  start : key.head? ≠ some ':'
  characters : ∀ c ∈ key, isForbidden c = false
  escapes : Percent.hasEscape key = false
  references : hasReference key = false
  path : isRelative key = false
  signatures : hasSignature key = false

theorem fault?_eq_none_iff {ns : Int} {key : List Char} :
    fault? ns key = none ↔ Sound key ∧ (ns = -1 ∨ byteLength key ≤ maxLength) := by
  unfold fault?
  constructor
  · intro h
    split at h
    · simp at h
    · rename_i hstart
      split at h
      · simp at h
      · rename_i hfind
        have hcharacters : ∀ c ∈ key, isForbidden c = false := by
          cases hbad : key.find? isForbidden with
          | none => simpa using hbad
          | some bad => exact absurd hbad (hfind bad)
        split at h
        · simp at h
        · split at h
          · simp at h
          · split at h
            · simp at h
            · split at h
              · simp at h
              · rename_i hescapes hreferences hpath hsignatures
                split at h
                · simp at h
                · rename_i hlength
                  refine ⟨⟨hstart, hcharacters, ?_, ?_, ?_, ?_⟩, ?_⟩
                  · simpa using hescapes
                  · simpa using hreferences
                  · simpa using hpath
                  · simpa using hsignatures
                  · omega
  · rintro ⟨⟨hstart, hcharacters, hescapes, hreferences, hpath, hsignatures⟩, hlength⟩
    have hfind : key.find? isForbidden = none := by simpa using hcharacters
    have hshort : ¬(ns ≠ -1 ∧ maxLength < byteLength key) := by omega
    simp [hstart, hfind, hescapes, hreferences, hpath, hsignatures, hshort]

/-- A path is relative if one of its segments is a dot or two. -/
theorem isRelative_iff {key : List Char} : isRelative key = true ↔
    ['.'] ∈ pieces (fun c => c = '/') key ∨ ['.', '.'] ∈ pieces (fun c => c = '/') key := by
  rw [mem_pieces_eq_iff (by decide), mem_pieces_eq_iff (by decide), isRelative]
  simp only [Bool.or_eq_true, decide_eq_true_iff, List.isPrefixOf_iff_prefix,
    List.isSuffixOf_iff_suffix, occurs_iff, List.cons_append, List.nil_append]
  tauto

theorem isRelative_iff_exists {key : List Char} : isRelative key = true ↔
    ∃ segment ∈ key.splitOn '/', segment = ['.'] ∨ segment = ['.', '.'] := by
  rw [isRelative_iff, pieces_eq_splitOn]
  constructor
  · rintro (h | h)
    · exact ⟨_, h, .inl rfl⟩
    · exact ⟨_, h, .inr rfl⟩
  · rintro ⟨segment, h, rfl | rfl⟩
    · exact .inl h
    · exact .inr h

/-! ### Texts after other characters -/

variable {front rest word : List Char} {c : Char}

theorem occurs_append_of_not_mem (hc : c ∉ front) (rest : List Char) :
    occurs (c :: word) (front ++ rest) = occurs (c :: word) rest := by
  induction front with
  | nil => rfl
  | cons d front ih =>
      have hne : c ≠ d := fun he => hc (he ▸ List.mem_cons_self)
      have htail := ih fun hmem => hc (List.mem_cons_of_mem d hmem)
      unfold occurs at htail ⊢
      rw [List.cons_append, cutWord?, after?, if_neg hne]
      simpa using htail

theorem isSuffixOf_append_of_not_mem (hword : ∀ d ∈ word, d ∉ front) (rest : List Char) :
    word.isSuffixOf (front ++ rest) = word.isSuffixOf rest := by
  rw [Bool.eq_iff_iff, List.isSuffixOf_iff_suffix, List.isSuffixOf_iff_suffix]
  constructor
  · intro h
    rcases List.suffix_or_suffix_of_suffix h (List.suffix_append front rest) with h' | ⟨start, rfl⟩
    · exact h'
    · have hstart : start <:+ front := (List.suffix_append_inj_of_length_eq rfl).1 h |>.1
      cases start with
      | nil => exact List.suffix_rfl
      | cons d start =>
          exact absurd (hstart.subset List.mem_cons_self) (hword d (by simp))
  · exact fun h => h.trans (List.suffix_append front rest)

theorem hasEscape_append_of_not_mem (hc : '%' ∉ front) (rest : List Char) :
    Percent.hasEscape (front ++ rest) = Percent.hasEscape rest := by
  induction front with
  | nil => rfl
  | cons d front ih =>
      have hne : d ≠ '%' := fun he => hc (he ▸ List.mem_cons_self)
      rw [List.cons_append, Percent.hasEscape, ih fun hmem => hc (List.mem_cons_of_mem d hmem)]
      simp [hne]

theorem hasReference_append_of_not_mem (hc : '&' ∉ front) (rest : List Char) :
    hasReference (front ++ rest) = hasReference rest := by
  induction front with
  | nil => rfl
  | cons d front ih =>
      have hne : d ≠ '&' := fun he => hc (he ▸ List.mem_cons_self)
      rw [List.cons_append, hasReference, ih fun hmem => hc (List.mem_cons_of_mem d hmem)]
      simp [hne]

/-- After a character that is neither a dot nor a slash, a path is relative because of what comes
later. -/
theorem isRelative_append_of_not_mem (hne : front ≠ []) (hdot : '.' ∉ front) (hslash : '/' ∉ front)
    (rest : List Char) :
    isRelative (front ++ rest) =
      (occurs ['/', '.', '/'] rest || occurs ['/', '.', '.', '/'] rest ||
        ['/', '.'].isSuffixOf rest || ['/', '.', '.'].isSuffixOf rest) := by
  have hone : ∀ d ∈ ['/', '.'], d ∉ front := by simp [hdot, hslash]
  have htwo : ∀ d ∈ ['/', '.', '.'], d ∉ front := by simp [hdot, hslash]
  rw [isRelative, occurs_append_of_not_mem hslash, occurs_append_of_not_mem hslash,
    isSuffixOf_append_of_not_mem hone, isSuffixOf_append_of_not_mem htwo]
  cases front with
  | nil => exact absurd rfl hne
  | cons d front =>
      have hd : d ≠ '.' := fun he => hdot (he ▸ List.mem_cons_self)
      have hbeq : ('.' == d) = false := by simpa using Ne.symm hd
      simp [hd, hbeq, List.isPrefixOf]

/-! ### Capital letters -/

/-- What a key passes with some word characters at its start, it passes with others there. -/
theorem Sound.of_words {front' : List Char} (h : Sound (front ++ rest)) (hne : front ≠ [])
    (hfront : ∀ c ∈ front, isWordChar c = true) (hne' : front' ≠ [])
    (hfront' : ∀ c ∈ front', isWordChar c = true) : Sound (front' ++ rest) := by
  have hfree : ∀ d, isWordChar d = false → d ∉ front ∧ d ∉ front' := by
    intro d hd
    constructor
    · intro hmem
      rw [hfront d hmem] at hd
      exact Bool.noConfusion hd
    · intro hmem
      rw [hfront' d hmem] at hd
      exact Bool.noConfusion hd
  have hescape := hfree '%' (by decide)
  have hreference := hfree '&' (by decide)
  have hdot := hfree '.' (by decide)
  have hslash := hfree '/' (by decide)
  have htilde := hfree '~' (by decide)
  constructor
  · cases front' with
    | nil => exact absurd rfl hne'
    | cons d front' =>
        have hd : d ≠ ':' := fun he =>
          (hfree ':' (by decide)).2 (he ▸ List.mem_cons_self)
        simpa using hd
  · intro c hc
    rcases List.mem_append.1 hc with hc | hc
    · have hcontrol := not_isControl_of_isWordChar (hfront' c hc)
      have hmarkup : isMarkup c = false := by
        rw [Bool.eq_false_iff]
        intro hmarkup
        have hword : ['<', '>', '[', ']', '|', '{', '}'].all (fun d => !isWordChar d) = true := by
          decide
        have hnot := List.all_eq_true.1 hword c (by simpa [isMarkup] using hmarkup)
        rw [hfront' c hc] at hnot
        exact Bool.noConfusion hnot
      rw [isForbidden, hcontrol, hmarkup, Bool.or_self]
    · exact h.characters c (List.mem_append_right _ hc)
  · rw [hasEscape_append_of_not_mem hescape.2, ← hasEscape_append_of_not_mem hescape.1]
    exact h.escapes
  · rw [hasReference_append_of_not_mem hreference.2, ← hasReference_append_of_not_mem hreference.1]
    exact h.references
  · rw [isRelative_append_of_not_mem hne' hdot.2 hslash.2,
      ← isRelative_append_of_not_mem hne hdot.1 hslash.1]
    exact h.path
  · rw [hasSignature, occurs_append_of_not_mem htilde.2, ← occurs_append_of_not_mem htilde.1]
    exact h.signatures

theorem Sound.upperFirst {key : List Char} (h : Sound key) : Sound (upperFirst key) := by
  cases key with
  | nil => exact h
  | cons c rest =>
      rw [Text.upperFirst]
      cases hword : isWordChar c with
      | false => rwa [upper_of_not_isWordChar hword]
      | true =>
          have hc : Sound ([c] ++ rest) := h
          apply hc.of_words (List.cons_ne_nil c []) _ (upper_ne_nil c)
          · exact fun d hd => isWordChar_of_mem_upper hword hd
          · simpa using hword

theorem mem_of_mem_upperFirst {key : List Char} (h : c ∈ upperFirst key)
    (hword : isWordChar c = false) : c ∈ key := by
  cases key with
  | nil => exact h
  | cons d rest =>
      rw [Text.upperFirst, List.mem_append] at h
      rcases h with h | h
      · cases hd : isWordChar d with
        | false =>
            rw [upper_of_not_isWordChar hd, List.mem_singleton] at h
            exact h ▸ List.mem_cons_self
        | true =>
            rw [isWordChar_of_mem_upper hd h] at hword
            exact Bool.noConfusion hword
      · exact List.mem_cons_of_mem d h

end WikiEntry.Title.Key
