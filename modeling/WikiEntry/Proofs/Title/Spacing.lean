import WikiEntry.Proofs.Text.LetterCase
import WikiEntry.Title.Key

/-!
# Texts with single underscores

A normalised text has no separator but the underscore, and underscores stand one at a time and
between other characters. `Spaced` says so by a recursion that remembers whether an underscore
may come next. Normalising gives such texts and leaves such texts alone, and they stay so when
they are cut at a character that is no separator, trimmed next to the cut, put together at such a
character, or changed in case.
-/

namespace WikiEntry.Title.Key

open Text

/-- Whether the separators of a text are single underscores before some other character; `free`
says whether the text may start with one. -/
def Spaced : (free : Bool) → List Char → Prop
  | _, [] => True
  | free, c :: rest =>
    if isSeparator c = true then c = '_' ∧ free = true ∧ rest ≠ [] ∧ Spaced false rest
    else Spaced true rest

variable {free : Bool} {text front back : List Char} {c : Char}

/-! ### Separators -/

theorem isSeparator_underscore : isSeparator '_' = true := rfl

theorem not_isSeparator_of_isWordChar (hc : isWordChar c = true) : isSeparator c = false := by
  have hne : c ≠ '_' := by
    rintro rfl
    exact absurd hc (by decide)
  simp [isSeparator, hne, not_isBlank_of_isWordChar hc]

theorem spaced_nil : Spaced free [] := trivial

theorem spaced_cons_of_not_isSeparator (hc : isSeparator c = false) :
    Spaced free (c :: text) ↔ Spaced true text := by
  rw [Spaced, if_neg (by simp [hc])]

theorem spaced_underscore_cons :
    Spaced free ('_' :: text) ↔ free = true ∧ text ≠ [] ∧ Spaced false text := by
  rw [Spaced, if_pos isSeparator_underscore]
  exact ⟨fun h => h.2, fun h => ⟨rfl, h⟩⟩

/-- The two ways in which such a text goes on. -/
theorem Spaced.cases_cons (h : Spaced free (c :: text)) :
    (isSeparator c = false ∧ Spaced true text) ∨
      (c = '_' ∧ free = true ∧ text ≠ [] ∧ Spaced false text) := by
  rw [Spaced] at h
  split at h
  · exact Or.inr h
  · rename_i hc
    exact Or.inl ⟨by simpa using hc, h⟩

theorem Spaced.weaken (h : Spaced false text) : Spaced free text := by
  cases text with
  | nil => trivial
  | cons c text =>
      rcases h.cases_cons with ⟨hc, htext⟩ | ⟨_, hfree, _⟩
      · exact (spaced_cons_of_not_isSeparator hc).2 htext
      · exact absurd hfree Bool.false_ne_true

theorem Spaced.eq_underscore_of_mem (h : Spaced free text) (hc : c ∈ text)
    (hsep : isSeparator c = true) : c = '_' := by
  induction text generalizing free with
  | nil => simp at hc
  | cons d text ih =>
      rcases h.cases_cons with ⟨hd, htext⟩ | ⟨rfl, _, _, htext⟩ <;>
        rcases List.mem_cons.1 hc with rfl | hc
      · exact absurd hsep (by simp [hd])
      · exact ih htext hc
      · rfl
      · exact ih htext hc

theorem Spaced.space_not_mem (h : Spaced free text) : ' ' ∉ text :=
  fun hmem => absurd (h.eq_underscore_of_mem hmem rfl) (by decide)

theorem Spaced.head?_ne (h : Spaced false text) : text.head? ≠ some '_' := by
  cases text with
  | nil => simp
  | cons c text =>
      intro hhead
      obtain rfl : c = '_' := by simpa using hhead
      exact absurd (spaced_underscore_cons.1 h).1 Bool.false_ne_true

theorem Spaced.getLast?_ne (h : Spaced free text) : text.getLast? ≠ some '_' := by
  induction text generalizing free with
  | nil => simp
  | cons c text ih =>
      rcases h.cases_cons with ⟨hc, htext⟩ | ⟨rfl, _, hne, htext⟩
      · cases text with
        | nil =>
            rintro hlast
            obtain rfl : c = '_' := by simpa using hlast
            exact absurd hc (by decide)
        | cons d text => rw [List.getLast?_cons_cons]; exact ih htext
      · cases text with
        | nil => exact absurd rfl hne
        | cons d text => rw [List.getLast?_cons_cons]; exact ih htext

/-! ### Normalising -/

theorem spaced_normalizeFrom (pending : Bool) (text : List Char) :
    Spaced true (normalizeFrom true pending text) ∧
      Spaced false (normalizeFrom false pending text) := by
  induction text generalizing pending with
  | nil => exact ⟨trivial, trivial⟩
  | cons c rest ih =>
      cases hc : isSeparator c with
      | true => simpa [normalizeFrom, hc] using ih true
      | false =>
          have htail : Spaced false (c :: normalizeFrom true false rest) :=
            (spaced_cons_of_not_isSeparator hc).2 (ih false).1
          cases pending with
          | false => simpa [normalizeFrom, hc] using ⟨htail.weaken, htail⟩
          | true =>
              have hgap : Spaced true ('_' :: c :: normalizeFrom true false rest) :=
                spaced_underscore_cons.2 ⟨rfl, List.cons_ne_nil _ _, htail⟩
              simpa [normalizeFrom, hc] using ⟨hgap, htail⟩

theorem spaced_normalize (text : List Char) : Spaced false (normalize text) :=
  (spaced_normalizeFrom false text).2

/-- The separators that normalising would write are there already. The induction runs over the
three places in which it can be: before the first character, within a word, and after an
underscore that is yet to be written. -/
theorem normalizeFrom_of_spaced (text : List Char) :
    (Spaced false text → normalizeFrom false false text = text) ∧
      (Spaced true text → normalizeFrom true false text = text) ∧
      (Spaced false text → text ≠ [] → normalizeFrom true true text = '_' :: text) := by
  induction text with
  | nil => exact ⟨fun _ => rfl, fun _ => rfl, fun _ h => absurd rfl h⟩
  | cons c rest ih =>
      obtain ⟨_, hword, hgap⟩ := ih
      refine ⟨fun h => ?_, fun h => ?_, fun h _ => ?_⟩
      · rcases h.cases_cons with ⟨hc, hrest⟩ | ⟨_, hfree, _⟩
        · simp [normalizeFrom, hc, hword hrest]
        · exact absurd hfree Bool.false_ne_true
      · rcases h.cases_cons with ⟨hc, hrest⟩ | ⟨rfl, _, hne, hrest⟩
        · simp [normalizeFrom, hc, hword hrest]
        · simp [normalizeFrom, isSeparator_underscore, hgap hrest hne]
      · rcases h.cases_cons with ⟨hc, hrest⟩ | ⟨_, hfree, _⟩
        · simp [normalizeFrom, hc, hword hrest]
        · exact absurd hfree Bool.false_ne_true

theorem normalize_of_spaced (h : Spaced false text) : normalize text = text :=
  (normalizeFrom_of_spaced text).1 h

theorem spaced_of_normalize_eq (h : normalize text = text) : Spaced false text :=
  h ▸ spaced_normalize text

/-- Which separators a text is written with does not matter. -/
theorem normalizeFrom_map {f : Char → Char} (hsep : ∀ c, isSeparator (f c) = isSeparator c)
    (hkeep : ∀ c, isSeparator c = false → f c = c) (started pending : Bool)
    (text : List Char) :
    normalizeFrom started pending (text.map f) = normalizeFrom started pending text := by
  induction text generalizing started pending with
  | nil => rfl
  | cons c rest ih =>
      cases hc : isSeparator c with
      | true => simp [normalizeFrom, hsep, hc, ih]
      | false => simp [normalizeFrom, hc, hkeep c hc, ih]

theorem normalize_exchange (old new : Char) (hold : isSeparator old = true)
    (hnew : isSeparator new = true) (text : List Char) :
    normalize (exchange old new text) = normalize text := by
  apply normalizeFrom_map
  · intro c
    by_cases hc : c = old
    · simp [hc, hold, hnew]
    · simp [hc]
  · intro c hc
    have hne : c ≠ old := by
      rintro rfl
      rw [hold] at hc
      exact Bool.noConfusion hc
    simp [hne]

theorem mem_of_mem_normalizeFrom {started pending : Bool}
    (h : c ∈ normalizeFrom started pending text) : c ∈ text ∨ c = '_' := by
  induction text generalizing started pending with
  | nil => simp [normalizeFrom] at h
  | cons d rest ih =>
      rw [normalizeFrom] at h
      split at h
      · exact (ih h).imp_left (List.mem_cons_of_mem _)
      · split at h <;> simp only [List.mem_cons] at h ⊢
        · rcases h with rfl | rfl | h
          · exact Or.inr rfl
          · exact Or.inl (Or.inl rfl)
          · exact (ih h).imp_left Or.inr
        · rcases h with rfl | h
          · exact Or.inl (Or.inl rfl)
          · exact (ih h).imp_left Or.inr

/-- Normalising brings in nothing but underscores. -/
theorem not_mem_normalize (h : c ∉ text) (hc : c ≠ '_') : c ∉ normalize text := fun hmem =>
  (mem_of_mem_normalizeFrom hmem).elim h hc

/-! ### Cutting and joining -/

/-- What follows a character that is no separator may start with an underscore. -/
theorem spaced_append_cons (hc : isSeparator c = false) (hfront : Spaced free front)
    (hback : Spaced true back) : Spaced free (front ++ c :: back) := by
  induction front generalizing free with
  | nil => exact (spaced_cons_of_not_isSeparator hc).2 hback
  | cons d front ih =>
      rw [List.cons_append]
      rcases hfront.cases_cons with ⟨hd, hfront⟩ | ⟨rfl, hfree, _, hfront⟩
      · exact (spaced_cons_of_not_isSeparator hd).2 (ih hfront)
      · exact spaced_underscore_cons.2 ⟨hfree, by simp, ih hfront⟩

theorem Spaced.of_append_cons (hc : isSeparator c = false) (h : Spaced free (front ++ c :: back)) :
    Spaced true back := by
  induction front generalizing free with
  | nil => exact (spaced_cons_of_not_isSeparator hc).1 h
  | cons d front ih =>
      rw [List.cons_append] at h
      rcases h.cases_cons with ⟨_, h⟩ | ⟨_, _, _, h⟩
      · exact ih h
      · exact ih h

theorem Spaced.of_append_right (h : Spaced free (front ++ back)) : ∃ free, Spaced free back := by
  induction front generalizing free with
  | nil => exact ⟨free, h⟩
  | cons c front ih =>
      obtain ⟨_, h⟩ | ⟨_, _, _, h⟩ := Spaced.cases_cons h
      · exact ih h
      · exact ih h

/-- No two underscores stand next to each other. -/
theorem Spaced.not_doubled (h : Spaced free text) : ¬['_', '_'] <:+: text := by
  rintro ⟨front, back, rfl⟩
  rw [List.append_assoc] at h
  obtain ⟨_, htail⟩ := h.of_append_right
  obtain ⟨-, -, hnext⟩ := spaced_underscore_cons.mp htail
  exact absurd (spaced_underscore_cons.mp hnext).1 Bool.false_ne_true

/-- Texts without other separators and without underscores at the ends or in a row. -/
theorem spaced_of_forall (hsep : ∀ c ∈ text, isSeparator c = true → c = '_')
    (hfirst : free = true ∨ text.head? ≠ some '_') (hlast : text.getLast? ≠ some '_')
    (hdoubled : ¬['_', '_'] <:+: text) : Spaced free text := by
  induction text generalizing free with
  | nil => trivial
  | cons c rest ih =>
      obtain ⟨hc, hrest⟩ := List.forall_mem_cons.mp hsep
      have hlast' : rest.getLast? ≠ some '_' := by
        cases rest with
        | nil => simp
        | cons d more => rwa [List.getLast?_cons_cons] at hlast
      have hdoubled' : ¬['_', '_'] <:+: rest := fun hin =>
        hdoubled (hin.trans (List.suffix_cons c rest).isInfix)
      cases hseparator : isSeparator c with
      | false =>
          exact (spaced_cons_of_not_isSeparator hseparator).2
            (ih hrest (.inl rfl) hlast' hdoubled')
      | true =>
          obtain rfl := hc hseparator
          refine spaced_underscore_cons.2 ⟨?_, ?_, ih hrest (.inr ?_) hlast' hdoubled'⟩
          · simpa using hfirst
          · rintro rfl
            exact hlast rfl
          · intro hhead
            obtain ⟨more, rfl⟩ := List.head?_eq_some_iff.mp hhead
            exact hdoubled ⟨[], more, rfl⟩

theorem Spaced.dropWhile (h : Spaced true text) :
    Spaced false (text.dropWhile fun c => c = '_') := by
  cases text with
  | nil => trivial
  | cons c text =>
      rcases h.cases_cons with ⟨hc, htext⟩ | ⟨rfl, _, _, htext⟩
      · have hne : c ≠ '_' := by
          rintro rfl
          exact absurd hc (by decide)
        rw [List.dropWhile_cons_of_neg (by simpa using hne)]
        exact (spaced_cons_of_not_isSeparator hc).2 htext
      · rw [List.dropWhile_cons_of_pos (by simp)]
        rw [dropWhile_of_head? (p := fun c => c = '_')]
        · exact htext
        · intro d hd
          have hne : d ≠ '_' := fun he => htext.head?_ne (he ▸ hd)
          simpa using hne

/-- A start that does not end in an underscore. -/
theorem Spaced.of_append (h : Spaced free (front ++ back)) (hlast : front.getLast? ≠ some '_') :
    Spaced free front := by
  induction front generalizing free with
  | nil => trivial
  | cons d front ih =>
      have hlast' : front ≠ [] → front.getLast? ≠ some '_' := by
        intro hne
        obtain ⟨e, more, rfl⟩ := List.exists_cons_of_ne_nil hne
        rwa [List.getLast?_cons_cons] at hlast
      rw [List.cons_append] at h
      rcases h.cases_cons with ⟨hd, h⟩ | ⟨rfl, hfree, _, h⟩
      · rw [spaced_cons_of_not_isSeparator hd]
        cases front with
        | nil => trivial
        | cons e more => exact ih h (hlast' (List.cons_ne_nil e more))
      · cases front with
        | nil => simp at hlast
        | cons e more =>
            exact spaced_underscore_cons.2
              ⟨hfree, List.cons_ne_nil e more, ih h (hlast' (List.cons_ne_nil e more))⟩

theorem getLast?_dropEndWhile_ne (text : List Char) :
    (dropEndWhile (fun c => c = '_') text).getLast? ≠ some '_' := by
  intro hlast
  rw [dropEndWhile, List.getLast?_reverse] at hlast
  have hnot := List.head?_dropWhile_not (fun c : Char => decide (c = '_')) text.reverse
  rw [hlast] at hnot
  simp at hnot

theorem Spaced.dropEndWhile (h : Spaced free (front ++ back)) :
    Spaced free (dropEndWhile (fun c => c = '_') front) := by
  obtain ⟨dropped, hfront, _⟩ := exists_eq_dropEndWhile_append (fun c => c = '_') front
  rw [hfront, List.append_assoc] at h
  exact h.of_append (getLast?_dropEndWhile_ne front)

theorem Spaced.dropEndWhile_eq (h : Spaced free text) :
    Text.dropEndWhile (fun c => c = '_') text = text := by
  apply dropEndWhile_of_getLast?
  intro c hc
  have hne : c ≠ '_' := fun he => h.getLast?_ne (he ▸ hc)
  simpa using hne

theorem Spaced.dropWhile_eq (h : Spaced false text) :
    text.dropWhile (fun c => c = '_') = text := by
  apply dropWhile_of_head?
  intro c hc
  have hne : c ≠ '_' := fun he => h.head?_ne (he ▸ hc)
  simpa using hne

/-! ### Letter case -/

theorem spaced_append_of_forall (hne : front ≠ []) (hfront : ∀ c ∈ front, isSeparator c = false)
    (hback : Spaced true back) : Spaced free (front ++ back) := by
  induction front generalizing free with
  | nil => exact absurd rfl hne
  | cons c front ih =>
      rw [List.cons_append, spaced_cons_of_not_isSeparator (hfront c List.mem_cons_self)]
      cases front with
      | nil => exact hback
      | cons d more =>
          exact ih (List.cons_ne_nil d more) fun e he => hfront e (List.mem_cons_of_mem c he)

theorem not_isSeparator_of_mem_upper (hc : isSeparator c = false) {d : Char} (hd : d ∈ upper c) :
    isSeparator d = false := by
  cases hword : isWordChar c with
  | true => exact not_isSeparator_of_isWordChar (isWordChar_of_mem_upper hword hd)
  | false =>
      rw [upper_of_not_isWordChar hword, List.mem_singleton] at hd
      exact hd ▸ hc

theorem not_isSeparator_of_mem_lowerOne {before rest : List Char} (hc : isSeparator c = false)
    {d : Char} (hd : d ∈ lowerOne before rest c) : isSeparator d = false := by
  cases hword : isWordChar c with
  | true => exact not_isSeparator_of_isWordChar (isWordChar_of_mem_lowerOne hword hd)
  | false =>
      rw [lowerOne_of_not_isWordChar hword, List.mem_singleton] at hd
      exact hd ▸ hc

theorem Spaced.upperFirst (h : Spaced free text) : Spaced free (upperFirst text) := by
  cases text with
  | nil => trivial
  | cons c rest =>
      rcases h.cases_cons with ⟨hc, hrest⟩ | ⟨rfl, _⟩
      · exact spaced_append_of_forall (upper_ne_nil c)
          (fun d hd => not_isSeparator_of_mem_upper hc hd) hrest
      · rwa [Text.upperFirst, upper_of_not_isWordChar (by decide)]

theorem lowerAfter_ne_nil {before : List Char} (h : text ≠ []) : lowerAfter before text ≠ [] := by
  cases text with
  | nil => exact absurd rfl h
  | cons c rest =>
      rw [lowerAfter_cons]
      exact fun hnil => lowerOne_ne_nil before rest c (List.append_eq_nil_iff.1 hnil).1

theorem Spaced.lowerAfter (h : Spaced free text) (before : List Char) :
    Spaced free (lowerAfter before text) := by
  induction text generalizing free before with
  | nil => trivial
  | cons c rest ih =>
      rw [lowerAfter_cons]
      rcases h.cases_cons with ⟨hc, hrest⟩ | ⟨rfl, hfree, hne, hrest⟩
      · exact spaced_append_of_forall (lowerOne_ne_nil before rest c)
          (fun d hd => not_isSeparator_of_mem_lowerOne hc hd) (ih hrest _)
      · rw [lowerOne_of_not_isWordChar (by decide)]
        exact spaced_underscore_cons.2 ⟨hfree, lowerAfter_ne_nil hne, ih hrest _⟩

theorem Spaced.lower (h : Spaced free text) : Spaced free (Text.lower text) := h.lowerAfter []

theorem Spaced.of_append_of_forall (hne : front ≠ []) (hfront : ∀ c ∈ front, isSeparator c = false)
    (h : Spaced free (front ++ back)) : Spaced true back := by
  obtain ⟨start, last, rfl⟩ := (List.eq_nil_or_concat front).resolve_left hne
  rw [List.concat_eq_append, List.append_assoc, List.singleton_append] at h
  exact h.of_append_cons (hfront last (by simp))

/-- Separators have no letter case, so they are single before if they are single after. -/
theorem Spaced.of_lowerAfter {before : List Char} (h : Spaced free (Text.lowerAfter before text)) :
    Spaced free text := by
  induction text generalizing free before with
  | nil => trivial
  | cons c rest ih =>
      rw [lowerAfter_cons] at h
      cases hword : isWordChar c with
      | true =>
          have hc := not_isSeparator_of_isWordChar hword
          exact (spaced_cons_of_not_isSeparator hc).2 (ih (h.of_append_of_forall
            (lowerOne_ne_nil before rest c) fun d hd => not_isSeparator_of_mem_lowerOne hc hd))
      | false =>
          rw [lowerOne_of_not_isWordChar hword, List.singleton_append] at h
          rcases h.cases_cons with ⟨hc, hrest⟩ | ⟨rfl, hfree, hne, hrest⟩
          · exact (spaced_cons_of_not_isSeparator hc).2 (ih hrest)
          · refine spaced_underscore_cons.2 ⟨hfree, ?_, ih hrest⟩
            rintro rfl
            exact hne rfl

end WikiEntry.Title.Key
