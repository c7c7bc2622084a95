import WikiEntry.Text.Pieces

/-!
# What cutting texts gives back

Each operation that takes a text apart undoes a way of putting one together: `after?` undoes
putting a word in front, `cut?` and `cutWord?` undo joining two texts by a separator, and `fill`
puts a value where `cutWord?` finds the mark. The statements here are of that form, so that a
text that was written in pieces can be read piece by piece.
-/

namespace WikiEntry.Text

variable {p : Char → Bool} {word text before rest more : List Char}

/-! ### Words in front -/

@[simp] theorem after?_append (word text : List Char) :
    after? word (word ++ text) = some text := by
  induction word with
  | nil => rfl
  | cons w word ih => simp [after?, ih]

theorem after?_eq_some_iff : after? word text = some rest ↔ text = word ++ rest := by
  constructor
  · intro h
    induction word generalizing text with
    | nil => simpa [after?] using h
    | cons w word ih =>
        cases text with
        | nil => simp [after?] at h
        | cons c text =>
            simp only [after?, Option.ite_none_right_eq_some] at h
            obtain ⟨rfl, h⟩ := h
            rw [ih h, List.cons_append]
  · rintro rfl
    exact after?_append word rest

/-- Whether a text starts with a word does not depend on what comes after as many characters as
the word has. -/
theorem after?_append_of_le (h : word.length ≤ text.length) (more : List Char) :
    after? word (text ++ more) = (after? word text).map (· ++ more) := by
  induction word generalizing text with
  | nil => simp [after?]
  | cons w word ih =>
      cases text with
      | nil => simp at h
      | cons c text =>
          have hle : word.length ≤ text.length := by simpa using h
          by_cases hw : w = c
          · simp [after?, hw, ih hle]
          · simp [after?, hw]

/-! ### Cutting at a word -/

theorem cutWord?_eq_some (h : cutWord? word text = some (before, rest)) :
    text = before ++ word ++ rest := by
  induction text generalizing before with
  | nil =>
      simp only [cutWord?, Option.ite_none_right_eq_some, Option.some.injEq, Prod.mk.injEq] at h
      obtain ⟨rfl, rfl, rfl⟩ := h
      rfl
  | cons c text ih =>
      rw [cutWord?] at h
      split at h
      · rename_i tail htail
        obtain ⟨rfl, rfl⟩ : [] = before ∧ tail = rest := by simpa using h
        rw [after?_eq_some_iff.1 htail, List.nil_append]
      · simp only [Option.map_eq_some_iff, Prod.mk.injEq] at h
        obtain ⟨⟨b, r⟩, hr, rfl, rfl⟩ := h
        rw [ih hr, List.cons_append, List.cons_append]

/-- The first occurrence of a word stays the first one when more text follows. -/
theorem cutWord?_append (h : cutWord? word text = some (before, rest)) (more : List Char) :
    cutWord? word (text ++ more) = some (before, rest ++ more) := by
  induction text generalizing before with
  | nil =>
      simp only [cutWord?, Option.ite_none_right_eq_some, Option.some.injEq, Prod.mk.injEq] at h
      obtain ⟨rfl, rfl, rfl⟩ := h
      cases more <;> simp [cutWord?, after?]
  | cons c text ih =>
      have hlen : word.length ≤ (c :: text).length := by
        rw [cutWord?_eq_some h]
        simp only [List.length_append]
        omega
      rw [List.cons_append, cutWord?, ← List.cons_append, after?_append_of_le hlen]
      rw [cutWord?] at h
      split at h
      · rename_i tail htail
        simp only [Option.some.injEq, Prod.mk.injEq] at h
        obtain ⟨rfl, rfl⟩ := h
        simp [htail]
      · rename_i hnone
        simp only [Option.map_eq_some_iff, Prod.mk.injEq] at h
        obtain ⟨⟨b, r⟩, hr, rfl, rfl⟩ := h
        simp [hnone, ih hr]

/-- The first occurrence of a word is found without the text after it. -/
theorem cutWord?_of_append (h : cutWord? word (before ++ word ++ rest) = some (before, rest)) :
    cutWord? word (before ++ word) = some (before, []) := by
  induction before with
  | nil =>
      rw [List.nil_append]
      cases word with
      | nil => rfl
      | cons w word =>
          rw [cutWord?]
          have hself := after?_append (w :: word) []
          rw [List.append_nil] at hself
          rw [hself]
  | cons c before ih =>
      have hle : word.length ≤ (c :: (before ++ word)).length := by simp; omega
      rw [List.cons_append, List.cons_append, cutWord?, ← List.cons_append,
        after?_append_of_le hle] at h
      rw [List.cons_append, cutWord?]
      cases hstart : after? word (c :: (before ++ word)) with
      | some tail => simp [hstart] at h
      | none =>
          simp only [hstart, Option.map_none, Option.map_eq_some_iff, Prod.mk.injEq,
            List.cons.injEq, true_and] at h
          obtain ⟨⟨front, back⟩, hcut, rfl, rfl⟩ := h
          dsimp only
          rw [ih hcut]
          rfl

/-! ### Cutting at a character -/

theorem cut?_append_cons {c : Char} (hbefore : ∀ b ∈ before, p b = false) (hc : p c = true)
    (rest : List Char) : cut? p (before ++ c :: rest) = some (before, rest) := by
  induction before with
  | nil => simp [cut?, hc]
  | cons b before ih =>
      have hb : p b = false := hbefore b (by simp)
      have htail := ih fun d hd => hbefore d (by simp [hd])
      simp [cut?, hb, htail]

section Separators

variable {s : Char}

theorem decide_eq_of_not_mem (h : s ∉ text) : ∀ c ∈ text, decide (c = s) = false :=
  fun _ hc => decide_eq_false fun he => h (he ▸ hc)

theorem decide_ne_of_not_mem (h : s ∉ text) : ∀ c ∈ text, decide (c ≠ s) = true :=
  fun _ hc => decide_eq_true fun he => h (he ▸ hc)

theorem cut?_of_not_mem (h : s ∉ text) : cut? (fun c => c = s) text = none :=
  cut?_eq_none_iff.mpr (decide_eq_of_not_mem h)

/-- The first separator is the one before which there is none. -/
theorem cut?_append_of_not_mem (h : s ∉ before) (rest : List Char) :
    cut? (fun c => c = s) (before ++ s :: rest) = some (before, rest) :=
  cut?_append_cons (decide_eq_of_not_mem h) (decide_eq_true rfl) rest

theorem takeWhile_ne_of_not_mem (h : s ∉ text) :
    text.takeWhile (fun c => decide (c ≠ s)) = text := by
  have hwhole : (text ++ []).takeWhile (fun c => decide (c ≠ s)) = text ++ [].takeWhile _ :=
    List.takeWhile_append_of_pos (decide_ne_of_not_mem h)
  rwa [List.append_nil, List.takeWhile_nil, List.append_nil] at hwhole

theorem dropWhile_ne_of_not_mem (h : s ∉ text) :
    text.dropWhile (fun c => decide (c ≠ s)) = [] := by
  have hwhole : (text ++ []).dropWhile (fun c => decide (c ≠ s)) = [].dropWhile _ :=
    List.dropWhile_append_of_pos (decide_ne_of_not_mem h)
  rwa [List.append_nil] at hwhole

theorem takeWhile_ne_append (h : s ∉ before) (rest : List Char) :
    (before ++ s :: rest).takeWhile (fun c => decide (c ≠ s)) = before := by
  rw [List.takeWhile_append_of_pos (decide_ne_of_not_mem h), List.takeWhile_cons_of_neg (by simp),
    List.append_nil]

end Separators

/-! ### Dropping from the end -/

theorem dropEndWhile_of_getLast? (h : ∀ c, text.getLast? = some c → p c = false) :
    dropEndWhile p text = text := by
  unfold dropEndWhile
  have hstay : text.reverse.dropWhile p = text.reverse := by
    cases hrev : text.reverse with
    | nil => rfl
    | cons c tail =>
        have hlast : text.getLast? = some c := by
          rw [List.getLast?_eq_head?_reverse, hrev, List.head?_cons]
        rw [List.dropWhile_cons, h c hlast]
        rfl
  rw [hstay, List.reverse_reverse]

/-- What is left is the start of the text, and only dropped characters follow it. -/
theorem exists_eq_dropEndWhile_append (p : Char → Bool) (text : List Char) :
    ∃ dropped, text = dropEndWhile p text ++ dropped ∧ ∀ c ∈ dropped, p c = true := by
  refine ⟨(text.reverse.takeWhile p).reverse, ?_, ?_⟩
  · unfold dropEndWhile
    rw [← List.reverse_append, List.takeWhile_append_dropWhile, List.reverse_reverse]
  · intro c hc
    exact List.all_eq_true.1 List.all_takeWhile c (List.mem_reverse.1 hc)

theorem dropEndWhile_append_of_forall (hmore : ∀ c ∈ more, p c = true) (text : List Char) :
    dropEndWhile p (text ++ more) = dropEndWhile p text := by
  have hback : ∀ c ∈ more.reverse, p c = true := fun c hc => hmore c (List.mem_reverse.mp hc)
  rw [dropEndWhile, List.reverse_append, List.dropWhile_append_of_pos hback, dropEndWhile]

/-! ### Exchanging characters -/

theorem exchange_of_not_mem {old new : Char} (h : old ∉ text) : exchange old new text = text := by
  unfold exchange
  rw [List.map_congr_left (g := id), List.map_id]
  intro c hc
  have hne : c ≠ old := fun he => h (he ▸ hc)
  simp [hne]

/-- Exchanging there and back changes nothing if the character was free. -/
theorem exchange_exchange {old new : Char} (h : new ∉ text) :
    exchange new old (exchange old new text) = text := by
  unfold exchange
  rw [List.map_map, List.map_congr_left (g := id), List.map_id]
  intro c hc
  have hne : c ≠ new := fun he => h (he ▸ hc)
  by_cases hold : c = old <;> simp [hold, hne]

theorem mem_of_mem_exchange {c old new : Char} (h : c ∈ exchange old new text) (hc : c ≠ new) :
    c ∈ text := by
  obtain ⟨d, hd, heq⟩ := List.mem_map.1 h
  by_cases hold : d = old
  · exact absurd (by simpa [hold] using heq.symm) hc
  · rw [if_neg hold] at heq
    exact heq ▸ hd

theorem mem_exchange_of_mem {c old new : Char} (h : c ∈ text) (hc : c ≠ old) :
    c ∈ exchange old new text :=
  List.mem_map.2 ⟨c, h, if_neg hc⟩

theorem count_exchange {c old new : Char} (hold : c ≠ old) (hnew : c ≠ new) (text : List Char) :
    (exchange old new text).count c = text.count c := by
  induction text with
  | nil => rfl
  | cons d text ih =>
      unfold exchange at ih ⊢
      rw [List.map_cons, List.count_cons, List.count_cons, ih]
      by_cases hd : d = old
      · simp [hd, Ne.symm hold, Ne.symm hnew]
      · simp [hd]

/-! ### Filling templates -/

theorem fill_of_cutWord? (value : List Char)
    (h : cutWord? ['$', '1'] text = some (before, rest)) :
    fill value text = before ++ value ++ fill value rest := by
  induction text generalizing before with
  | nil => simp [cutWord?] at h
  | cons c text ih =>
      rw [cutWord?] at h
      split at h
      · rename_i tail htail
        obtain ⟨rfl, rfl⟩ : [] = before ∧ tail = rest := by simpa using h
        rw [after?_eq_some_iff.1 htail]
        rfl
      · rename_i hnone
        simp only [Option.map_eq_some_iff, Prod.mk.injEq] at h
        obtain ⟨⟨b, r⟩, hr, rfl, rfl⟩ := h
        have hstep : fill value (c :: text) = c :: fill value text := by
          apply fill.eq_3
          intro tail hc htext
          subst hc htext
          simp [after?] at hnone
        rw [hstep, ih hr]
        simp

end WikiEntry.Text
