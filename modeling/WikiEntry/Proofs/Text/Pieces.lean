import WikiEntry.Proofs.Text.Cutting

/-!
# Words and pieces of a text

Where a word occurs in a text, and what the pieces between separators are: a piece holds no
separator, and on either side of it the text ends or there is one. So a word without separators is
a piece in one of four places: it is the whole text, its start, its end, or between two others.
-/

namespace WikiEntry.Text

variable {p : Char → Bool} {word text before rest : List Char} {c : Char}

theorem cutWord?_isSome_append (before word rest : List Char) :
    (cutWord? word (before ++ word ++ rest)).isSome = true := by
  induction before with
  | nil =>
      rw [List.nil_append]
      cases word with
      | nil => cases rest <;> rfl
      | cons w word => rw [List.cons_append, cutWord?, ← List.cons_append, after?_append]; rfl
  | cons c before ih =>
      rw [List.cons_append, List.cons_append, cutWord?]
      split
      · rfl
      · rw [Option.isSome_map]
        exact ih

theorem occurs_iff : occurs word text = true ↔ word <:+: text := by
  unfold occurs
  constructor
  · intro h
    obtain ⟨⟨before, rest⟩, hcut⟩ := Option.isSome_iff_exists.mp h
    exact ⟨before, rest, (cutWord?_eq_some hcut).symm⟩
  · rintro ⟨before, rest, rfl⟩
    exact cutWord?_isSome_append before word rest

/-! ### Pieces -/

/-- Pieces are what the library's own way of splitting a list gives. -/
theorem pieces_eq_splitOnP (p : Char → Bool) (text : List Char) :
    pieces p text = text.splitOnP p := by
  induction text with
  | nil => exact List.splitOnP_nil.symm
  | cons c text ih =>
      rw [pieces, List.splitOnP_cons_eq_if_modifyHead, ih]
      obtain ⟨piece, more, hpieces⟩ := List.exists_cons_of_ne_nil (List.splitOnP_ne_nil p text)
      rw [hpieces]
      rfl

theorem pieces_eq_splitOn (s : Char) (text : List Char) :
    pieces (fun c => c = s) text = text.splitOn s :=
  pieces_eq_splitOnP (fun c => c = s) text

theorem pieces_of_forall (h : ∀ c ∈ text, p c = false) : pieces p text = [text] := by
  rw [pieces_eq_splitOnP, List.splitOnP_eq_singleton h]

theorem pieces_append_cons (hc : p c = true) (before rest : List Char) :
    pieces p (before ++ c :: rest) = pieces p before ++ pieces p rest := by
  simp only [pieces_eq_splitOnP, List.splitOnP_append_cons before rest hc]

/-- A piece holds no separator, and the text ends on either side of it or goes on with one. -/
theorem mem_pieces_iff : word ∈ pieces p text ↔ (∀ c ∈ word, p c = false) ∧
    ∃ before rest, text = before ++ word ++ rest ∧
      (before = [] ∨ ∃ front c, before = front ++ [c] ∧ p c = true) ∧
      (rest = [] ∨ ∃ c back, rest = c :: back ∧ p c = true) := by
  constructor
  · -- The induction is on the length: what is left after a separator is a part of the text.
    induction hlength : text.length using Nat.strongRecOn generalizing text with
    | ind length ih =>
        subst hlength
        cases hcut : cut? p text with
        | none =>
            have hall := cut?_eq_none_iff.mp hcut
            intro hword
            rw [pieces_of_forall hall, List.mem_singleton] at hword
            exact ⟨hword ▸ hall, [], [], by simp [hword], .inl rfl, .inl rfl⟩
        | some parts =>
            obtain ⟨first, others⟩ := parts
            obtain ⟨c, hc, rfl, hfirst⟩ := cut?_eq_some hcut
            intro hword
            rw [pieces_append_cons hc, pieces_of_forall hfirst, List.mem_append,
              List.mem_singleton] at hword
            obtain rfl | hword := hword
            · exact ⟨hfirst, [], c :: others, rfl, .inl rfl, .inr ⟨c, others, rfl, hc⟩⟩
            · obtain ⟨hfree, before, rest, rfl, hbefore, hrest⟩ :=
                ih _ (length_lt_of_cut? hcut) rfl hword
              refine ⟨hfree, first ++ c :: before, rest, by simp, .inr ?_, hrest⟩
              obtain rfl | ⟨front, d, rfl, hd⟩ := hbefore
              · exact ⟨first, c, rfl, hc⟩
              · exact ⟨first ++ c :: front, d, by simp, hd⟩
  · rintro ⟨hfree, before, rest, rfl, hbefore, hrest⟩
    have hhead : word ∈ pieces p (word ++ rest) := by
      obtain rfl | ⟨c, back, rfl, hc⟩ := hrest
      · rw [List.append_nil, pieces_of_forall hfree]
        exact List.mem_singleton_self word
      · rw [pieces_append_cons hc, pieces_of_forall hfree]
        exact List.mem_cons_self
    obtain rfl | ⟨front, c, rfl, hc⟩ := hbefore
    · exact hhead
    · rw [List.append_assoc, List.append_assoc, List.singleton_append, pieces_append_cons hc]
      exact List.mem_append_right _ hhead

theorem mem_pieces_eq_iff {s : Char} (hs : s ∉ word) :
    word ∈ pieces (fun c => c = s) text ↔
      text = word ∨ word ++ [s] <+: text ∨ s :: word ++ [s] <:+: text ∨ s :: word <:+ text := by
  rw [mem_pieces_iff]
  have hfree := decide_eq_of_not_mem hs
  constructor
  · rintro ⟨-, before, rest, rfl, rfl | ⟨front, c, rfl, hc⟩, rfl | ⟨d, back, rfl, hd⟩⟩
    · exact .inl (by simp)
    · obtain rfl : d = s := by simpa using hd
      exact .inr (.inl ⟨back, by simp⟩)
    · obtain rfl : c = s := by simpa using hc
      exact .inr (.inr (.inr ⟨front, by simp⟩))
    · obtain rfl : c = s := by simpa using hc
      obtain rfl : d = c := by simpa using hd
      exact .inr (.inr (.inl ⟨front, back, by simp⟩))
  · rintro (rfl | ⟨back, rfl⟩ | ⟨front, back, rfl⟩ | ⟨front, rfl⟩)
    · exact ⟨hfree, [], [], by simp, .inl rfl, .inl rfl⟩
    · exact ⟨hfree, [], s :: back, by simp, .inl rfl, .inr ⟨s, back, rfl, by simp⟩⟩
    · exact ⟨hfree, front ++ [s], s :: back, by simp, .inr ⟨front, s, rfl, by simp⟩,
        .inr ⟨s, back, rfl, by simp⟩⟩
    · exact ⟨hfree, front ++ [s], [], by simp, .inr ⟨front, s, rfl, by simp⟩, .inl rfl⟩

end WikiEntry.Text
