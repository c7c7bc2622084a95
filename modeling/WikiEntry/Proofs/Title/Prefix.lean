import WikiEntry.Proofs.Title.Spacing

/-!
# Prefixes of keys

Cutting a prefix off a key undoes writing one before a key with a colon between, if neither has
underscores next to the colon. Each cut takes a colon away, so a key that has lost a prefix is
told from the key that it was.
-/

namespace WikiEntry.Title.Key

open Text

variable {key name rest : List Char} {free : Bool}

theorem not_isSeparator_colon : isSeparator ':' = false := by decide

theorem exists_of_cutPrefix? (h : cutPrefix? key = some (name, rest)) :
    ∃ before after, key = before ++ ':' :: after ∧ ':' ∉ before ∧ name ≠ [] ∧
      name = dropEndWhile (fun c => c = '_') before ∧
      rest = after.dropWhile fun c => c = '_' := by
  simp only [cutPrefix?, Option.bind_eq_some_iff] at h
  obtain ⟨⟨before, after⟩, hcut, hrest⟩ := h
  simp only [Option.ite_none_left_eq_some, Option.some.injEq, Prod.mk.injEq] at hrest
  obtain ⟨hne, rfl, rfl⟩ := hrest
  obtain ⟨c, hc, rfl, hbefore⟩ := cut?_eq_some hcut
  obtain rfl : c = ':' := by simpa using hc
  refine ⟨before, after, rfl, ?_, hne, rfl, rfl⟩
  intro hmem
  simpa using hbefore ':' hmem

theorem cutPrefix?_append (hne : name ≠ []) (hcolon : ':' ∉ name) (hname : Spaced free name)
    (hrest : Spaced false rest) : cutPrefix? (name ++ ':' :: rest) = some (name, rest) := by
  rw [cutPrefix?, cut?_append_of_not_mem hcolon, Option.bind_some]
  simp only [hname.dropEndWhile_eq, hrest.dropWhile_eq, if_neg hne]

/-- What is written with a prefix starts with no colon. -/
theorem head?_append_ne_colon (hne : name ≠ []) (hcolon : ':' ∉ name) :
    (name ++ ':' :: rest).head? ≠ some ':' := by
  obtain ⟨c, more, rfl⟩ := List.exists_cons_of_ne_nil hne
  have hc : c ≠ ':' := fun he => hcolon (he ▸ List.mem_cons_self)
  simpa using hc

theorem ne_nil_of_cutPrefix? (h : cutPrefix? key = some (name, rest)) : name ≠ [] := by
  obtain ⟨_, _, _, _, hne, _⟩ := exists_of_cutPrefix? h
  exact hne

theorem mem_of_mem_dropEndWhile {p : Char → Bool} {text : List Char} {c : Char}
    (h : c ∈ dropEndWhile p text) : c ∈ text := by
  obtain ⟨dropped, htext, _⟩ := exists_eq_dropEndWhile_append p text
  rw [htext]
  exact List.mem_append_left _ h

theorem colon_not_mem_of_cutPrefix? (h : cutPrefix? key = some (name, rest)) : ':' ∉ name := by
  obtain ⟨before, after, _, hcolon, _, rfl, _⟩ := exists_of_cutPrefix? h
  exact fun hmem => hcolon (mem_of_mem_dropEndWhile hmem)

theorem mem_of_cutPrefix? (h : cutPrefix? key = some (name, rest)) {c : Char}
    (hc : c ∈ name ∨ c ∈ rest) : c ∈ key := by
  obtain ⟨before, after, rfl, _, _, rfl, rfl⟩ := exists_of_cutPrefix? h
  rcases hc with hc | hc
  · exact List.mem_append_left _ (mem_of_mem_dropEndWhile hc)
  · exact List.mem_append_right _
      (List.mem_cons_of_mem _ ((List.dropWhile_sublist _).subset hc))

theorem spaced_of_cutPrefix? (h : cutPrefix? key = some (name, rest)) (hkey : Spaced free key) :
    Spaced free name ∧ Spaced false rest := by
  obtain ⟨before, after, rfl, _, _, rfl, rfl⟩ := exists_of_cutPrefix? h
  exact ⟨hkey.dropEndWhile, (hkey.of_append_cons not_isSeparator_colon).dropWhile⟩

theorem count_colon_lt_of_cutPrefix? (h : cutPrefix? key = some (name, rest)) :
    rest.count ':' < key.count ':' := by
  obtain ⟨before, after, rfl, _, _, _, rfl⟩ := exists_of_cutPrefix? h
  have hle := (List.dropWhile_sublist (fun c => decide (c = '_')) (l := after)).count_le ':'
  rw [List.count_append, List.count_cons_self]
  omega

theorem count_colon_upperFirst (key : List Char) :
    (upperFirst key).count ':' = key.count ':' := by
  cases key with
  | nil => rfl
  | cons c rest =>
      rw [upperFirst]
      cases hword : isWordChar c with
      | false => rw [upper_of_not_isWordChar hword, List.singleton_append]
      | true =>
          have hnot : isWordChar ':' = false := by decide
          have hupper : ':' ∉ upper c := fun hmem => by
            rw [isWordChar_of_mem_upper hword hmem] at hnot
            exact Bool.noConfusion hnot
          have hc : c ≠ ':' := by
            rintro rfl
            rw [hword] at hnot
            exact Bool.noConfusion hnot
          rw [List.count_append, List.count_eq_zero.2 hupper, List.count_cons_of_ne hc,
            Nat.zero_add]

end WikiEntry.Title.Key
