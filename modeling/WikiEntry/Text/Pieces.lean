/-!
# Cutting texts

The operations that take a text apart at characters or at a given word. A text is a list of
characters here, so that each operation is a recursion over it; the operations on `String` that
the rest of the library offers go through `String.toList`.
-/

namespace WikiEntry.Text

/-- The text before and the text after the first character that satisfies `p`; `none` if no
character does. The character itself is in neither part. -/
def cut? (p : Char → Bool) : List Char → Option (List Char × List Char)
  | [] => none
  | c :: rest => if p c then some ([], rest) else (cut? p rest).map fun r => (c :: r.1, r.2)

/-- The pieces between the characters that satisfy `p`. There is one piece more than there are
such characters, so a text without any is its own only piece. -/
def pieces (p : Char → Bool) : List Char → List (List Char)
  | [] => [[]]
  | c :: rest =>
    if p c then [] :: pieces p rest
    else match pieces p rest with
      | [] => [[c]]
      | piece :: more => (c :: piece) :: more

/-- What follows `word` in a text that starts with it. -/
def after? : (word text : List Char) → Option (List Char)
  | [], text => some text
  | _ :: _, [] => none
  | w :: word, c :: text => if w = c then after? word text else none

/-- The text before and the text after the first occurrence of `word`. -/
def cutWord? (word : List Char) : List Char → Option (List Char × List Char)
  | [] => if word = [] then some ([], []) else none
  | c :: rest =>
    match after? word (c :: rest) with
    | some tail => some ([], tail)
    | none => (cutWord? word rest).map fun r => (c :: r.1, r.2)

def occurs (word text : List Char) : Bool := (cutWord? word text).isSome

/-- Every `old` written as `new`. -/
def exchange (old new : Char) (text : List Char) : List Char :=
  text.map fun c => if c = old then new else c

/-- The text without the characters at its end that satisfy `p`. -/
def dropEndWhile (p : Char → Bool) (text : List Char) : List Char :=
  (text.reverse.dropWhile p).reverse

/-- The template with every `$1` replaced by `value`. The value is not searched again. -/
def fill (value : List Char) : (template : List Char) → List Char
  | [] => []
  | '$' :: '1' :: rest => value ++ fill value rest
  | c :: rest => c :: fill value rest

theorem cut?_eq_some {p : Char → Bool} {text before after : List Char}
    (h : cut? p text = some (before, after)) :
    ∃ c, p c = true ∧ text = before ++ c :: after ∧ ∀ b ∈ before, p b = false := by
  induction text generalizing before with
  | nil => simp [cut?] at h
  | cons d rest ih =>
    by_cases hd : p d = true
    · simp only [cut?, hd, if_true, Option.some.injEq, Prod.mk.injEq] at h
      obtain ⟨rfl, rfl⟩ := h
      exact ⟨d, hd, rfl, by simp⟩
    · simp only [cut?, if_neg hd, Option.map_eq_some_iff] at h
      obtain ⟨⟨b, a⟩, hr, he⟩ := h
      obtain ⟨rfl, rfl⟩ := Prod.mk.inj he
      obtain ⟨c, hc, rfl, hb⟩ := ih hr
      exact ⟨c, hc, rfl, by simpa [hd] using hb⟩

theorem cut?_eq_none_iff {p : Char → Bool} {text : List Char} :
    cut? p text = none ↔ ∀ c ∈ text, p c = false := by
  induction text with
  | nil => simp [cut?]
  | cons d rest ih => by_cases hd : p d = true <;> simp [cut?, hd, ih]

/-- What comes after a cut is shorter than the whole: loops over prefixes end. -/
theorem length_lt_of_cut? {p : Char → Bool} {text before after : List Char}
    (h : cut? p text = some (before, after)) : after.length < text.length := by
  obtain ⟨c, _, rfl, _⟩ := cut?_eq_some h
  simp only [List.length_append, List.length_cons]
  omega

theorem exchange_nil (old new : Char) : exchange old new [] = [] := rfl

theorem exchange_append (old new : Char) (s t : List Char) :
    exchange old new (s ++ t) = exchange old new s ++ exchange old new t := by
  simp [exchange]

/-- The exchanged character is gone, unless it was exchanged for itself. -/
theorem not_mem_exchange {old new : Char} (h : new ≠ old) (text : List Char) :
    old ∉ exchange old new text := by
  intro hmem
  obtain ⟨c, _, hc⟩ := List.mem_map.1 hmem
  by_cases hco : c = old
  · exact h (by simpa [hco] using hc)
  · simp [hco] at hc

/-- Of two exchanges the other way round only the second counts. -/
theorem exchange_exchange_back (old new : Char) (text : List Char) :
    exchange new old (exchange old new text) = exchange new old text := by
  unfold exchange
  rw [List.map_map]
  refine List.map_congr_left fun c _ => ?_
  by_cases hold : c = old <;> simp [hold]

end WikiEntry.Text
