import WikiEntry.Proofs.Text.Pieces
import WikiEntry.Proofs.Title.Typed

/-!
# Titles as rows of words

Normalising goes over a text once and remembers whether separators have been read. What it gives
can be said without that: cut the text at every separator, leave out the empty pieces, and join the
others by single underscores. So a normalised text is its words, and since a title is read off the
normalised text alone, two texts with the same words name the same title or are refused for the
same reason.
-/

namespace WikiEntry

open Text

namespace Title.Key

variable {text front back word : List Char} {c : Char}

/-- The words of a text: what stands between its separators, without the empty pieces. -/
def words (text : List Char) : List (List Char) := (text.splitOnP isSeparator).filter (· ≠ [])

@[simp] theorem words_nil : words [] = [] := by simp [words]

/-- Everything about words follows from this and from what a single word is. -/
theorem words_append_cons (hc : isSeparator c = true) (front back : List Char) :
    words (front ++ c :: back) = words front ++ words back := by
  rw [words, List.splitOnP_append_cons front back hc, List.filter_append]
  rfl

theorem words_cons_of_isSeparator (hc : isSeparator c = true) (rest : List Char) :
    words (c :: rest) = words rest := by
  simpa using words_append_cons hc [] rest

theorem words_of_forall (hne : word ≠ []) (h : ∀ c ∈ word, isSeparator c = false) :
    words word = [word] := by
  rw [words, List.splitOnP_eq_singleton h, List.filter_cons_of_pos (by simpa using hne)]
  rfl

/-- The characters of a text up to its first separator. -/
def firstWord (text : List Char) : List Char := text.takeWhile fun c => !isSeparator c

/-- What is left of a text after its first word. -/
def afterWord (text : List Char) : List Char := text.dropWhile fun c => !isSeparator c

theorem firstWord_append_afterWord (text : List Char) : firstWord text ++ afterWord text = text :=
  List.takeWhile_append_dropWhile

theorem not_isSeparator_of_mem_firstWord (h : c ∈ firstWord text) : isSeparator c = false := by
  simpa using List.all_eq_true.mp List.all_takeWhile c h

/-- A first word ends where the text ends or a separator follows. -/
theorem isSeparator_of_afterWord {rest : List Char} (h : afterWord text = c :: rest) :
    isSeparator c = true := by
  have hnot := List.head?_dropWhile_not (fun c => !isSeparator c) text
  rw [← afterWord, h] at hnot
  simpa using hnot

theorem words_cons_of_not_isSeparator (hc : isSeparator c = false) (rest : List Char) :
    words (c :: rest) = (c :: firstWord rest) :: words (afterWord rest) := by
  have hword : words (c :: firstWord rest) = [c :: firstWord rest] :=
    words_of_forall (List.cons_ne_nil _ _)
      (List.forall_mem_cons.mpr ⟨hc, fun _ => not_isSeparator_of_mem_firstWord⟩)
  have hrest : c :: rest = (c :: firstWord rest) ++ afterWord rest := by
    rw [List.cons_append, firstWord_append_afterWord]
  rw [hrest]
  cases hafter : afterWord rest with
  | nil => rw [List.append_nil, hword, words_nil]
  | cons d more =>
      have hd := isSeparator_of_afterWord hafter
      rw [words_append_cons hd, words_cons_of_isSeparator hd, hword, List.singleton_append]

/-! ### Normalising -/

/-- The words of a text, each after an underscore. -/
def afterUnderscores (words : List (List Char)) : List Char := words.flatMap ('_' :: ·)

theorem intercalate_cons (word : List Char) (more : List (List Char)) :
    ['_'].intercalate (word :: more) = word ++ afterUnderscores more := by
  induction more generalizing word with
  | nil => simp [afterUnderscores]
  | cons next more ih =>
      rw [List.intercalate_cons_cons, ih]
      simp [afterUnderscores]

/-- Once a character has been kept: separators that have been read, and a word that has begun. -/
theorem normalizeFrom_true (text : List Char) :
    normalizeFrom true true text = afterUnderscores (words text) ∧
      normalizeFrom true false text =
        firstWord text ++ afterUnderscores (words (afterWord text)) := by
  induction text with
  | nil => exact ⟨rfl, rfl⟩
  | cons c rest ih =>
      obtain ⟨hgap, hword⟩ := ih
      cases hc : isSeparator c with
      | true =>
          have hfirst : firstWord (c :: rest) = [] := by simp [firstWord, hc]
          have hafter : afterWord (c :: rest) = c :: rest := by simp [afterWord, hc]
          rw [normalizeFrom_of_isSeparator hc, normalizeFrom_of_isSeparator hc, hfirst, hafter,
            words_cons_of_isSeparator hc, hgap]
          exact ⟨rfl, rfl⟩
      | false =>
          have hfirst : firstWord (c :: rest) = c :: firstWord rest := by simp [firstWord, hc]
          have hafter : afterWord (c :: rest) = afterWord rest := by simp [afterWord, hc]
          rw [normalizeFrom_of_not_isSeparator hc, normalizeFrom_of_not_isSeparator hc, hfirst,
            hafter, words_cons_of_not_isSeparator hc, hword]
          exact ⟨rfl, rfl⟩

/-- A normalised text is its words, joined by underscores. -/
theorem normalize_eq_intercalate (text : List Char) :
    normalize text = ['_'].intercalate (words text) := by
  induction text with
  | nil => rfl
  | cons c rest ih =>
      cases hc : isSeparator c with
      | true =>
          rw [normalize, normalizeFrom_of_isSeparator hc, normalizeFrom_false, ih,
            words_cons_of_isSeparator hc]
      | false =>
          rw [normalize, normalizeFrom_of_not_isSeparator hc, (normalizeFrom_true rest).2,
            words_cons_of_not_isSeparator hc, intercalate_cons]
          rfl

theorem normalize_normalize (text : List Char) : normalize (normalize text) = normalize text :=
  normalize_of_spaced (spaced_normalize text)

/-- Normalising drops separators only, and brings in nothing else. -/
theorem mem_normalize_iff (hc : isSeparator c = false) : c ∈ normalize text ↔ c ∈ text := by
  constructor
  · intro h
    have hne : c ≠ '_' := by
      rintro rfl
      exact absurd hc (by decide)
    exact (mem_of_mem_normalizeFrom h).resolve_right hne
  · intro h
    obtain ⟨front, rest, rfl⟩ := List.append_of_mem h
    obtain ⟨gap, -, hsplit⟩ := exists_normalizeFrom_append_cons hc false false front rest
    rw [normalize, hsplit]
    exact List.mem_append_right _ List.mem_cons_self

end Title.Key

namespace Resolver

open Title

section Programs

variable {m : Type → Type} [Monad m] (r : Resolver m)

/-- A title is read off the normalised text, whatever answers for the table. -/
theorem parse_congr {text other : String}
    (h : Key.normalize other.toList = Key.normalize text.toList) (ns : Int) :
    r.parse other ns = r.parse text ns := by
  have hkept : Key.isSeparator '\x00' = false := by decide
  have hnul : other.toList.contains '\x00' = text.toList.contains '\x00' := by
    rw [Bool.eq_iff_iff, List.contains_iff_mem, List.contains_iff_mem,
      ← Key.mem_normalize_iff hkept, h, Key.mem_normalize_iff hkept]
  rw [parse, parse, hnul, h]

/-- A normalised text is the words of the text joined by underscores, so normalising again changes
nothing; and titles are read off it: a text is read as it is read when it is normalised, and as
every other text with the same words is read. -/
theorem parse_words (ns : Int) (text : String) :
    Key.normalize text.toList = ['_'].intercalate (Key.words text.toList) ∧
      Key.normalize (Key.normalize text.toList) = Key.normalize text.toList ∧
      r.parse text ns = r.parse (String.ofList (Key.normalize text.toList)) ns ∧
      ∀ other : String, Key.words other.toList = Key.words text.toList →
        r.parse other ns = r.parse text ns := by
  refine ⟨Key.normalize_eq_intercalate _, Key.normalize_normalize _, ?_, fun other hwords => ?_⟩
  · apply r.parse_congr
    rw [String.toList_ofList, Key.normalize_normalize]
  · apply r.parse_congr
    rw [Key.normalize_eq_intercalate, Key.normalize_eq_intercalate, hwords]

end Programs

/-- Underscores, spaces and a no-break space between the same words, and at the ends. -/
theorem parse_words_help :
    Key.words "_Help_ : \u00a0foo  bar#a b ".toList = Key.words "Help : foo bar#a_b".toList ∧
      (plain {} true).parse "_Help_ : \u00a0foo  bar#a b " Namespace.main =
        (plain {} true).parse "Help : foo bar#a_b" Namespace.main := by
  have hwords : Key.words "_Help_ : \u00a0foo  bar#a b ".toList =
      Key.words "Help : foo bar#a_b".toList := by decide
  exact ⟨hwords, (parse_words _ _ _).2.2.2 _ hwords⟩

end Resolver

end WikiEntry
