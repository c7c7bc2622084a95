import WikiEntry.Proofs.Percent
import WikiEntry.Proofs.Text.Cutting

/-!
# Escapes that are restored

Percent code can be made in two ways. Encoding makes it in one pass, character by character. The
other way escapes every octet that is not a letter, a digit or one of four marks, and then goes
over the code once for each harmless mark and replaces its escape by the mark.

The passes cannot harm each other. An escape starts with a percent sign, and code holds percent
signs nowhere but at the starts of escapes: so an escape is found only where one was written, and
never across the end of one, as in `%253B`. Two characters never share an octet unless both are
outside ASCII, so a pass restores one mark and nothing else. After all passes the code is the one
of the single pass.
-/

namespace WikiEntry

namespace Text

/-- Replacing from within a text whose first `skip` characters are the rest of an occurrence that
has been replaced already. -/
def replaceAfter (word new : List Char) : (skip : Nat) → List Char → List Char
  | _, [] => []
  | skip + 1, _ :: rest => replaceAfter word new skip rest
  | 0, c :: rest =>
    match after? word (c :: rest) with
    | some _ => new ++ replaceAfter word new (word.length - 1) rest
    | none => c :: replaceAfter word new 0 rest

/-- The text with every occurrence of `word` written as `new`. Occurrences are looked for from the
left, after the one before, and what was written is not searched again. -/
def replace (word new text : List Char) : List Char := replaceAfter word new 0 text

variable {word new : List Char}

theorem replaceAfter_length (before rest : List Char) :
    replaceAfter word new before.length (before ++ rest) = replaceAfter word new 0 rest := by
  induction before with
  | nil => rfl
  | cons c before ih => exact ih

/-- A text that starts with the word. -/
theorem replace_append (hword : word ≠ []) (rest : List Char) :
    replace word new (word ++ rest) = new ++ replace word new rest := by
  obtain ⟨w, tail, rfl⟩ := List.exists_cons_of_ne_nil hword
  unfold replace
  rw [List.cons_append, replaceAfter, ← List.cons_append, after?_append]
  change new ++ replaceAfter (w :: tail) new tail.length (tail ++ rest) = _
  rw [replaceAfter_length]

/-- A text that does not start with the word. -/
theorem replace_cons_of_after? {c : Char} {rest : List Char} (h : after? word (c :: rest) = none) :
    replace word new (c :: rest) = c :: replace word new rest := by
  unfold replace
  rw [replaceAfter, h]

/-- A character that the word does not start with stays. -/
theorem replace_cons_of_ne {w c : Char} {tail : List Char} (h : w ≠ c) (rest : List Char) :
    replace (w :: tail) new (c :: rest) = c :: replace (w :: tail) new rest :=
  replace_cons_of_after? (by rw [after?, if_neg h])

end Text

namespace Percent

/-! ### Octets -/

theorem utf8EncodeChar_of_ascii {c : Char} (h : c.toNat < 128) :
    String.utf8EncodeChar c = [UInt8.ofNat c.toNat] := by
  have hle : c.val.toNat ≤ 127 := Nat.le_of_lt_succ h
  simp only [String.utf8EncodeChar, if_pos hle]
  rfl

/-- Outside ASCII, a character has only octets that no ASCII character has. -/
theorem le_toNat_of_mem_utf8EncodeChar {c : Char} (h : 128 ≤ c.toNat) {octet : UInt8}
    (hmem : octet ∈ String.utf8EncodeChar c) : 128 ≤ octet.toNat := by
  have hlarge : ¬ c.val.toNat ≤ 127 := Nat.not_le_of_lt h
  simp only [String.utf8EncodeChar, if_neg hlarge] at hmem
  split at hmem
  · simp only [List.mem_cons, List.not_mem_nil, or_false] at hmem
    rcases hmem with rfl | rfl <;> rw [UInt8.toNat_ofNat'] <;> omega
  · split at hmem
    · simp only [List.mem_cons, List.not_mem_nil, or_false] at hmem
      rcases hmem with rfl | rfl | rfl <;> rw [UInt8.toNat_ofNat'] <;> omega
    · simp only [List.mem_cons, List.not_mem_nil, or_false] at hmem
      rcases hmem with rfl | rfl | rfl | rfl <;> rw [UInt8.toNat_ofNat'] <;> omega

/-- No other character has the octet of an ASCII character. -/
theorem ne_of_mem_utf8EncodeChar {c d : Char} (hd : d.toNat < 128) (hne : c ≠ d) {octet : UInt8}
    (hmem : octet ∈ String.utf8EncodeChar c) : octet ≠ UInt8.ofNat d.toNat := by
  intro heq
  have hoctet : octet.toNat = d.toNat := by
    rw [heq, UInt8.toNat_ofNat']
    exact Nat.mod_eq_of_lt (by omega)
  by_cases hc : c.toNat < 128
  · rw [utf8EncodeChar_of_ascii hc, List.mem_singleton] at hmem
    have hself : octet.toNat = c.toNat := by
      rw [hmem, UInt8.toNat_ofNat']
      exact Nat.mod_eq_of_lt (by omega)
    exact hne (Char.toNat_inj.mp (hself.symm.trans hoctet))
  · have hlarge := le_toNat_of_mem_utf8EncodeChar (Nat.le_of_not_lt hc) hmem
    omega

/-! ### Escapes in code -/

theorem hexDigit_inj {m n : Nat} (hm : m < 16) (hn : n < 16) (h : hexDigit m = hexDigit n) :
    m = n := by
  have hvalue := congrArg hexValue? h
  rw [hexValue?_hexDigit m hm, hexValue?_hexDigit n hn] at hvalue
  exact Option.some.inj hvalue

theorem escape_inj {a b : UInt8} (h : escape a = escape b) : a = b := by
  have ha : a.toNat < 256 := a.toNat_lt
  have hb : b.toNat < 256 := b.toNat_lt
  simp only [escape, List.cons.injEq, true_and, and_true] at h
  have hhigh := hexDigit_inj (by omega) (by omega) h.1
  have hlow := hexDigit_inj (by omega) (by omega) h.2
  exact UInt8.toNat_inj.mp (by omega)

theorem percent_ne_hexDigit {n : Nat} (h : n < 16) : '%' ≠ hexDigit n := by
  intro heq
  have hkept : isKept false (hexDigit n) = true := isKept_hexDigit n h
  rw [← heq, not_isKept_percent] at hkept
  exact Bool.noConfusion hkept

/-- No escape starts at a digit. -/
theorem replace_escape_cons_hexDigit {n : Nat} (h : n < 16) (a : UInt8) (new rest : List Char) :
    Text.replace (escape a) new (hexDigit n :: rest) =
      hexDigit n :: Text.replace (escape a) new rest :=
  Text.replace_cons_of_ne (percent_ne_hexDigit h) rest

/-- The escape of one octet is not found in the escape of another. -/
theorem replace_escape_of_ne {a b : UInt8} (h : b ≠ a) (new rest : List Char) :
    Text.replace (escape a) new (escape b ++ rest) =
      escape b ++ Text.replace (escape a) new rest := by
  have hlt : b.toNat < 256 := b.toNat_lt
  have hstart : Text.after? (escape a) (escape b ++ rest) = none := by
    rw [Option.eq_none_iff_forall_ne_some]
    intro tail htail
    rw [Text.after?_eq_some_iff] at htail
    exact h (escape_inj (List.append_inj_left htail rfl))
  calc Text.replace (escape a) new (escape b ++ rest)
      = '%' :: Text.replace (escape a) new
          (hexDigit (b.toNat / 16) :: hexDigit (b.toNat % 16) :: rest) :=
        Text.replace_cons_of_after? hstart
    _ = '%' :: hexDigit (b.toNat / 16) :: Text.replace (escape a) new
          (hexDigit (b.toNat % 16) :: rest) := by
        rw [replace_escape_cons_hexDigit (by omega)]
    _ = escape b ++ Text.replace (escape a) new rest := by
        rw [replace_escape_cons_hexDigit (by omega)]
        rfl

theorem replace_flatMap_escape {a : UInt8} {octets : List UInt8} (h : ∀ b ∈ octets, b ≠ a)
    (new rest : List Char) :
    Text.replace (escape a) new (octets.flatMap escape ++ rest) =
      octets.flatMap escape ++ Text.replace (escape a) new rest := by
  induction octets with
  | nil => rfl
  | cons b octets ih =>
      obtain ⟨hb, hoctets⟩ := List.forall_mem_cons.mp h
      rw [List.flatMap_cons, List.append_assoc, replace_escape_of_ne hb, ih hoctets,
        List.append_assoc]

/-! ### Encoding in several passes -/

/-- The characters that are never escaped. -/
def isUnreserved (c : Char) : Bool := c.isAlphanum || "-._~".toList.contains c

/-- The percent code that keeps the characters that satisfy `keep`. -/
def encodeKeeping (keep : Char → Bool) (text : List Char) : List Char :=
  text.flatMap fun c => if keep c then [c] else (String.utf8EncodeChar c).flatMap escape

/-- The escapes that are restored and what they are restored to, in the order of the passes. The
tilde is not escaped in the first place, so its pass finds nothing. -/
def restored (colonBroken : Bool) : List (String × Char) :=
  [("%3B", ';'), ("%40", '@'), ("%24", '$'), ("%21", '!'), ("%2A", '*'), ("%28", '('),
    ("%29", ')'), ("%2C", ','), ("%2F", '/'), ("%7E", '~')] ++
  if colonBroken then [] else [("%3A", ':')]

/-- One pass: an escape is replaced wherever it is found. -/
def restore (code : List Char) (entry : String × Char) : List Char :=
  Text.replace entry.1.toList [entry.2] code

/-- The percent code made in several passes. -/
def encodeInPasses (colonBroken : Bool) (text : List Char) : List Char :=
  (restored colonBroken).foldl restore (encodeKeeping isUnreserved text)

/-- A pass restores one character and leaves all the rest of the code alone. -/
theorem replace_escape_encodeKeeping {keep : Char → Bool} {d : Char} (hd : d.toNat < 128)
    (hkeep : keep '%' = false) (text : List Char) :
    Text.replace (escape (UInt8.ofNat d.toNat)) [d] (encodeKeeping keep text) =
      encodeKeeping (fun c => keep c || c == d) text := by
  induction text with
  | nil => rfl
  | cons c text ih =>
      unfold encodeKeeping at ih ⊢
      rw [List.flatMap_cons, List.flatMap_cons, ← ih]
      by_cases hkept : keep c = true
      · have hne : '%' ≠ c := by
          rintro rfl
          rw [hkeep] at hkept
          exact Bool.noConfusion hkept
        rw [if_pos hkept, if_pos (by simp [hkept])]
        exact Text.replace_cons_of_ne hne _
      · rw [if_neg hkept]
        by_cases hcd : c = d
        · subst hcd
          rw [if_pos (by simp), utf8EncodeChar_of_ascii hd]
          exact Text.replace_append (List.cons_ne_nil _ _) _
        · rw [if_neg (by simp [hkept, hcd]),
            replace_flatMap_escape fun _ => ne_of_mem_utf8EncodeChar hd hcd]

/-- Passes that restore one character each. -/
theorem foldl_restore {entries : List (String × Char)}
    (hentries : ∀ entry ∈ entries, entry.2.toNat < 128 ∧ entry.2 ≠ '%' ∧
      entry.1.toList = escape (UInt8.ofNat entry.2.toNat))
    {keep : Char → Bool} (hkeep : keep '%' = false) (text : List Char) :
    entries.foldl restore (encodeKeeping keep text) =
      encodeKeeping (fun c => keep c || (entries.map Prod.snd).contains c) text := by
  induction entries generalizing keep with
  | nil => simp
  | cons entry entries ih =>
      obtain ⟨⟨hascii, hne, hescape⟩, hrest⟩ := List.forall_mem_cons.mp hentries
      have hnext : (keep '%' || '%' == entry.2) = false := by simp [hkeep, Ne.symm hne]
      rw [List.foldl_cons, restore, hescape, replace_escape_encodeKeeping hascii hkeep,
        ih hrest hnext]
      simp only [List.map_cons, List.contains_cons, Bool.or_assoc]

theorem restored_escapes {entry : String × Char} (h : entry ∈ restored colonBroken) :
    entry.2.toNat < 128 ∧ entry.2 ≠ '%' ∧ entry.1.toList = escape (UInt8.ofNat entry.2.toNat) := by
  revert entry
  cases colonBroken <;> decide

/-- The characters that some pass restores are those that encoding keeps besides the unreserved
ones. -/
theorem isUnreserved_or_restored (c : Char) :
    (isUnreserved c || ((restored colonBroken).map Prod.snd).contains c) =
      isKept colonBroken c := by
  rw [Bool.eq_iff_iff]
  cases colonBroken <;> simp [isUnreserved, isKept, restored] <;> grind

/-- Restoring the escapes of the harmless marks, one after another, comes to the same as keeping
the marks from the start. -/
theorem encodeInPasses_eq (colonBroken : Bool) (text : List Char) :
    encodeInPasses colonBroken text = encodeChars colonBroken text := by
  have hpercent : isUnreserved '%' = false := by decide
  rw [encodeInPasses, foldl_restore (fun _ => restored_escapes) hpercent]
  unfold encodeKeeping encodeChars
  simp only [isUnreserved_or_restored]

/-! ### The shape of percent code -/

/-- Texts that are put together from kept characters and escapes with capital digits. -/
inductive IsCode (colonBroken : Bool) : List Char → Prop
  | nil : IsCode colonBroken []
  | kept {c : Char} {rest : List Char}
      (hc : c.isAlphanum = true ∨ c ∈ "-._~;@$!*(),/".toList ∨ c = ':' ∧ colonBroken = false)
      (hrest : IsCode colonBroken rest) : IsCode colonBroken (c :: rest)
  | escape {high low : Char} {rest : List Char} (hhigh : high ∈ "0123456789ABCDEF".toList)
      (hlow : low ∈ "0123456789ABCDEF".toList) (hrest : IsCode colonBroken rest) :
      IsCode colonBroken ('%' :: high :: low :: rest)

theorem hexDigit_mem : ∀ n, n < 16 → hexDigit n ∈ "0123456789ABCDEF".toList := by
  decide

theorem isCode_flatMap_escape (octets : List UInt8) {rest : List Char}
    (h : IsCode colonBroken rest) : IsCode colonBroken (octets.flatMap escape ++ rest) := by
  induction octets with
  | nil => exact h
  | cons octet octets ih =>
      have hlt : octet.toNat < 256 := octet.toNat_lt
      exact .escape (hexDigit_mem _ (by omega)) (hexDigit_mem _ (by omega)) ih

theorem isCode_encodeChars (colonBroken : Bool) (text : List Char) :
    IsCode colonBroken (encodeChars colonBroken text) := by
  induction text with
  | nil => exact .nil
  | cons c text ih =>
      unfold encodeChars at ih ⊢
      rw [List.flatMap_cons]
      by_cases hkept : isKept colonBroken c = true
      · rw [if_pos hkept]
        refine .kept ?_ ih
        simpa [isKept, or_assoc] using hkept
      · rw [if_neg hkept]
        exact isCode_flatMap_escape _ ih

/-- Encoding is undone by decoding, whatever the text and whether or not colons are encoded. The
code is made of kept characters and escapes with capital digits; so a URL can hold it in its path
and in its query, since none of the characters at which URLs are cut, nor the plus sign that a
query reads as a space, is in it. Escaping first and restoring the harmless marks afterwards makes
the same code. -/
theorem encode_faithful (text : String) (colonBroken : Bool) :
    decode? (encode text colonBroken) = some text ∧
      IsCode colonBroken (encode text colonBroken).toList ∧
      (∀ c ∈ ['?', '#', '&', '=', '+', ' '], c ∉ (encode text colonBroken).toList) ∧
      (encode text colonBroken).toList = encodeInPasses colonBroken text.toList := by
  have hcode : (encode text colonBroken).toList = encodeChars colonBroken text.toList :=
    String.toList_ofList
  rw [hcode]
  exact ⟨decode?_encode_self text colonBroken, isCode_encodeChars colonBroken text.toList,
    fun c hc => not_mem_encodeChars hc text.toList,
    (encodeInPasses_eq colonBroken text.toList).symm⟩

end Percent

end WikiEntry
