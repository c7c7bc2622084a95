import WikiEntry.Percent

/-!
# Percent code is read back

Encoding writes a character either as itself or as one escape for each octet of its UTF-8 form,
and decoding undoes both. What encoding writes holds no character that a URL gives a meaning of
its own, except the percent sign of the escapes: so the code of a text can stand anywhere in a
path or in a query and is found there unharmed.
-/

namespace WikiEntry.Percent

variable {colonBroken : Bool}

/-! ### Escapes -/

theorem hexValue?_hexDigit : ∀ n, n < 16 → hexValue? (hexDigit n) = some n := by
  decide

theorem isKept_hexDigit : ∀ n, n < 16 → isKept colonBroken (hexDigit n) = true := by
  cases colonBroken <;> decide

theorem octet?_escape (octet : UInt8) (rest : List Char) :
    octet? (hexDigit (octet.toNat / 16) :: hexDigit (octet.toNat % 16) :: rest) = some octet := by
  have hlt : octet.toNat < 256 := octet.toNat_lt
  have hhigh : hexValue? (hexDigit (octet.toNat / 16)) = some (octet.toNat / 16) :=
    hexValue?_hexDigit _ (by omega)
  have hlow : hexValue? (hexDigit (octet.toNat % 16)) = some (octet.toNat % 16) :=
    hexValue?_hexDigit _ (by omega)
  have hsum : 16 * (octet.toNat / 16) + octet.toNat % 16 = octet.toNat := by omega
  simp only [octet?, hhigh, hlow, Option.bind_eq_bind, Option.bind_some, Option.pure_def, hsum,
    UInt8.ofNat_toNat]

theorem octetsAfter_escape (octet : UInt8) (rest : List Char) :
    octetsAfter 0 (escape octet ++ rest) = octet :: octetsAfter 0 rest := by
  simp [escape, octetsAfter, octet?_escape]

theorem octetsAfter_flatMap_escape (octets : List UInt8) (rest : List Char) :
    octetsAfter 0 (octets.flatMap escape ++ rest) = octets ++ octetsAfter 0 rest := by
  induction octets with
  | nil => rfl
  | cons octet octets ih =>
      rw [List.flatMap_cons, List.append_assoc, octetsAfter_escape, ih, List.cons_append]

/-! ### Decoding what was encoded -/

theorem octetsAfter_cons_of_ne {c : Char} (hc : c ≠ '%') (rest : List Char) :
    octetsAfter 0 (c :: rest) = String.utf8EncodeChar c ++ octetsAfter 0 rest := by
  simp [octetsAfter, hc]

theorem not_isKept_percent : isKept colonBroken '%' = false := by
  cases colonBroken <;> decide

theorem octetsAfter_encodeChars (colonBroken : Bool) (text rest : List Char) :
    octetsAfter 0 (encodeChars colonBroken text ++ rest) =
      text.flatMap String.utf8EncodeChar ++ octetsAfter 0 rest := by
  induction text with
  | nil => rfl
  | cons c text ih =>
      unfold encodeChars at ih ⊢
      rw [List.flatMap_cons, List.flatMap_cons, List.append_assoc, List.append_assoc, ← ih]
      by_cases hkept : isKept colonBroken c = true
      · have hc : c ≠ '%' := by
          rintro rfl
          rw [not_isKept_percent] at hkept
          exact Bool.noConfusion hkept
        rw [if_pos hkept, List.cons_append, List.nil_append, octetsAfter_cons_of_ne hc]
      · rw [if_neg hkept, octetsAfter_flatMap_escape]

theorem decode?_eq_of_octetsAfter {code : String} {text : List Char}
    (h : octetsAfter 0 code.toList = text.flatMap String.utf8EncodeChar) :
    decode? code = some (String.ofList text) := by
  have hbytes : (⟨(text.flatMap String.utf8EncodeChar).toArray⟩ : ByteArray) =
      (String.ofList text).toByteArray := by
    rw [String.toByteArray_ofList, List.utf8Encode]
    apply ByteArray.ext
    rw [List.data_toByteArray]
  rw [decode?, h, hbytes, String.fromUTF8?, dif_pos (String.ofList text).isValidUTF8]
  rfl

theorem decode?_encodeChars (text : List Char) :
    decode? (String.ofList (encodeChars colonBroken text)) = some (String.ofList text) := by
  apply decode?_eq_of_octetsAfter
  have h := octetsAfter_encodeChars colonBroken text []
  rw [List.append_nil] at h
  rw [String.toList_ofList, h]
  exact List.append_nil _

theorem decode?_encode_self (text : String) (colonBroken : Bool) :
    decode? (encode text colonBroken) = some text := by
  rw [encode, decode?_encodeChars, String.ofList_toList]

/-- Two codes with a character between them that starts no escape. -/
theorem decode?_encodeChars_append {c : Char} (hc : c ≠ '%') (front back : List Char) :
    decode? (String.ofList
        (encodeChars colonBroken front ++ c :: encodeChars colonBroken back)) =
      some (String.ofList (front ++ c :: back)) := by
  have hback := octetsAfter_encodeChars colonBroken back []
  rw [List.append_nil] at hback
  apply decode?_eq_of_octetsAfter
  rw [String.toList_ofList, octetsAfter_encodeChars, octetsAfter_cons_of_ne hc, hback,
    List.flatMap_append, List.flatMap_cons]
  simp [octetsAfter]

/-! ### What encoding writes -/

/-- Besides the percent sign, encoding writes only characters that stay themselves. -/
theorem isKept_or_eq_percent_of_mem {c : Char} {text : List Char}
    (h : c ∈ encodeChars colonBroken text) : isKept colonBroken c = true ∨ c = '%' := by
  obtain ⟨d, _, hd⟩ := List.mem_flatMap.1 h
  by_cases hkept : isKept colonBroken d = true
  · rw [if_pos hkept, List.mem_singleton] at hd
    exact Or.inl (hd ▸ hkept)
  · rw [if_neg hkept] at hd
    obtain ⟨octet, _, hc⟩ := List.mem_flatMap.1 hd
    have hlt : octet.toNat < 256 := octet.toNat_lt
    simp only [escape, List.mem_cons, List.not_mem_nil, or_false] at hc
    rcases hc with rfl | rfl | rfl
    · exact Or.inr rfl
    · exact Or.inl (isKept_hexDigit _ (by omega))
    · exact Or.inl (isKept_hexDigit _ (by omega))

/-- The characters at which a URL is cut, and the plus sign, do not occur in percent code. -/
theorem not_mem_encodeChars {c : Char} (hc : c ∈ ['?', '#', '&', '=', '+', ' '])
    (text : List Char) : c ∉ encodeChars colonBroken text := by
  intro hmem
  have hnot : isKept colonBroken c = false ∧ c ≠ '%' := by
    simp only [List.mem_cons, List.not_mem_nil, or_false] at hc
    rcases hc with rfl | rfl | rfl | rfl | rfl | rfl <;> cases colonBroken <;> decide
  rcases isKept_or_eq_percent_of_mem hmem with hkept | heq
  · rw [hnot.1] at hkept
    exact Bool.noConfusion hkept
  · exact hnot.2 heq

theorem encodeChars_ne_nil {text : List Char} (h : text ≠ []) :
    encodeChars colonBroken text ≠ [] := by
  cases text with
  | nil => exact absurd rfl h
  | cons c text =>
      unfold encodeChars
      rw [List.flatMap_cons]
      by_cases hkept : isKept colonBroken c = true
      · simp [hkept]
      · intro hnil
        rw [if_neg hkept, List.append_eq_nil_iff, List.flatMap_eq_nil_iff] at hnil
        cases hchar : String.utf8EncodeChar c with
        | nil => exact String.utf8EncodeChar_ne_nil hchar
        | cons octet octets =>
            have hescape := hnil.1 octet (by rw [hchar]; exact List.mem_cons_self)
            simp [escape] at hescape

/-! ### Where escapes are found -/

variable {text : List Char}

theorem octet?_isSome_iff : (octet? text).isSome = true ↔
    ∃ high low, (hexValue? high).isSome = true ∧ (hexValue? low).isSome = true ∧
      [high, low] <+: text := by
  match text with
  | [] | [_] => simp [octet?]
  | high :: low :: rest =>
      have hboth : (octet? (high :: low :: rest)).isSome = true ↔
          (hexValue? high).isSome = true ∧ (hexValue? low).isSome = true := by
        cases hhigh : hexValue? high <;> cases hlow : hexValue? low <;>
          simp [octet?, hhigh, hlow]
      rw [hboth]
      constructor
      · rintro ⟨hhigh, hlow⟩
        exact ⟨high, low, hhigh, hlow, List.prefix_append [high, low] rest⟩
      · rintro ⟨high', low', hhigh, hlow, hstart⟩
        simp only [List.cons_prefix_cons] at hstart
        obtain ⟨rfl, rfl, -⟩ := hstart
        exact ⟨hhigh, hlow⟩

/-- An escape is a percent sign before two hexadecimal digits. -/
theorem hasEscape_iff : hasEscape text = true ↔
    ∃ high low, (hexValue? high).isSome = true ∧ (hexValue? low).isSome = true ∧
      ['%', high, low] <:+: text := by
  induction text with
  | nil => simp [hasEscape]
  | cons c rest ih =>
      rw [hasEscape, Bool.or_eq_true, ih, Bool.and_eq_true, octet?_isSome_iff, decide_eq_true_iff]
      simp only [List.infix_cons_iff, List.cons_prefix_cons]
      constructor
      · rintro (⟨rfl, high, low, hhigh, hlow, hstart⟩ | ⟨high, low, hhigh, hlow, hin⟩)
        · exact ⟨high, low, hhigh, hlow, .inl ⟨rfl, hstart⟩⟩
        · exact ⟨high, low, hhigh, hlow, .inr hin⟩
      · rintro ⟨high, low, hhigh, hlow, ⟨rfl, hstart⟩ | hin⟩
        · exact .inl ⟨rfl, high, low, hhigh, hlow, hstart⟩
        · exact .inr ⟨high, low, hhigh, hlow, hin⟩

end WikiEntry.Percent
