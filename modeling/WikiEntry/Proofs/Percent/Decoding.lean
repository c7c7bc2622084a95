import WikiEntry.Proofs.Percent.Restoring

/-!
# What decoding changes

An escape is three characters that decoding turns into one octet, and everything else stays. So
decoding never makes a text longer, it makes a text with an escape shorter, and the texts that it
leaves as they are, are those without escapes.

A character of ASCII that is neither a percent sign nor a digit belongs to no escape and shares no
octet with another character. What stands before it and what stands after it are decoded apart,
and both have to be in order for the whole to be.
-/

namespace WikiEntry.Percent

variable {text front back : List Char} {code : String} {s : Char}

theorem decode?_eq_some_iff {text : String} :
    decode? code = some text ↔
      octetsAfter 0 code.toList = text.toList.flatMap String.utf8EncodeChar := by
  constructor
  · intro h
    rw [decode?, String.fromUTF8?] at h
    split at h
    · have hbytes : (⟨(octetsAfter 0 code.toList).toArray⟩ : ByteArray) = text.toByteArray := by
        rw [← Option.some.inj h]
        rfl
      rw [← String.ofList_toList (s := text), String.toByteArray_ofList, List.utf8Encode] at hbytes
      have hdata := congrArg ByteArray.data hbytes
      rw [List.data_toByteArray] at hdata
      exact congrArg Array.toList hdata
    · cases h
  · intro h
    rw [decode?_eq_of_octetsAfter h, String.ofList_toList]

/-! ### Texts that decoding leaves alone -/

theorem octetsAfter_of_hasEscape_eq_false (h : hasEscape text = false) :
    octetsAfter 0 text = text.flatMap String.utf8EncodeChar := by
  induction text with
  | nil => rfl
  | cons c rest ih =>
      obtain ⟨hc, hrest⟩ := Bool.or_eq_false_iff.mp h
      have hnone : (if c = '%' then octet? rest else none) = none := by
        split
        · simpa [*] using hc
        · rfl
      rw [octetsAfter, hnone, ih hrest]
      rfl

theorem length_octetsAfter_le (skip : Nat) (text : List Char) :
    (octetsAfter skip text).length ≤ (text.flatMap String.utf8EncodeChar).length := by
  induction text generalizing skip with
  | nil => cases skip <;> exact Nat.le_refl 0
  | cons c rest ih =>
      rw [List.flatMap_cons, List.length_append]
      cases skip with
      | succ skip => exact Nat.le_trans (ih skip) (Nat.le_add_left _ _)
      | zero =>
          have hpos : 0 < (String.utf8EncodeChar c).length :=
            List.length_pos_iff.mpr String.utf8EncodeChar_ne_nil
          rw [octetsAfter]
          split
          · have hle := ih 2
            rw [List.length_cons]
            omega
          · have hle := ih 0
            rw [List.length_append]
            omega

/-- The digits of an escape are gone, and there are two of them. -/
theorem length_octetsAfter_lt (h : hasEscape text = true) :
    (octetsAfter 0 text).length < (text.flatMap String.utf8EncodeChar).length := by
  induction text with
  | nil => cases h
  | cons c rest ih =>
      have hpos (d : Char) : 0 < (String.utf8EncodeChar d).length :=
        List.length_pos_iff.mpr String.utf8EncodeChar_ne_nil
      rw [octetsAfter, List.flatMap_cons, List.length_append]
      split
      · rename_i octet hoctet
        rw [Option.ite_none_right_eq_some] at hoctet
        obtain ⟨high, low, -, -, more, rfl⟩ :=
          octet?_isSome_iff.mp (Option.isSome_of_eq_some hoctet.2)
        have hle : (octetsAfter 2 (high :: low :: more)).length ≤
            (more.flatMap String.utf8EncodeChar).length := length_octetsAfter_le 0 more
        have hc := hpos c
        have hhigh := hpos high
        simp only [List.cons_append, List.nil_append, List.flatMap_cons, List.length_append,
          List.length_cons]
        omega
      · rename_i hnone
        have hrest : hasEscape rest = true := by
          rw [hasEscape, Bool.or_eq_true] at h
          refine h.resolve_left fun hstart => ?_
          obtain ⟨hc, hsome⟩ := Bool.and_eq_true_iff.mp hstart
          rw [if_pos (of_decide_eq_true hc)] at hnone
          rw [hnone] at hsome
          cases hsome
        have hlt := ih hrest
        rw [List.length_append]
        omega

/-- Decoding leaves a text as it is if nothing in it reads as an escape. -/
theorem hasEscape_eq_false_iff {text : String} :
    hasEscape text.toList = false ↔ decode? text = some text := by
  rw [decode?_eq_some_iff]
  constructor
  · exact octetsAfter_of_hasEscape_eq_false
  · intro h
    rw [Bool.eq_false_iff]
    intro hescape
    have hlt := length_octetsAfter_lt hescape
    rw [h] at hlt
    exact Nat.lt_irrefl _ hlt

theorem utf8ByteSize_eq (text : String) :
    text.utf8ByteSize = (text.toList.flatMap String.utf8EncodeChar).length := by
  rw [← String.size_toByteArray, ← String.ofList_toList (s := text), String.toByteArray_ofList,
    List.utf8Encode, List.size_toByteArray, String.toList_ofList]

theorem utf8ByteSize_ofList_lt (front : List Char) (c : Char) (back : List Char) :
    (String.ofList back).utf8ByteSize < (String.ofList (front ++ c :: back)).utf8ByteSize := by
  have hpos : 0 < (String.utf8EncodeChar c).length :=
    List.length_pos_iff.mpr String.utf8EncodeChar_ne_nil
  simp only [utf8ByteSize_eq, String.toList_ofList, List.flatMap_append, List.flatMap_cons,
    List.length_append]
  omega

theorem utf8ByteSize_le_of_decode? {text : String} (h : decode? code = some text) :
    text.utf8ByteSize ≤ code.utf8ByteSize := by
  rw [utf8ByteSize_eq, utf8ByteSize_eq, ← decode?_eq_some_iff.mp h]
  exact length_octetsAfter_le 0 code.toList

/-! ### Codes with a separator -/

/-- An escape ends before the next character that is no digit. -/
theorem octet?_append_cons (hs : hexValue? s = none) (front back : List Char) :
    octet? (front ++ s :: back) = octet? front := by
  match front with
  | [] => cases back <;> simp [octet?, hs]
  | [_] => simp [octet?, hs]
  | _ :: _ :: _ => rfl

theorem octetsAfter_append_cons (hs : hexValue? s = none) (hne : s ≠ '%') {skip : Nat}
    (hskip : skip ≤ front.length) (back : List Char) :
    octetsAfter skip (front ++ s :: back) =
      octetsAfter skip front ++ String.utf8EncodeChar s ++ octetsAfter 0 back := by
  induction front generalizing skip with
  | nil =>
      obtain rfl : skip = 0 := Nat.le_zero.mp hskip
      exact octetsAfter_cons_of_ne hne back
  | cons c front ih =>
      rw [List.cons_append]
      cases skip with
      | succ skip => exact ih (Nat.le_of_succ_le_succ hskip)
      | zero =>
          rw [octetsAfter, octetsAfter, octet?_append_cons hs]
          cases hoctet : (if c = '%' then octet? front else none) with
          | none => simp [ih (Nat.zero_le _)]
          | some octet =>
              -- Both digits stand before the separator.
              rw [Option.ite_none_right_eq_some] at hoctet
              obtain ⟨high, low, -, -, more, rfl⟩ :=
                octet?_isSome_iff.mp (Option.isSome_of_eq_some hoctet.2)
              have htwo : 2 ≤ ([high, low] ++ more).length := by simp
              dsimp only
              rw [ih htwo]
              rfl

/-- An octet of ASCII stands for itself, wherever it occurs in the octets of a text. -/
theorem exists_of_flatMap_eq_append (hs : s.toNat < 128) {before after : List UInt8}
    (h : text.flatMap String.utf8EncodeChar = before ++ UInt8.ofNat s.toNat :: after) :
    ∃ front back, text = front ++ s :: back ∧ front.flatMap String.utf8EncodeChar = before ∧
      back.flatMap String.utf8EncodeChar = after := by
  induction text generalizing before with
  | nil => simp at h
  | cons c text ih =>
      rw [List.flatMap_cons, List.append_eq_append_iff] at h
      obtain ⟨more, rfl, htext⟩ | ⟨more, hc, hafter⟩ := h
      · obtain ⟨front, back, rfl, rfl, rfl⟩ := ih htext
        exact ⟨c :: front, back, rfl, rfl, rfl⟩
      · cases more with
        | nil =>
            have htext : text.flatMap String.utf8EncodeChar =
                [] ++ UInt8.ofNat s.toNat :: after := hafter.symm
            obtain ⟨front, back, rfl, hfront, rfl⟩ := ih htext
            refine ⟨c :: front, back, rfl, ?_, rfl⟩
            rw [List.flatMap_cons, hfront, hc, List.append_nil, List.append_nil]
        | cons octet more =>
            -- The octet belongs to `c`, so `c` is the character itself.
            obtain ⟨rfl, rfl⟩ := List.cons.inj hafter
            have hmem : UInt8.ofNat s.toNat ∈ String.utf8EncodeChar c := by simp [hc]
            have hcs : c = s :=
              Decidable.byContradiction fun hne => ne_of_mem_utf8EncodeChar hs hne hmem rfl
            subst hcs
            rw [utf8EncodeChar_of_ascii hs, List.singleton_eq_append_iff] at hc
            obtain ⟨rfl, hmore⟩ | ⟨-, hmore⟩ := hc
            · obtain ⟨-, rfl⟩ := List.cons.inj hmore
              exact ⟨[], text, rfl, rfl, rfl⟩
            · cases hmore

/-- A code with a separator stands for what its two parts stand for, with the separator between
them. -/
theorem decode?_append_cons_eq_some_iff (hs : hexValue? s = none) (hne : s ≠ '%')
    (hascii : s.toNat < 128) {text : String} :
    decode? (String.ofList (front ++ s :: back)) = some text ↔
      ∃ first second, decode? (String.ofList front) = some first ∧
        decode? (String.ofList back) = some second ∧
        text.toList = first.toList ++ s :: second.toList := by
  simp only [decode?_eq_some_iff, String.toList_ofList,
    octetsAfter_append_cons hs hne (Nat.zero_le _), utf8EncodeChar_of_ascii hascii]
  constructor
  · intro h
    rw [List.append_assoc, List.singleton_append] at h
    obtain ⟨first, second, htext, hfirst, hsecond⟩ := exists_of_flatMap_eq_append hascii h.symm
    exact ⟨String.ofList first, String.ofList second, by simp [hfirst], by simp [hsecond],
      by simp [htext]⟩
  · rintro ⟨first, second, hfirst, hsecond, htext⟩
    rw [htext, hfirst, hsecond, List.flatMap_append, List.flatMap_cons,
      utf8EncodeChar_of_ascii hascii, List.append_assoc]

end WikiEntry.Percent
