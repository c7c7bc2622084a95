import WikiEntry.Text.Blank
import WikiEntry.Proofs.Text.Cutting
import WikiEntry.Text.LetterCase

/-!
# What changing case leaves alone

The case tables are about word characters only: letters of ASCII, and characters beyond ASCII
that are neither blank nor control characters. A word character has word characters for its
images, and every other character is its own image. Images are in the case they were changed to,
so changing case twice is changing it once.

The facts about the tables are checked on the tables once, rule by rule; everything else follows
from them.
-/

namespace WikiEntry.Text

/-! ### Facts about the tables -/

/-- Whether the code points from `low` to `high` and those of `r` have none in common. -/
def isApart (low high : Nat) (r : CodeRange) : Bool := Nat.blt high r.1 || Nat.blt r.2 low

/-- Whether all code points from `low` to `high` are word characters. -/
def isWordRange (low high : Nat) : Bool :=
  (Nat.ble 0x41 low && Nat.ble high 0x5A) || (Nat.ble 0x61 low && Nat.ble high 0x7A) ||
    (Nat.ble 0xA1 low && isApart low high (0xD800, 0xDFFF) && Nat.blt high 0x110000 &&
      blankRanges.all (isApart low high))

/-- The characters that the case tables are about: ASCII letters, and what lies beyond ASCII and
is neither blank nor a control character. -/
def isWordChar (c : Char) : Bool := isWordRange c.toNat c.toNat

/-- The greatest image under a rule. -/
def CaseRule.imageEnd (r : CaseRule) : Nat := r.image + (r.last - r.first)

/-- Whether no image under `r` is changed by `s`: the ranges are apart, or both go in steps of two
and never meet. -/
def CaseRule.avoids (r s : CaseRule) : Bool :=
  isApart r.image r.imageEnd (s.first, s.last) ||
    (Nat.beq ((r.image + s.first) % 2) 1 && Nat.beq (s.step % 2) 0 &&
      (Nat.beq (r.step % 2) 0 || Nat.beq r.first r.last))

/-- Whether a table leads from word characters to word characters. -/
def staysInWords (expansions : List (Nat × List Nat)) (rules : List CaseRule) : Bool :=
  (rules.all fun r => isWordRange r.first r.last && isWordRange r.image r.imageEnd) &&
    expansions.all fun e => isWordRange e.1 e.1 && e.2.all fun n => isWordRange n n

/-- Whether the images under the rules of a table are not changed by the table again. -/
def settles (expansions : List (Nat × List Nat)) (rules : List CaseRule) : Bool :=
  rules.all fun r =>
    rules.all r.avoids && expansions.all fun e => isApart r.image r.imageEnd (e.1, e.1)

/-- What the tables are checked for: they stay in words and settle, every expansion has images,
which are in the case they were changed to, the two small forms of sigma are small, and blanks
neither have case nor are passed over. -/
structure TablesAgree : Prop where
  upperWords : staysInWords upperExpansions upperRules = true
  lowerWords : staysInWords lowerExpansions lowerRules = true
  upperSettles : settles upperExpansions upperRules = true
  lowerSettles : settles lowerExpansions lowerRules = true
  upperFull : ∀ e ∈ upperExpansions, e.2 ≠ []
  lowerFull : ∀ e ∈ lowerExpansions, e.2 ≠ []
  upperHeads : ∀ e ∈ upperExpansions, ∀ n ∈ e.2.head?, upper (Char.ofNat n) = [Char.ofNat n]
  lowerImages : ∀ e ∈ lowerExpansions, ∀ n ∈ e.2, lowerAlone (Char.ofNat n) = [Char.ofNat n]
  sigma : lowerAlone 'σ' = ['σ']
  finalSigma : lowerAlone 'ς' = ['ς']
  capitalSigma : lowerAlone 'Σ' ≠ ['Σ']
  ignorable : ∀ b ∈ blankRanges, ∀ r ∈ caseIgnorableRanges, b.2 < r.1 ∨ r.2 < b.1
  cased : ∀ b ∈ blankRanges, ∀ r ∈ casedRanges, b.2 < r.1 ∨ r.2 < b.1

theorem tables_agree : TablesAgree := by
  constructor <;> decide +kernel

/-! ### One character -/

theorem isApart_iff {low high : Nat} {r : CodeRange} :
    isApart low high r = true ↔ high < r.1 ∨ r.2 < low := by
  simp [isApart, Nat.blt_eq]

theorem toNat_ofNat_of_isValidChar {n : Nat} (h : n.isValidChar) : (Char.ofNat n).toNat = n := by
  rw [Char.ofNat, dif_pos h]
  rfl

theorem isWordChar_of_isWordRange {low high n : Nat} (h : isWordRange low high = true)
    (hlow : low ≤ n) (hhigh : n ≤ high) :
    n.isValidChar ∧ isWordChar (Char.ofNat n) = true := by
  simp only [isWordRange, Bool.or_eq_true, Bool.and_eq_true, Nat.ble_eq, Nat.blt_eq,
    isApart_iff, List.all_eq_true] at h
  have hvalid : n.isValidChar := by
    unfold Nat.isValidChar
    omega
  refine ⟨hvalid, ?_⟩
  simp only [isWordChar, toNat_ofNat_of_isValidChar hvalid, isWordRange, Bool.or_eq_true,
    Bool.and_eq_true, Nat.ble_eq, Nat.blt_eq, isApart_iff, List.all_eq_true]
  rcases h with h | ⟨⟨⟨hbeyond, _⟩, _⟩, hblank⟩
  · omega
  · refine Or.inr ⟨⟨⟨by omega, by omega⟩, by omega⟩, fun r hr => ?_⟩
    have := hblank r hr
    omega

theorem not_isBlank_of_isWordChar {c : Char} (h : isWordChar c = true) : isBlank c = false := by
  simp only [isWordChar, isWordRange, Bool.or_eq_true, Bool.and_eq_true, Nat.ble_eq, Nat.blt_eq,
    isApart_iff, List.all_eq_true] at h
  rw [Bool.eq_false_iff]
  intro hblank
  obtain ⟨r, hr, hin⟩ := inRanges_iff.1 hblank
  rcases h with h | ⟨_, h⟩
  · have : ∀ r ∈ blankRanges, r.2 < 0x41 ∨ 0x7A < r.1 := by decide
    have := this r hr
    omega
  · have := h r hr
    omega

theorem not_isControl_of_isWordChar {c : Char} (h : isWordChar c = true) :
    isControl c = false := by
  simp only [isWordChar, isWordRange, Bool.or_eq_true, Bool.and_eq_true, Nat.ble_eq] at h
  simp only [isControl, Bool.or_eq_false_iff, Bool.and_eq_false_iff, decide_eq_false_iff_not]
  omega

/-! ### The images of a character -/

section Tables

variable {expansions : List (Nat × List Nat)} {rules : List CaseRule}

theorem CaseRule.mapped?_eq_some_iff {r : CaseRule} {n m : Nat} :
    r.mapped? n = some m ↔
      r.first ≤ n ∧ n ≤ r.last ∧ (n - r.first) % r.step = 0 ∧ m = r.image + (n - r.first) := by
  rw [CaseRule.mapped?, Option.ite_none_right_eq_some, Option.some.injEq]
  constructor
  · rintro ⟨⟨h₁, h₂, h₃⟩, rfl⟩
    exact ⟨h₁, h₂, h₃, rfl⟩
  · rintro ⟨h₁, h₂, h₃, rfl⟩
    exact ⟨⟨h₁, h₂, h₃⟩, rfl⟩

/-- The three ways in which a character gets its images. -/
theorem mapCase_cases (expansions : List (Nat × List Nat)) (rules : List CaseRule) (c : Char) :
    (∃ r ∈ rules, ∃ m, r.mapped? c.toNat = some m ∧
        mapCase expansions rules c = [Char.ofNat m]) ∨
      (∃ e ∈ expansions, e.1 = c.toNat ∧
        mapCase expansions rules c = e.2.map Char.ofNat) ∨
      ((∀ r ∈ rules, r.mapped? c.toNat = none) ∧ (∀ e ∈ expansions, e.1 ≠ c.toNat) ∧
        mapCase expansions rules c = [c]) := by
  unfold mapCase
  cases hrule : rules.findSome? (·.mapped? c.toNat) with
  | some m =>
      obtain ⟨r, hr, hm⟩ := List.exists_of_findSome?_eq_some hrule
      exact Or.inl ⟨r, hr, m, hm, rfl⟩
  | none =>
      have hnone : ∀ r ∈ rules, r.mapped? c.toNat = none := by
        simpa [List.findSome?_eq_none_iff] using hrule
      cases hlook : expansions.lookup c.toNat with
      | some images =>
          obtain ⟨front, back, hsplit, _⟩ := List.lookup_eq_some_iff.1 hlook
          refine Or.inr (Or.inl ⟨(c.toNat, images), ?_, rfl, rfl⟩)
          rw [hsplit]
          simp
      | none =>
          refine Or.inr (Or.inr ⟨hnone, ?_, rfl⟩)
          intro e he heq
          have hne := List.lookup_eq_none_iff.1 hlook e he
          simp [heq] at hne

/-- A character that no table is about is its own image. -/
theorem mapCase_of_not_isWordChar (htable : staysInWords expansions rules = true) {c : Char}
    (hc : isWordChar c = false) : mapCase expansions rules c = [c] := by
  simp only [staysInWords, Bool.and_eq_true, List.all_eq_true] at htable
  rcases mapCase_cases expansions rules c with ⟨r, hr, m, hm, _⟩ | ⟨e, he, heq, _⟩ | ⟨_, _, h⟩
  · obtain ⟨hfirst, hlast, _, _⟩ := CaseRule.mapped?_eq_some_iff.1 hm
    have hword := (isWordChar_of_isWordRange (htable.1 r hr).1 hfirst hlast).2
    rw [Char.ofNat_toNat, hc] at hword
    exact Bool.noConfusion hword
  · have hword := (isWordChar_of_isWordRange (htable.2 e he).1 (Nat.le_refl _) (Nat.le_refl _)).2
    rw [heq, Char.ofNat_toNat, hc] at hword
    exact Bool.noConfusion hword
  · exact h

/-- The images of a word character are word characters. -/
theorem isWordChar_of_mem_mapCase (htable : staysInWords expansions rules = true) {c d : Char}
    (hc : isWordChar c = true) (hd : d ∈ mapCase expansions rules c) : isWordChar d = true := by
  simp only [staysInWords, Bool.and_eq_true, List.all_eq_true] at htable
  rcases mapCase_cases expansions rules c with ⟨r, hr, m, hm, h⟩ | ⟨e, he, _, h⟩ | ⟨_, _, h⟩
  · obtain ⟨hfirst, hlast, _, rfl⟩ := CaseRule.mapped?_eq_some_iff.1 hm
    rw [h, List.mem_singleton] at hd
    subst hd
    refine (isWordChar_of_isWordRange (htable.1 r hr).2 (Nat.le_add_right _ _) ?_).2
    unfold CaseRule.imageEnd
    omega
  · rw [h] at hd
    obtain ⟨n, hn, rfl⟩ := List.mem_map.1 hd
    exact (isWordChar_of_isWordRange ((htable.2 e he).2 n hn) (Nat.le_refl _) (Nat.le_refl _)).2
  · rw [h, List.mem_singleton] at hd
    exact hd ▸ hc

theorem mapCase_ne_nil (hfull : ∀ e ∈ expansions, e.2 ≠ []) (c : Char) :
    mapCase expansions rules c ≠ [] := by
  rcases mapCase_cases expansions rules c with ⟨_, _, _, _, h⟩ | ⟨e, he, _, h⟩ | ⟨_, _, h⟩
  · simp [h]
  · simpa [h] using hfull e he
  · simp [h]

/-- An image under a rule is its own image. -/
theorem mapCase_ofNat_of_mapped? (htable : staysInWords expansions rules = true)
    (hsettled : settles expansions rules = true) {r : CaseRule} (hr : r ∈ rules) {n m : Nat}
    (hm : r.mapped? n = some m) :
    mapCase expansions rules (Char.ofNat m) = [Char.ofNat m] := by
  simp only [staysInWords, Bool.and_eq_true, List.all_eq_true] at htable
  simp only [settles, Bool.and_eq_true, List.all_eq_true, isApart_iff] at hsettled
  obtain ⟨hfirst, hlast, hstep, rfl⟩ := CaseRule.mapped?_eq_some_iff.1 hm
  have hend : r.image + (n - r.first) ≤ r.imageEnd := by
    unfold CaseRule.imageEnd
    omega
  have hvalid := (isWordChar_of_isWordRange (htable.1 r hr).2 (Nat.le_add_right _ _) hend).1
  have htoNat := toNat_ofNat_of_isValidChar hvalid
  rcases mapCase_cases expansions rules (Char.ofNat (r.image + (n - r.first))) with
    ⟨s, hs, k, hk, _⟩ | ⟨e, he, heq, _⟩ | ⟨_, _, h⟩
  · have havoids := (hsettled r hr).1 s hs
    rw [htoNat] at hk
    obtain ⟨hsfirst, hslast, hsstep, _⟩ := CaseRule.mapped?_eq_some_iff.1 hk
    simp only [CaseRule.avoids, Bool.or_eq_true, Bool.and_eq_true, isApart_iff,
      Nat.beq_eq] at havoids
    rcases havoids with havoids | ⟨⟨hodd, hseven⟩, hreven⟩
    · omega
    · have hs2 : (r.image + (n - r.first) - s.first) % 2 = 0 :=
        Nat.mod_eq_zero_of_dvd
          (Nat.dvd_trans (Nat.dvd_of_mod_eq_zero hseven) (Nat.dvd_of_mod_eq_zero hsstep))
      have hr2 : (n - r.first) % 2 = 0 := by
        rcases hreven with hreven | hsingle
        · exact Nat.mod_eq_zero_of_dvd
            (Nat.dvd_trans (Nat.dvd_of_mod_eq_zero hreven) (Nat.dvd_of_mod_eq_zero hstep))
        · omega
      omega
  · have hapart := (hsettled r hr).2 e he
    rw [htoNat] at heq
    omega
  · exact h

end Tables

/-! ### Capital forms -/

theorem upper_of_not_isWordChar {c : Char} (hc : isWordChar c = false) : upper c = [c] :=
  mapCase_of_not_isWordChar (tables_agree).upperWords hc

theorem isWordChar_of_mem_upper {c d : Char} (hc : isWordChar c = true) (hd : d ∈ upper c) :
    isWordChar d = true :=
  isWordChar_of_mem_mapCase (tables_agree).upperWords hc hd

theorem upper_ne_nil (c : Char) : upper c ≠ [] :=
  mapCase_ne_nil (tables_agree).upperFull c

/-- The first character of a capital form is its own capital form. The later ones need not be:
they may be small letters. -/
theorem upper_of_head?_upper {c d : Char} (h : (upper c).head? = some d) : upper d = [d] := by
  rcases mapCase_cases upperExpansions upperRules c with
    ⟨r, hr, m, hm, himage⟩ | ⟨e, he, _, himage⟩ | ⟨_, _, himage⟩
  · rw [upper, himage] at h
    obtain rfl : Char.ofNat m = d := by simpa using h
    exact mapCase_ofNat_of_mapped? (tables_agree).upperWords (tables_agree).upperSettles hr hm
  · rw [upper, himage, List.head?_map, Option.map_eq_some_iff] at h
    obtain ⟨n, hn, rfl⟩ := h
    exact (tables_agree).upperHeads e he n hn
  · rw [upper, himage] at h
    obtain rfl : c = d := by simpa using h
    exact himage

/-- Capitalising twice is capitalising once. -/
theorem upperFirst_upperFirst (text : List Char) :
    upperFirst (upperFirst text) = upperFirst text := by
  cases text with
  | nil => rfl
  | cons c rest =>
      rw [upperFirst]
      cases himage : upper c with
      | nil => exact absurd himage (upper_ne_nil c)
      | cons d tail =>
          have hfixed : upper d = [d] := upper_of_head?_upper (by rw [himage, List.head?_cons])
          rw [List.cons_append, upperFirst, hfixed, List.singleton_append]

/-! ### Small forms -/

/-- What `lower` writes for one character between its neighbours. -/
def lowerOne (before rest : List Char) (c : Char) : List Char :=
  if c = 'Σ' then [if meetsCased before && !meetsCased rest then 'ς' else 'σ'] else lowerAlone c

theorem lowerAfter_cons (before : List Char) (c : Char) (rest : List Char) :
    lowerAfter before (c :: rest) = lowerOne before rest c ++ lowerAfter (c :: before) rest := rfl

variable {before rest text blanks : List Char} {c d : Char}

theorem lowerOne_ne_nil (before rest : List Char) (c : Char) : lowerOne before rest c ≠ [] := by
  unfold lowerOne
  split
  · exact List.cons_ne_nil _ _
  · exact mapCase_ne_nil (tables_agree).lowerFull c

theorem lowerOne_of_not_isWordChar (hc : isWordChar c = false) :
    lowerOne before rest c = [c] := by
  have hne : c ≠ 'Σ' := by
    rintro rfl
    exact absurd hc (by decide)
  rw [lowerOne, if_neg hne]
  exact mapCase_of_not_isWordChar (tables_agree).lowerWords hc

theorem isWordChar_of_mem_lowerOne (hc : isWordChar c = true) (hd : d ∈ lowerOne before rest c) :
    isWordChar d = true := by
  unfold lowerOne at hd
  split at hd
  · rw [List.mem_singleton] at hd
    split at hd <;> exact hd ▸ (by decide)
  · exact isWordChar_of_mem_mapCase (tables_agree).lowerWords hc hd

/-- What `lower` writes is in small letters already. -/
theorem lowerAlone_of_mem_lowerOne (hd : d ∈ lowerOne before rest c) : lowerAlone d = [d] := by
  unfold lowerOne at hd
  split at hd
  · rw [List.mem_singleton] at hd
    split at hd
    · exact hd ▸ (tables_agree).finalSigma
    · exact hd ▸ (tables_agree).sigma
  · rcases mapCase_cases lowerExpansions lowerRules c with
      ⟨r, hr, m, hm, himage⟩ | ⟨e, he, _, himage⟩ | ⟨_, _, himage⟩
    · rw [lowerAlone, himage, List.mem_singleton] at hd
      exact hd ▸
        mapCase_ofNat_of_mapped? (tables_agree).lowerWords (tables_agree).lowerSettles hr hm
    · rw [lowerAlone, himage] at hd
      obtain ⟨n, hn, rfl⟩ := List.mem_map.1 hd
      exact (tables_agree).lowerImages e he n hn
    · rw [lowerAlone, himage, List.mem_singleton] at hd
      exact hd ▸ himage

theorem lowerAlone_of_mem_lowerAfter (hd : d ∈ lowerAfter before text) : lowerAlone d = [d] := by
  induction text generalizing before with
  | nil => simp [lowerAfter] at hd
  | cons c rest ih =>
      rw [lowerAfter_cons, List.mem_append] at hd
      rcases hd with hd | hd
      · exact lowerAlone_of_mem_lowerOne hd
      · exact ih hd

theorem lowerAfter_of_forall_lowerAlone (h : ∀ c ∈ text, lowerAlone c = [c]) :
    lowerAfter before text = text := by
  induction text generalizing before with
  | nil => rfl
  | cons c rest ih =>
      have hc : lowerAlone c = [c] := h c (by simp)
      have hne : c ≠ 'Σ' := by
        rintro rfl
        exact (tables_agree).capitalSigma hc
      rw [lowerAfter_cons, lowerOne, if_neg hne, hc, ih fun d hd => h d (by simp [hd])]
      rfl

/-- Writing in small letters twice is writing in small letters once: no capital sigma is left
whose form could depend on its neighbours. -/
theorem lower_lower (text : List Char) : lower (lower text) = lower text :=
  lowerAfter_of_forall_lowerAlone fun _ hc => lowerAlone_of_mem_lowerAfter hc

/-- Small forms hold no character outside of words that was not there before. -/
theorem mem_of_mem_lower (hd : d ∈ lower text) (hword : isWordChar d = false) : d ∈ text := by
  -- The letters before the text only decide about the final sigma.
  unfold lower at hd
  generalize [] = before at hd
  induction text generalizing before with
  | nil => simp [lowerAfter] at hd
  | cons c rest ih =>
      rw [lowerAfter_cons, List.mem_append] at hd
      rcases hd with hd | hd
      · cases hc : isWordChar c with
        | true => exact absurd (isWordChar_of_mem_lowerOne hc hd) (by simp [hword])
        | false =>
            rw [lowerOne_of_not_isWordChar hc, List.mem_singleton] at hd
            exact hd ▸ List.mem_cons_self
      · exact List.mem_cons_of_mem _ (ih _ hd)

/-- Small forms keep every character outside of words. -/
theorem mem_lower_of_mem (hd : d ∈ text) (hword : isWordChar d = false) : d ∈ lower text := by
  unfold lower
  generalize [] = before
  induction text generalizing before with
  | nil => simp at hd
  | cons c rest ih =>
      rw [lowerAfter_cons, List.mem_append]
      rcases List.mem_cons.mp hd with rfl | hd
      · rw [lowerOne_of_not_isWordChar hword]
        exact .inl (List.mem_singleton_self d)
      · exact .inr (ih hd _)

theorem lower_ne_nil (h : text ≠ []) : lower text ≠ [] := by
  cases text with
  | nil => exact absurd rfl h
  | cons c rest =>
      rw [lower, lowerAfter_cons]
      simp [lowerOne_ne_nil]

/-! ### Blanks at the ends -/

theorem trimBlanks_eq (text : List Char) :
    trimBlanks text = dropEndWhile isBlank (text.dropWhile isBlank) := rfl

theorem dropWhile_of_head? {p : Char → Bool} (h : ∀ c, text.head? = some c → p c = false) :
    text.dropWhile p = text := by
  cases text with
  | nil => rfl
  | cons c rest => rw [List.dropWhile_cons, h c List.head?_cons]; rfl

/-- Trimming finds a text without blanks at its ends between blanks. -/
theorem trimBlanks_append {front back : List Char} (hfront : ∀ c ∈ front, isBlank c = true)
    (hback : ∀ c ∈ back, isBlank c = true)
    (hhead : ∀ c, text.head? = some c → isBlank c = false)
    (hlast : ∀ c, text.getLast? = some c → isBlank c = false) :
    trimBlanks (front ++ text ++ back) = text := by
  rw [trimBlanks_eq, List.append_assoc, List.dropWhile_append_of_pos hfront]
  cases text with
  | nil =>
      have hnil : (back ++ []).dropWhile isBlank = [] := List.dropWhile_append_of_pos hback
      rw [List.append_nil] at hnil
      rw [List.nil_append, hnil]
      rfl
  | cons c rest =>
      rw [dropWhile_of_head? (by simpa using hhead), dropEndWhile, List.reverse_append,
        List.dropWhile_append_of_pos fun c hc => hback c (List.mem_reverse.1 hc),
        dropWhile_of_head?, List.reverse_reverse]
      intro d hd
      rw [List.head?_reverse] at hd
      exact hlast d hd

theorem not_inRanges_of_isBlank (hc : isBlank c = true) :
    inRanges caseIgnorableRanges c = false ∧ inRanges casedRanges c = false := by
  obtain ⟨b, hb, hin⟩ := inRanges_iff.1 hc
  constructor <;> rw [Bool.eq_false_iff] <;> intro h <;> obtain ⟨r, hr, hr'⟩ := inRanges_iff.1 h
  · have := (tables_agree).ignorable b hb r hr
    omega
  · have := (tables_agree).cased b hb r hr
    omega

theorem lowerOne_of_isBlank (hc : isBlank c = true) : lowerOne before rest c = [c] := by
  apply lowerOne_of_not_isWordChar
  rw [Bool.eq_false_iff]
  intro hword
  rw [not_isBlank_of_isWordChar hword] at hc
  exact Bool.noConfusion hc

/-- Blanks end a word: what lies behind them does not matter. -/
theorem meetsCased_append (hblanks : ∀ c ∈ blanks, isBlank c = true) (text : List Char) :
    meetsCased (text ++ blanks) = meetsCased text := by
  induction text with
  | nil =>
      cases blanks with
      | nil => rfl
      | cons c rest =>
          have hc := not_inRanges_of_isBlank (hblanks c List.mem_cons_self)
          simp [meetsCased, hc.1, hc.2]
  | cons c rest ih =>
      unfold meetsCased at ih ⊢
      by_cases hc : inRanges caseIgnorableRanges c = true
      · rw [List.cons_append, List.dropWhile_cons_of_pos hc, List.dropWhile_cons_of_pos hc, ih]
      · rw [List.cons_append, List.dropWhile_cons_of_neg hc, List.dropWhile_cons_of_neg hc]

theorem lowerAfter_append_blanks (hblanks : ∀ c ∈ blanks, isBlank c = true)
    (before text : List Char) :
    lowerAfter before (text ++ blanks) = lowerAfter before text ++ blanks := by
  induction text generalizing before with
  | nil =>
      induction blanks generalizing before with
      | nil => rfl
      | cons c rest ih =>
          have hrest := ih (fun d hd => hblanks d (List.mem_cons_of_mem _ hd)) (c :: before)
          rw [List.nil_append] at hrest
          rw [List.nil_append, lowerAfter_cons,
            lowerOne_of_isBlank (hblanks c List.mem_cons_self), hrest]
          rfl
  | cons c rest ih =>
      rw [List.cons_append, lowerAfter_cons, lowerAfter_cons, ih, List.append_assoc]
      unfold lowerOne
      rw [meetsCased_append hblanks]

theorem lowerAfter_blanks (hblanks : ∀ c ∈ blanks, isBlank c = true) (before text : List Char) :
    lowerAfter (before ++ blanks) text = lowerAfter before text := by
  induction text generalizing before with
  | nil => rfl
  | cons c rest ih =>
      have hrest := ih (c :: before)
      rw [List.cons_append] at hrest
      rw [lowerAfter_cons, lowerAfter_cons, hrest]
      unfold lowerOne
      rw [meetsCased_append hblanks]

theorem lowerAfter_blanks_append (hblanks : ∀ c ∈ blanks, isBlank c = true)
    (before text : List Char) :
    lowerAfter before (blanks ++ text) =
      blanks ++ lowerAfter (blanks.reverse ++ before) text := by
  induction blanks generalizing before with
  | nil => rfl
  | cons c rest ih =>
      rw [List.cons_append, lowerAfter_cons, lowerOne_of_isBlank (hblanks c List.mem_cons_self),
        ih fun d hd => hblanks d (List.mem_cons_of_mem _ hd)]
      simp

theorem lower_append_blanks {front back : List Char} (hfront : ∀ c ∈ front, isBlank c = true)
    (hback : ∀ c ∈ back, isBlank c = true) (text : List Char) :
    lower (front ++ text ++ back) = front ++ lower text ++ back := by
  have hreverse : ∀ c ∈ front.reverse, isBlank c = true :=
    fun c hc => hfront c (List.mem_reverse.1 hc)
  have hstart := lowerAfter_blanks hreverse [] text
  rw [List.nil_append] at hstart
  rw [lower, lowerAfter_append_blanks hback, lowerAfter_blanks_append hfront, List.append_nil,
    hstart, lower]

/-- What is written for the last character stands at the end. -/
theorem exists_lowerAfter_concat (before text : List Char) (c : Char) :
    ∃ front context,
      lowerAfter before (text ++ [c]) = front ++ lowerOne context [] c := by
  induction text generalizing before with
  | nil => exact ⟨[], before, by rw [List.nil_append, lowerAfter_cons]; simp [lowerAfter]⟩
  | cons d rest ih =>
      obtain ⟨front, context, h⟩ := ih (d :: before)
      refine ⟨lowerOne before (rest ++ [c]) d ++ front, context, ?_⟩
      rw [List.cons_append, lowerAfter_cons, h, List.append_assoc]

theorem isBlank_of_mem_lowerOne (hc : isBlank c = false) (hd : d ∈ lowerOne before rest c) :
    isBlank d = false := by
  cases hword : isWordChar c with
  | true => exact not_isBlank_of_isWordChar (isWordChar_of_mem_lowerOne hword hd)
  | false =>
      rw [lowerOne_of_not_isWordChar hword, List.mem_singleton] at hd
      exact hd ▸ hc

theorem not_isBlank_head?_dropWhile (h : (text.dropWhile isBlank).head? = some c) :
    isBlank c = false := by
  simpa [h] using List.head?_dropWhile_not isBlank text

/-- The parts into which trimming divides a text. -/
theorem exists_trimBlanks (text : List Char) :
    ∃ front back, text = front ++ trimBlanks text ++ back ∧ (∀ c ∈ front, isBlank c = true) ∧
      (∀ c ∈ back, isBlank c = true) ∧
      (∀ c, (trimBlanks text).head? = some c → isBlank c = false) ∧
      ∀ c, (trimBlanks text).getLast? = some c → isBlank c = false := by
  obtain ⟨back, hback, hblank⟩ :=
    exists_eq_dropEndWhile_append isBlank (text.dropWhile isBlank)
  refine ⟨text.takeWhile isBlank, back, ?_, ?_, hblank, ?_, ?_⟩
  · rw [List.append_assoc, trimBlanks_eq, ← hback, List.takeWhile_append_dropWhile]
  · exact fun c hc => List.all_eq_true.1 List.all_takeWhile c hc
  · intro c hc
    apply not_isBlank_head?_dropWhile
    rw [hback, List.head?_append, ← trimBlanks_eq, hc]
    rfl
  · intro c hc
    rw [trimBlanks_eq, dropEndWhile, List.getLast?_reverse] at hc
    exact not_isBlank_head?_dropWhile hc

/-- Small forms have blanks at their ends where the text has them. -/
theorem trimBlanks_lower (text : List Char) :
    trimBlanks (lower text) = lower (trimBlanks text) := by
  obtain ⟨front, back, htext, hfront, hback, hhead, hlast⟩ := exists_trimBlanks text
  generalize trimBlanks text = core at htext hhead hlast
  rw [htext, lower_append_blanks hfront hback]
  apply trimBlanks_append hfront hback
  · intro d hd
    cases core with
    | nil => simp [lower, lowerAfter] at hd
    | cons c rest =>
        have hc : isBlank c = false := hhead c List.head?_cons
        rw [lower, lowerAfter_cons, List.head?_append] at hd
        cases hone : (lowerOne [] rest c).head? with
        | none => exact absurd (List.head?_eq_none_iff.1 hone) (lowerOne_ne_nil _ _ _)
        | some e =>
            rw [hone, Option.some_or] at hd
            obtain rfl := Option.some.inj hd
            exact isBlank_of_mem_lowerOne hc (List.mem_of_head? hone)
  · intro d hd
    rcases List.eq_nil_or_concat core with rfl | ⟨start, c, rfl⟩
    · simp [lower, lowerAfter] at hd
    · rw [List.concat_eq_append] at hlast hd
      have hc : isBlank c = false := hlast c List.getLast?_concat
      obtain ⟨image, context, himage⟩ := exists_lowerAfter_concat [] start c
      rw [lower, himage, List.getLast?_append] at hd
      cases hone : (lowerOne context [] c).getLast? with
      | none => exact absurd (List.getLast?_eq_none_iff.1 hone) (lowerOne_ne_nil _ _ _)
      | some e =>
          rw [hone, Option.some_or] at hd
          obtain rfl := Option.some.inj hd
          exact isBlank_of_mem_lowerOne hc (List.mem_of_getLast? hone)

/-! ### Latin letters -/

theorem lowerAlone_of_isAlpha (hc : c.isAlpha = true) : lowerAlone c = [c.toLower] := by
  have hletters : ∀ n < 128, (Char.ofNat n).isAlpha = true →
      lowerAlone (Char.ofNat n) = [(Char.ofNat n).toLower] := by decide +kernel
  have hlt : c.toNat < 128 := by
    rcases Bool.or_eq_true_iff.mp hc with hupper | hlower
    · have hle : c.val ≤ 'Z'.val := (of_decide_eq_true hupper).2
      exact Nat.lt_of_le_of_lt (UInt32.le_iff_toNat_le.mp hle) (by decide)
    · have hle : c.val ≤ 'z'.val := of_decide_eq_true (Bool.and_eq_true_iff.mp hlower).2
      exact Nat.lt_of_le_of_lt (UInt32.le_iff_toNat_le.mp hle) (by decide)
  have h := hletters c.toNat hlt
  rw [Char.ofNat_toNat] at h
  exact h hc

theorem lower_of_isAlpha (h : ∀ c ∈ text, c.isAlpha = true) :
    lower text = text.map Char.toLower := by
  unfold lower
  generalize [] = before
  induction text generalizing before with
  | nil => rfl
  | cons c rest ih =>
      obtain ⟨hc, hrest⟩ := List.forall_mem_cons.mp h
      have hne : c ≠ 'Σ' := by
        rintro rfl
        exact absurd hc (by decide)
      rw [lowerAfter_cons, lowerOne, if_neg hne, lowerAlone_of_isAlpha hc, ih hrest]
      rfl

end WikiEntry.Text
