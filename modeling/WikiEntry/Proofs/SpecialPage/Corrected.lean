import WikiEntry.Proofs.Title.Fragment
import WikiEntry.SpecialPage.Table

/-!
# Titles with their aliases put right

An alias of a special page is replaced by the name of the page. The fragment stays, whether it is
set before or after, and a title of this wiki stays one.
-/

namespace WikiEntry.SpecialPage

/-- The title with the alias of a special page put right. -/
def Table.corrected (specials : Table) (title : Title) : Title :=
  if title.isSpecial then
    match specials.resolve? title.key with
    | none => title
    | some (name, sub) =>
      if title.hasFragment then (SpecialPage.title name sub).withFragment title.fragment
      else SpecialPage.title name sub
  else title

variable {specials : Table} {t target : Title} {name : String} {sub : Option String}

theorem title_fragment (name : String) (sub : Option String) :
    (title name sub).fragment = "" := by
  cases sub <;> rfl

theorem title_ns (name : String) (sub : Option String) :
    (title name sub).ns = Namespace.special := by
  cases sub <;> rfl

theorem title_isExternal (name : String) (sub : Option String) :
    (title name sub).isExternal = false := by
  cases sub <;> simp [title, Title.isExternal_make]

theorem Table.corrected_of_not_isSpecial (h : t.isSpecial = false) :
    specials.corrected t = t := by
  rw [corrected, h, if_neg Bool.false_ne_true]

theorem Table.corrected_of_resolve? (hspecial : t.isSpecial = true)
    (h : specials.resolve? t.key = some (name, sub)) :
    specials.corrected t = (title name sub).pointingAs t := by
  rw [corrected, if_pos hspecial, h, Title.pointingAs]

theorem Table.corrected_of_unresolved (h : specials.resolve? t.key = none) :
    specials.corrected t = t := by
  rw [corrected, h]
  exact ite_self t

/-- A title is left alone, or a page is found for it and takes its place. -/
theorem Table.corrected_cases (specials : Table) (t : Title) :
    specials.corrected t = t ∨ t.isSpecial = true ∧ ∃ name sub,
      specials.resolve? t.key = some (name, sub) ∧
        specials.corrected t = (title name sub).pointingAs t := by
  cases hspecial : t.isSpecial with
  | false => exact .inl (corrected_of_not_isSpecial hspecial)
  | true =>
      cases hfound : specials.resolve? t.key with
      | none => exact .inl (corrected_of_unresolved hfound)
      | some found => exact .inr ⟨rfl, found.1, found.2, rfl, corrected_of_resolve? hspecial hfound⟩

/-- Correcting the name of a special page and setting the fragment can be done in either order. -/
theorem Table.corrected_pointingAs :
    specials.corrected (t.pointingAs target) = (specials.corrected t).pointingAs target := by
  cases hfragment : target.hasFragment with
  | false =>
      rw [Title.pointingAs_of_not_hasFragment hfragment,
        Title.pointingAs_of_not_hasFragment hfragment]
  | true =>
      have hpoints : (t.pointingAs target).hasFragment = true := by
        rw [Title.pointingAs_of_hasFragment hfragment]
        simpa [Title.hasFragment] using hfragment
      have hset : (t.pointingAs target).fragment = target.fragment := by
        rw [Title.pointingAs_of_hasFragment hfragment, Title.withFragment_fragment]
      cases hspecial : t.isSpecial with
      | false =>
          rw [corrected_of_not_isSpecial hspecial,
            corrected_of_not_isSpecial ((Title.isSpecial_pointingAs t target).trans hspecial)]
      | true =>
          rw [corrected, corrected, Title.isSpecial_pointingAs, Title.key_pointingAs, hspecial,
            if_pos rfl, if_pos rfl]
          cases specials.resolve? t.key with
          | none => rfl
          | some found =>
              obtain ⟨name, sub⟩ := found
              dsimp only
              rw [hpoints, if_pos rfl, hset, Title.pointingAs_of_hasFragment hfragment]
              split
              · rw [Title.withFragment_withFragment]
              · rfl

theorem Table.fragment_corrected (specials : Table) (t : Title) :
    (specials.corrected t).fragment = t.fragment := by
  rcases corrected_cases specials t with hsame | ⟨-, name, sub, -, hfound⟩
  · rw [hsame]
  · rw [hfound, Title.pointingAs]
    split
    · exact Title.withFragment_fragment _ _
    · rename_i hnone
      have hempty : t.fragment = "" := by simpa [Title.hasFragment] using hnone
      rw [title_fragment, hempty]

theorem Table.ns_corrected (specials : Table) (t : Title) : (specials.corrected t).ns = t.ns := by
  rcases corrected_cases specials t with hsame | ⟨hspecial, name, sub, -, hfound⟩
  · rw [hsame]
  · rw [hfound, Title.ns_pointingAs, title_ns]
    exact (eq_of_beq hspecial).symm

theorem Table.isExternal_corrected (hlocal : t.isExternal = false) :
    (specials.corrected t).isExternal = false := by
  rcases corrected_cases specials t with hsame | ⟨-, name, sub, -, hfound⟩
  · rw [hsame, hlocal]
  · rw [hfound, Title.isExternal_pointingAs, title_isExternal]

/-- A corrected title has a key, or lies in the namespace of special pages. -/
theorem Table.key_corrected (hkey : t.key.isEmpty = false) :
    (specials.corrected t).key.isEmpty = false ∨
      (specials.corrected t).ns = Namespace.special := by
  rcases corrected_cases specials t with hsame | ⟨hspecial, -⟩
  · exact .inl (by rw [hsame, hkey])
  · exact .inr ((ns_corrected specials t).trans (eq_of_beq hspecial))

end WikiEntry.SpecialPage
