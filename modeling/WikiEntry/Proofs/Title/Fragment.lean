import WikiEntry.Proofs.Text.Cutting
import WikiEntry.Title.Basic

/-!
# Titles and their sections

Changing the fragment of a title changes nothing else: the key goes through the text and back
unharmed, since it holds no space.
-/

namespace WikiEntry.Title

open Text

variable {t : Title}

theorem make_self (t : Title) : make t.ns t.key t.fragment t.interwiki = t := by
  have hkey : exchange ' ' '_' t.key.toList = t.key.toList := exchange_of_not_mem t.key_spaceless
  cases t
  simp only [make, mk.injEq, true_and, and_true] at hkey ⊢
  rw [hkey, String.ofList_toList]

theorem isExternal_make (ns : Int) (text fragment interwiki : String) :
    (make ns text fragment interwiki).isExternal = !interwiki.isEmpty := by
  rw [isExternal, make_interwiki]

@[simp] theorem withFragment_ns (t : Title) (fragment : String) :
    (t.withFragment fragment).ns = t.ns :=
  make_ns _ _ _ _

@[simp] theorem withFragment_fragment (t : Title) (fragment : String) :
    (t.withFragment fragment).fragment = fragment :=
  make_fragment _ _ _ _

@[simp] theorem withFragment_interwiki (t : Title) (fragment : String) :
    (t.withFragment fragment).interwiki = t.interwiki :=
  make_interwiki _ _ _ _

@[simp] theorem withFragment_key (t : Title) (fragment : String) :
    (t.withFragment fragment).key = t.key := by
  rw [withFragment, make_key, text, String.toList_ofList, exchange_exchange t.key_spaceless,
    String.ofList_toList]

theorem ext_parts {t' : Title} (hns : t.ns = t'.ns) (hkey : t.key = t'.key)
    (hfragment : t.fragment = t'.fragment) (hwiki : t.interwiki = t'.interwiki) : t = t' := by
  cases t
  cases t'
  simp_all

theorem withFragment_withFragment (t : Title) (first second : String) :
    (t.withFragment first).withFragment second = t.withFragment second := by
  apply ext_parts <;> simp

theorem withFragment_self (t : Title) : t.withFragment t.fragment = t := by
  apply ext_parts <;> simp

/-- The title with the fragment of `target`, if that has one. -/
def pointingAs (title target : Title) : Title :=
  if target.hasFragment then title.withFragment target.fragment else title

theorem pointingAs_of_not_hasFragment {target : Title} (h : target.hasFragment = false) :
    t.pointingAs target = t := by
  rw [pointingAs, h, if_neg Bool.false_ne_true]

theorem pointingAs_of_hasFragment {target : Title} (h : target.hasFragment = true) :
    t.pointingAs target = t.withFragment target.fragment := by
  rw [pointingAs, h, if_pos rfl]

theorem ns_pointingAs (t target : Title) : (t.pointingAs target).ns = t.ns := by
  unfold pointingAs
  split
  · exact withFragment_ns t _
  · rfl

theorem interwiki_pointingAs (t target : Title) :
    (t.pointingAs target).interwiki = t.interwiki := by
  unfold pointingAs
  split
  · exact withFragment_interwiki t _
  · rfl

theorem isExternal_pointingAs (t target : Title) :
    (t.pointingAs target).isExternal = t.isExternal := by
  rw [isExternal, isExternal, interwiki_pointingAs]

theorem isSpecial_pointingAs (t target : Title) :
    (t.pointingAs target).isSpecial = t.isSpecial := by
  rw [isSpecial, isSpecial, ns_pointingAs]

theorem key_pointingAs (t target : Title) : (t.pointingAs target).key = t.key := by
  unfold pointingAs
  split
  · exact withFragment_key t _
  · rfl

end WikiEntry.Title
