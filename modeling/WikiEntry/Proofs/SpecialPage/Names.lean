import WikiEntry.Proofs.SpecialPage.Table
import WikiEntry.Proofs.Text.LetterCase

/-!
# Names that are told apart

The special pages that come with a wiki are written in Latin letters, and no two of them are
spellings of each other. Pages with such names stand for themselves, whatever aliases there are.
-/

namespace WikiEntry.SpecialPage

open Std Text

variable {names : TreeSet String} {configured : TreeMap String (List String)} {name : String}

/-- Spaces and underscores are the same to a table. -/
theorem fold_exchange (name : String) :
    fold (String.ofList (exchange ' ' '_' name.toList)) = fold name := by
  rw [fold, String.toList_ofList, exchange_of_not_mem (not_mem_exchange (by decide) _), fold]

/-- Whether every page can be named by its own name and no other: no name has a slash in it, and
no two are spellings of each other. -/
structure Plain (names : TreeSet String) : Prop where
  slashless {name : String} : name ∈ names → '/' ∉ name.toList
  distinct {name other : String} : name ∈ names → other ∈ names → fold name = fold other →
    name = other

theorem Plain.last (h : Plain names) (hname : name ∈ names) :
    Table.Last names (fold name) name where
  listed := hname
  folds := rfl
  greatest _ hother hsame := h.distinct hother hname hsame ▸ String.le_refl _

theorem Plain.aliases_eq (h : Plain names) (hname : name ∈ names) :
    (Table.ofNames names configured).aliases[fold name]? = some name :=
  (Table.aliases_eq_some_iff hname).mpr (h.last hname)

/-! ### The pages that come with a wiki -/

theorem fold_of_isAlpha (h : ∀ c ∈ name.toList, c.isAlpha = true) :
    fold name = String.ofList (name.toList.map Char.toLower) := by
  have hspace : ' ' ∉ name.toList := fun hmem => absurd (h ' ' hmem) (by decide)
  rw [fold, exchange_of_not_mem hspace, lower_of_isAlpha h]

theorem Settings.mem_of_mem_names {settings : Settings} (h : name ∈ settings.names) :
    name ∈ search :: core := by
  rcases (settings.mem_names_iff name).mp h with hcore | ⟨-, rfl⟩
  · exact List.mem_cons_of_mem _ hcore
  · exact List.mem_cons_self

theorem Settings.isAlpha_of_mem_names {settings : Settings} (h : name ∈ settings.names) :
    ∀ c ∈ name.toList, c.isAlpha = true := by
  have hletters : ((search :: core).all fun name => name.toList.all Char.isAlpha) = true := by
    decide +kernel
  exact List.all_eq_true.mp (List.all_eq_true.mp hletters name (mem_of_mem_names h))

/-- None of them has an underscore in its name. -/
theorem Settings.underscore_not_mem_fold {settings : Settings} (h : name ∈ settings.names) :
    '_' ∉ (fold name).toList := by
  intro hmem
  rw [fold, String.toList_ofList] at hmem
  have hletters := isAlpha_of_mem_names h
  have hspace : ' ' ∉ name.toList := fun hspace => absurd (hletters _ hspace) (by decide)
  have hname := mem_of_mem_lower hmem (by decide)
  rw [exchange_of_not_mem hspace] at hname
  exact absurd (hletters _ hname) (by decide)

/-- Small letters tell the names apart. -/
theorem nodup_lowered :
    ((search :: core).map fun name => name.toList.map Char.toLower).Nodup := by
  decide +kernel

theorem Settings.plain_names (settings : Settings) : Plain settings.names where
  slashless hname hslash := absurd (isAlpha_of_mem_names hname '/' hslash) (by decide)
  distinct {name other} hname hother hsame := by
    rw [fold_of_isAlpha (isAlpha_of_mem_names hname), fold_of_isAlpha (isAlpha_of_mem_names hother),
      String.ofList_inj] at hsame
    exact List.inj_on_of_nodup_map nodup_lowered (mem_of_mem_names hname)
      (mem_of_mem_names hother) hsame

end WikiEntry.SpecialPage
