import Mathlib.Data.List.Induction
import Mathlib.Data.List.Nodup
import Std.Data.TreeMap.Lemmas
import Std.Data.TreeSet.Lemmas

/-!
# Tables filled entry by entry

Tables are made by entering one thing after another. Of several entries under one key the last is
found, and what was in the table before is found where nothing was entered.
-/

namespace WikiEntry

open Std

section Lookup

variable {α β : Type} [BEq α] [LawfulBEq α] {key : α}

theorem mem_of_lookup_reverse {entries : List (α × β)} {value : β}
    (h : entries.reverse.lookup key = some value) : (key, value) ∈ entries := by
  obtain ⟨before, after, hsplit, -⟩ := List.lookup_eq_some_iff.mp h
  rw [← List.mem_reverse, hsplit]
  simp

theorem exists_lookup_reverse {entries : List (α × β)} {value : β}
    (h : (key, value) ∈ entries) : ∃ found, entries.reverse.lookup key = some found :=
  Option.isSome_iff_exists.mp
    (List.lookup_isSome_iff.mpr ⟨_, List.mem_reverse.mpr h, BEq.rfl⟩)

theorem lookup_eq_some_iff_mem {entries : List (α × β)} (h : (entries.map (·.1)).Nodup)
    {value : β} : entries.lookup key = some value ↔ (key, value) ∈ entries := by
  induction entries with
  | nil => simp
  | cons entry entries ih =>
      obtain ⟨first, other⟩ := entry
      obtain ⟨hfirst, hrest⟩ := List.nodup_cons.mp h
      by_cases heq : key = first
      · subst heq
        have hnot : (key, value) ∉ entries := fun hmem =>
          hfirst (List.mem_map.mpr ⟨(key, value), hmem, rfl⟩)
        simp [hnot, eq_comm]
      · have hne : (key == first) = false := by simpa using heq
        simp [List.lookup_cons, hne, heq, ih hrest]

theorem lookup_reverse {entries : List (α × β)} (h : (entries.map (·.1)).Nodup) :
    entries.reverse.lookup key = entries.lookup key := by
  have hreverse : (entries.reverse.map (·.1)).Nodup := by
    rw [List.map_reverse]
    exact List.nodup_reverse.mpr h
  refine Option.ext fun value => ?_
  rw [lookup_eq_some_iff_mem h, lookup_eq_some_iff_mem hreverse, List.mem_reverse]

/-- If no value comes after those of later entries, the last of those under a key is found from the
end. -/
theorem lookup_reverse_eq_some_iff {rel : β → β → Prop} [Std.Asymm rel]
    {entries : List (α × β)} (h : entries.Pairwise fun a b => rel a.2 b.2 ∨ a.2 = b.2) {value : β} :
    entries.reverse.lookup key = some value ↔
      (key, value) ∈ entries ∧
        ∀ other, (key, other) ∈ entries → rel other value ∨ other = value := by
  -- The search begins at the end of the entries, and so does the induction.
  induction entries using List.reverseRecOn with
  | nil => simp
  | append_singleton entries entry ih =>
      obtain ⟨last, greatest⟩ := entry
      obtain ⟨hentries, -, hlast⟩ := List.pairwise_append.mp h
      have hless : ∀ other, (key, other) ∈ entries → rel other greatest ∨ other = greatest :=
        fun other hmem => hlast _ hmem _ List.mem_cons_self
      rw [List.reverse_concat, List.lookup_cons]
      by_cases heq : key = last
      · subst heq
        simp only [BEq.rfl, Option.some.injEq, List.mem_append, List.mem_singleton,
          Prod.mk.injEq, true_and]
        constructor
        · rintro rfl
          exact ⟨.inr rfl, fun other hother => hother.elim (hless other) .inr⟩
        · rintro ⟨hmem | rfl, hgreatest⟩
          · rcases hgreatest greatest (.inr rfl) with hafter | heq
            · rcases hless value hmem with hbefore | heq
              · exact absurd hbefore (Std.Asymm.asymm _ _ hafter)
              · exact heq.symm
            · exact heq
          · rfl
      · have hne : (key == last) = false := by simpa using heq
        simp [hne, heq, ih hentries]

end Lookup

section Tables

variable {α β : Type} [Ord α] [TransOrd α] [LawfulEqOrd α]

theorem mem_foldl_insert (names : List α) (found : TreeSet α) (a : α) :
    a ∈ names.foldl TreeSet.insert found ↔ a ∈ names ∨ a ∈ found := by
  induction names generalizing found with
  | nil => simp
  | cons name names ih =>
      rw [List.foldl_cons, ih, TreeSet.mem_insert, List.mem_cons, Std.compare_eq_iff_eq,
        eq_comm, ← or_assoc, or_comm (a := a ∈ names)]

variable [BEq α] [LawfulBEq α]

theorem getElem?_foldl_enter (entries : List (α × β)) (found : TreeMap α β) (a : α) :
    (entries.foldl (fun found entry => found.insert entry.1 entry.2) found)[a]? =
      (entries.reverse.lookup a).or found[a]? := by
  induction entries generalizing found with
  | nil => simp
  | cons entry entries ih =>
      rw [List.foldl_cons, ih, TreeMap.getElem?_insert, List.reverse_cons, List.lookup_append,
        Option.or_assoc]
      obtain ⟨key, value⟩ := entry
      by_cases h : key = a
      · subst h
        simp
      · have hne : (a == key) = false := by simpa using Ne.symm h
        simp [h, List.lookup_cons, hne]

theorem lookup_reverse_toList (entries : TreeMap α β) (a : α) :
    entries.toList.reverse.lookup a = entries[a]? := by
  cases hlook : entries.toList.reverse.lookup a with
  | none =>
      rw [eq_comm, Option.eq_none_iff_forall_ne_some]
      intro value hvalue
      have hmem := TreeMap.mem_toList_iff_getElem?_eq_some.mpr hvalue
      have hne := List.lookup_eq_none_iff.mp hlook (a, value) (List.mem_reverse.mpr hmem)
      simp at hne
  | some value =>
      rw [TreeMap.mem_toList_iff_getElem?_eq_some.mp (mem_of_lookup_reverse hlook)]

/-- Entering a whole table into another overrides what is there. -/
theorem getElem?_foldl_enter_toList (entries found : TreeMap α β) (a : α) :
    (entries.toList.foldl (fun found entry => found.insert entry.1 entry.2) found)[a]? =
      entries[a]?.or found[a]? := by
  rw [getElem?_foldl_enter, lookup_reverse_toList]

end Tables

end WikiEntry
