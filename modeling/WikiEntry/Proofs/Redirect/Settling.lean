import WikiEntry.Proofs.SpecialPage.Corrected
import WikiEntry.Proofs.SpecialPage.Aliases
import WikiEntry.Proofs.Wiki.Settled

/-!
# Corrected titles stay as they are

When the alias of a special page has been replaced by the name of the page, there is nothing left
to replace, as long as the names of the pages are told apart. The subpage goes through unharmed:
it is cut off at the slash that it was joined with, since the name has none. The guard against
endless redirects relies on this.
-/

namespace WikiEntry

open Std Text

variable {names : TreeSet String} {configured : TreeMap String (List String)} {t : Title}
  {name sub : String}

namespace SpecialPage

/-! ### Keys of special pages -/

theorem cut?_toList_title_key (hslash : '/' ∉ name.toList) (sub : String) :
    cut? (· = '/') (title name (some sub)).key.toList =
      some (exchange ' ' '_' name.toList, exchange ' ' '_' sub.toList) := by
  have hname : '/' ∉ exchange ' ' '_' name.toList := fun h =>
    hslash (mem_of_mem_exchange h (by decide))
  have hkey : (title name (some sub)).key.toList =
      exchange ' ' '_' name.toList ++ '/' :: exchange ' ' '_' sub.toList := by
    simp [title, exchange]
  rw [hkey]
  exact cut?_append_of_not_mem hname _

theorem resolve?_of_cut? {table : Table} {key : String} {called rest : List Char}
    (hcut : cut? (· = '/') key.toList = some (called, rest)) :
    table.resolve? key = (table.aliases[fold (String.ofList called)]?).map fun found =>
      (found, if rest = [] then none else some (String.ofList rest)) := by
  rw [Table.resolve?, hcut]
  cases rest <;> rfl

/-- A listed page is found by the key of its title, with the subpage that is in it. -/
theorem Plain.resolve?_title (h : Plain names) (hname : name ∈ names) {sub : Option String}
    (hsub : ∀ text, sub = some text → text ≠ "" ∧ ' ' ∉ text.toList) :
    (Table.ofNames names configured).resolve? (title name sub).key = some (name, sub) := by
  have hslash := h.slashless hname
  cases sub with
  | none =>
      have hkey : '/' ∉ (title name none).key.toList := by
        rw [title, Title.make_key, String.toList_ofList]
        exact fun hmem => hslash (mem_of_mem_exchange hmem (by decide))
      rw [Table.resolve?_of_slashless _ hkey, title, Title.make_key, fold_exchange,
        h.aliases_eq hname, Option.map_some]
  | some text =>
      obtain ⟨hne, hspace⟩ := hsub text rfl
      have hrest : exchange ' ' '_' text.toList = text.toList := exchange_of_not_mem hspace
      rw [resolve?_of_cut? (cut?_toList_title_key hslash text), fold_exchange, h.aliases_eq hname,
        Option.map_some, hrest, if_neg (by simpa using hne), String.ofList_toList]

/-- A subpage that is found is what follows the first slash of the key. -/
theorem exists_cut?_of_resolve? {table : Table} {key : String}
    (h : table.resolve? key = some (name, some sub)) :
    sub ≠ "" ∧ ∃ called, cut? (· = '/') key.toList = some (called, sub.toList) := by
  cases hcut : cut? (· = '/') key.toList with
  | none =>
      rw [cut?_eq_none_iff] at hcut
      rw [Table.resolve?_of_slashless table fun hmem => by simpa using hcut '/' hmem,
        Option.map_eq_some_iff] at h
      obtain ⟨found, -, hpair⟩ := h
      cases hpair
  | some parts =>
      obtain ⟨called, rest⟩ := parts
      rw [resolve?_of_cut? hcut, Option.map_eq_some_iff] at h
      obtain ⟨found, -, hpair⟩ := h
      obtain ⟨-, hsub⟩ := Prod.mk.inj hpair
      obtain ⟨hne, rfl⟩ : rest ≠ [] ∧ String.ofList rest = sub := by simpa using hsub
      exact ⟨by simpa using hne, called, by rw [String.toList_ofList]⟩

/-- If something follows the first slash of a key, it is the subpage. -/
theorem eq_some_of_resolve? {table : Table} {key : String} {found : Option String}
    {called rest : List Char} (h : table.resolve? key = some (name, found))
    (hcut : cut? (· = '/') key.toList = some (called, rest)) (hne : rest ≠ []) :
    found = some (String.ofList rest) := by
  rw [resolve?_of_cut? hcut, if_neg hne, Option.map_eq_some_iff] at h
  obtain ⟨page, -, hpair⟩ := h
  exact (Prod.mk.inj hpair).2.symm

namespace Table

variable {specials : Table}

theorem mem_of_resolve? {key : String} {sub : Option String}
    (h : (ofNames names configured).resolve? key = some (name, sub)) : name ∈ names :=
  (ofNames_coherent names configured).contains_of_resolve? h

/-- The title of a listed page is as it should be. -/
theorem corrected_title (h : Plain names) (hname : name ∈ names) {sub : Option String}
    (hsub : ∀ text, sub = some text → text ≠ "" ∧ ' ' ∉ text.toList) :
    (ofNames names configured).corrected (title name sub) = title name sub := by
  have hspecial : (title name sub).isSpecial = true := by cases sub <;> rfl
  have hplain : (title name sub).hasFragment = false := by
    simp [Title.hasFragment, title_fragment]
  rw [corrected_of_resolve? hspecial (h.resolve?_title hname hsub),
    Title.pointingAs_of_not_hasFragment hplain]

theorem spaceless_of_resolve? {sub : Option String}
    (h : specials.resolve? t.key = some (name, sub)) :
    ∀ text, sub = some text → text ≠ "" ∧ ' ' ∉ text.toList := by
  rintro text rfl
  obtain ⟨hne, called, hcut⟩ := exists_cut?_of_resolve? h
  obtain ⟨c, -, hkey, -⟩ := cut?_eq_some hcut
  refine ⟨hne, fun hspace => t.key_spaceless ?_⟩
  rw [hkey]
  exact List.mem_append_right _ (List.mem_cons_of_mem _ hspace)

/-- Correcting a corrected title changes nothing. -/
theorem corrected_corrected (h : Plain names) (t : Title) :
    (ofNames names configured).corrected ((ofNames names configured).corrected t) =
      (ofNames names configured).corrected t := by
  rcases corrected_cases (ofNames names configured) t with hsame | ⟨-, name, sub, hfound, htitle⟩
  · rw [hsame, hsame]
  · have hname := mem_of_resolve? hfound
    rw [htitle, corrected_pointingAs, corrected_title h hname (spaceless_of_resolve? hfound)]

/-- What follows the first slash of the key follows it in the corrected title. -/
theorem cut?_corrected (h : Plain names) {called rest : List Char}
    (hcut : cut? (· = '/') t.key.toList = some (called, rest)) (hne : rest ≠ []) :
    ∃ page, cut? (· = '/') ((ofNames names configured).corrected t).key.toList =
      some (page, rest) := by
  rcases corrected_cases (ofNames names configured) t with hsame | ⟨-, name, sub, hfound, htitle⟩
  · exact ⟨called, by rw [hsame, hcut]⟩
  · have hname := mem_of_resolve? hfound
    have hspaceless := spaceless_of_resolve? hfound
    obtain rfl := eq_some_of_resolve? hfound hcut hne
    refine ⟨exchange ' ' '_' name.toList, ?_⟩
    rw [htitle, Title.key_pointingAs, cut?_toList_title_key (h.slashless hname),
      exchange_of_not_mem (hspaceless _ rfl).2, String.toList_ofList]

end Table

end SpecialPage

open SpecialPage (Plain Settings Table)

namespace Redirect

/-! ### Services that may change their state -/

variable {S : Type} {c : Canonical (StateM S)} {s : S} {specials : Table}

/-- Whether services tell of these special pages, and do so again. -/
structure Tells (services : Services (StateM S)) (s : S) (specials : Table) : Prop where
  first : (services.specialPages s).1 = specials
  again : (services.specialPages (services.specialPages s).2).1 = specials

/-- What a title is put right to is put right already, and has the fragment, the namespace and the
subpage of the title. -/
structure Settles (c : Canonical (StateM S)) (s : S) (t : Title) : Prop where
  settled : (c.resolveSpecial (c.resolveSpecial t s).1 (c.resolveSpecial t s).2).1 =
    (c.resolveSpecial t s).1
  fragment : (c.resolveSpecial t s).1.fragment = t.fragment
  ns : (c.resolveSpecial t s).1.ns = t.ns
  subpage {called rest : List Char} : cut? (· = '/') t.key.toList = some (called, rest) →
    rest ≠ [] → ∃ page, cut? (· = '/') (c.resolveSpecial t s).1.key.toList = some (page, rest)

/-- The table is asked for only if the title is one of a special page. -/
theorem resolveSpecial_apply (c : Canonical (StateM S)) (t : Title) (s : S) :
    c.resolveSpecial t s =
      ((c.services.specialPages s).1.corrected t,
        if t.isSpecial then (c.services.specialPages s).2 else s) := by
  unfold Canonical.resolveSpecial Table.corrected
  cases t.isSpecial with
  | false => rfl
  | true =>
      rw [Bool.not_true, if_neg Bool.false_ne_true, if_pos rfl, if_pos rfl]
      have hbind : ∀ f : Table → StateM S Title, (c.services.specialPages >>= f) s =
          f (c.services.specialPages s).1 (c.services.specialPages s).2 := fun _ => rfl
      rw [hbind]
      cases (c.services.specialPages s).1.resolve? t.key with
      | none => rfl
      | some found => rfl

/-- The table that a running wiki has kept is what it tells of. -/
theorem tells_of_kept {σ : Type} (w : Wiki) (i : Hook.Invoker) {st : Wiki.Running σ}
    (h : st.specialPages = some specials) : Tells (w.services i) st specials := by
  have hkept : (w.services i).specialPages st = (specials, st) :=
    Wiki.OnDemand.lookUp_of_kept (t := Wiki.specialPageTable σ w.specialPages) h
  exact ⟨by rw [hkept], by rw [hkept, hkept]⟩

/-- A table that is made for the first question is kept for the second one. -/
theorem tells_of_attempt {σ : Type} (w : Wiki) (i : Hook.Invoker) {st : Wiki.Running σ}
    (hempty : st.specialPages = none)
    (h : (Wiki.specialPageTable σ w.specialPages).attempt i st = .ok specials) :
    Tells (w.services i) st specials := by
  have hmade : (w.services i).specialPages st =
      (specials, (Wiki.specialPageTable σ w.specialPages).made i st) :=
    Wiki.OnDemand.lookUp_of_ok (t := Wiki.specialPageTable σ w.specialPages) hempty h
  have hafter : ((Wiki.specialPageTable σ w.specialPages).made i st).specialPages =
      some specials := by
    rw [Wiki.OnDemand.made_of_ok h]
    rfl
  exact ⟨by rw [hmade], by rw [hmade, (tells_of_kept w i hafter).first]⟩

theorem Tells.settles (h : Tells c.services s (Table.ofNames names configured))
    (hplain : Plain names) (t : Title) : Settles c s t := by
  have hfirst : (c.resolveSpecial t s).1 = (Table.ofNames names configured).corrected t := by
    rw [resolveSpecial_apply, h.first]
  refine ⟨?_, ?_, ?_, fun hcut hne => ?_⟩
  · have hagain : (c.services.specialPages (c.resolveSpecial t s).2).1 =
        Table.ofNames names configured := by
      rw [resolveSpecial_apply]
      cases t.isSpecial with
      | false => exact h.first
      | true => exact h.again
    rw [resolveSpecial_apply c (c.resolveSpecial t s).1, hagain, hfirst]
    exact Table.corrected_corrected hplain t
  · rw [hfirst, Table.fragment_corrected]
  · rw [hfirst, Table.ns_corrected]
  · rw [hfirst]
    exact Table.cut?_corrected hplain hcut hne

/-- Putting aliases right takes one step. The names that come with a wiki are told apart. With
such names and any aliases, only listed names are found, and every title settles. -/
theorem resolveSpecial_settles :
    (∀ settings : Settings, Plain settings.names) ∧
      ∀ {names : TreeSet String} {configured : TreeMap String (List String)}, Plain names →
        (∀ {key name : String} {sub : Option String},
          (Table.ofNames names configured).resolve? key = some (name, sub) → name ∈ names) ∧
        ∀ {S : Type} {c : Canonical (StateM S)} {s : S},
          Tells c.services s (Table.ofNames names configured) → ∀ t, Settles c s t := by
  exact ⟨Settings.plain_names, fun hplain =>
    ⟨Table.mem_of_resolve?, fun h t => h.settles hplain t⟩⟩

/-- The usual wiki with a page to log in that is also called `Sign in`. -/
def signIn : Wiki where
  titles := {}
  namespaces := ⟨∅, ∅, true⟩
  specialPages := { aliases := SpecialPage.loginCalled "Sign in" }
  articlePath := none
  mainPage := "Main Page"
  usePathInfo := false

/-- A wiki that has just started: its names are told apart, and a title with a space, a subpage
that begins with a slash and a section settles. -/
theorem resolveSpecial_settles_signIn :
    let st : Wiki.Running Unit := { world := { registry := { mode := .production }, memory := () } }
    Plain signIn.specialPages.names ∧
      Settles (signIn.canonical (signIn.services {})) st
        (Title.make Namespace.special "sign in//50" "top" "") := by
  intro st
  have hplain := resolveSpecial_settles.1 signIn.specialPages
  have hattempt : (Wiki.specialPageTable Unit signIn.specialPages).attempt {} st =
      .ok (Table.ofNames signIn.specialPages.names signIn.specialPages.aliases) :=
    (Wiki.OnDemand.asked_of_unhandled rfl (by decide)).1
  exact ⟨hplain, (resolveSpecial_settles.2 hplain).2 (tells_of_attempt signIn {} rfl hattempt) _⟩

end Redirect

end WikiEntry
