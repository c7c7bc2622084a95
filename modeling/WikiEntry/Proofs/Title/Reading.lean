import WikiEntry.Proofs.Title.Checks
import WikiEntry.Proofs.Title.Fragment
import WikiEntry.Title.Parse

/-!
# How titles are read when the table is fixed

Over a fixed table of namespaces reading a title is a plain function. It is followed here in the
steps in which it works: the fragment, the leading colon, the prefixes, the checks. Which prefix
is found depends on the text before the first colon alone, and each of the ways to go on has its
own statement.
-/

namespace WikiEntry

open Text

namespace Resolver

open Title

variable {r : Resolver Id} {ns : Int} {key name rest fragment : List Char}

/-- The table of a resolver for which it is fixed. -/
def table (r : Resolver Id) : Namespace.Table := r.namespaces.run

/-! ### Fragments and leading colons -/

theorem cutFragment_of_not_mem (h : '#' ∉ key) : cutFragment key = (key, []) := by
  rw [cutFragment, cut?_of_not_mem h]

theorem cutFragment_append (h : '#' ∉ key) (fragment : List Char) :
    cutFragment (key ++ '#' :: fragment) =
      (dropEndWhile (fun c => c = '_') key, exchange '_' ' ' fragment) := by
  rw [cutFragment, cut?_append_of_not_mem h]

theorem cutColon_of_head?_ne (h : key.head? ≠ some ':') : cutColon ns key = (ns, key) := by
  unfold cutColon
  split
  · simp at h
  · rfl

theorem count_colon_cutColon_le (ns : Int) (key : List Char) :
    (cutColon ns key).2.count ':' ≤ key.count ':' := by
  unfold cutColon
  split
  · rename_i rest
    exact ((List.dropWhile_sublist _).trans (List.sublist_cons_self ':' rest)).count_le ':'
  · exact Nat.le_refl _

/-! ### Prefixes -/

/-- One prefix is looked at, whatever answers for the table. -/
theorem place_eq {m : Type → Type} [Monad m] (r : Resolver m) (ns : Int) (key : List Char) :
    r.place ns key =
      (match Key.cutPrefix? key with
      | none => pure ⟨ns, "", key⟩
      | some (name, rest) => do
        let table ← r.namespaces
        match table.find? (String.ofList name) with
        | some found =>
          if Namespace.isTalk found && r.leadsAway rest then throw .interwikiTalk
          else pure ⟨found, "", rest⟩
        | none =>
          if r.settings.localInterwikis.contains (String.ofList (lower name)) then r.place ns rest
          else if r.settings.interwikis.contains (String.ofList (lower name)) then
            pure ⟨Namespace.main, String.ofList (lower name), (cutColon Namespace.main rest).2⟩
          else pure ⟨ns, "", key⟩) := by
  rw [place]
  split
  · rename_i h
    exact h ▸ rfl
  · rename_i name rest h
    exact h ▸ rfl

/-- Taking prefixes away, without the monad. -/
theorem run_place (r : Resolver Id) (ns : Int) (key : List Char) :
    (r.place ns key).run =
      match Key.cutPrefix? key with
      | none => .ok ⟨ns, "", key⟩
      | some (name, rest) =>
        match r.table.find? (String.ofList name) with
        | some found =>
          if Namespace.isTalk found && r.leadsAway rest then .error .interwikiTalk
          else .ok ⟨found, "", rest⟩
        | none =>
          if r.settings.localInterwikis.contains (String.ofList (lower name)) then
            (r.place ns rest).run
          else if r.settings.interwikis.contains (String.ofList (lower name)) then
            .ok ⟨Namespace.main, String.ofList (lower name), (cutColon Namespace.main rest).2⟩
          else .ok ⟨ns, "", key⟩ := by
  conv => lhs; rw [place_eq]
  cases Key.cutPrefix? key with
  | none => rfl
  | some cut =>
      obtain ⟨name, rest⟩ := cut
      change (match r.table.find? (String.ofList name) with
        | some found => _
        | none => _ : ExceptT TitleError Id Place).run = _
      dsimp only
      cases r.table.find? (String.ofList name) with
      | some found =>
          dsimp only
          split <;> rfl
      | none =>
          dsimp only
          split
          · rfl
          · split <;> rfl

/-- Whether no prefix of the key means anything: the key is read as it stands. -/
def Unprefixed (r : Resolver Id) (key : List Char) : Prop :=
  ∀ name rest, Key.cutPrefix? key = some (name, rest) →
    r.table.find? (String.ofList name) = none ∧
      r.settings.localInterwikis.contains (String.ofList (lower name)) = false ∧
      r.settings.interwikis.contains (String.ofList (lower name)) = false

theorem place_of_unprefixed (h : r.Unprefixed key) : (r.place ns key).run = .ok ⟨ns, "", key⟩ := by
  rw [run_place]
  cases hcut : Key.cutPrefix? key with
  | none => rfl
  | some cut =>
      obtain ⟨name, rest⟩ := cut
      obtain ⟨hfind, hhome, haway⟩ := h name rest hcut
      simp only [hfind, hhome, haway, Bool.false_eq_true, if_false]

theorem place_of_find? {found : Int} (hcut : Key.cutPrefix? key = some (name, rest))
    (hfind : r.table.find? (String.ofList name) = some found) :
    (r.place ns key).run =
      if Namespace.isTalk found && r.leadsAway rest then .error .interwikiTalk
      else .ok ⟨found, "", rest⟩ := by
  rw [run_place, hcut]
  simp [hfind]

theorem place_of_home (hcut : Key.cutPrefix? key = some (name, rest))
    (hfind : r.table.find? (String.ofList name) = none)
    (hhome : r.settings.localInterwikis.contains (String.ofList (lower name)) = true) :
    (r.place ns key).run = (r.place ns rest).run := by
  conv => lhs; rw [run_place, hcut]
  simp only [hfind, hhome, if_true]

theorem place_of_away (hcut : Key.cutPrefix? key = some (name, rest))
    (hfind : r.table.find? (String.ofList name) = none)
    (hhome : r.settings.localInterwikis.contains (String.ofList (lower name)) = false)
    (haway : r.settings.interwikis.contains (String.ofList (lower name)) = true) :
    (r.place ns key).run =
      .ok ⟨Namespace.main, String.ofList (lower name), (cutColon Namespace.main rest).2⟩ := by
  rw [run_place, hcut]
  simp only [hfind, hhome, haway, Bool.false_eq_true, if_false, if_true]

/-- The four ways in which a key is read. -/
theorem place_cases (r : Resolver Id) (ns : Int) (key : List Char) :
    (r.Unprefixed key ∧ (r.place ns key).run = .ok ⟨ns, "", key⟩) ∨
      ∃ name rest, Key.cutPrefix? key = some (name, rest) ∧
        ((∃ found, r.table.find? (String.ofList name) = some found ∧
            (r.place ns key).run =
              if Namespace.isTalk found && r.leadsAway rest then .error .interwikiTalk
              else .ok ⟨found, "", rest⟩) ∨
          (r.table.find? (String.ofList name) = none ∧
            r.settings.localInterwikis.contains (String.ofList (lower name)) = true ∧
            (r.place ns key).run = (r.place ns rest).run) ∨
          (r.table.find? (String.ofList name) = none ∧
            r.settings.localInterwikis.contains (String.ofList (lower name)) = false ∧
            r.settings.interwikis.contains (String.ofList (lower name)) = true ∧
            (r.place ns key).run = .ok ⟨Namespace.main, String.ofList (lower name),
              (cutColon Namespace.main rest).2⟩)) := by
  cases hcut : Key.cutPrefix? key with
  | none =>
      have hplain : r.Unprefixed key := by
        intro name rest h
        rw [hcut] at h
        cases h
      exact Or.inl ⟨hplain, place_of_unprefixed hplain⟩
  | some cut =>
      obtain ⟨name, rest⟩ := cut
      cases hfind : r.table.find? (String.ofList name) with
      | some found =>
          exact Or.inr ⟨name, rest, rfl, Or.inl ⟨found, hfind, place_of_find? hcut hfind⟩⟩
      | none =>
          cases hhome : r.settings.localInterwikis.contains (String.ofList (lower name)) with
          | true =>
              exact Or.inr ⟨name, rest, rfl,
                Or.inr (Or.inl ⟨hfind, hhome, place_of_home hcut hfind hhome⟩)⟩
          | false =>
              cases haway : r.settings.interwikis.contains (String.ofList (lower name)) with
              | true =>
                  exact Or.inr ⟨name, rest, rfl,
                    Or.inr (Or.inr ⟨hfind, hhome, haway, place_of_away hcut hfind hhome haway⟩)⟩
              | false =>
                  have hplain : r.Unprefixed key := by
                    intro name' rest' h
                    rw [hcut] at h
                    cases h
                    exact ⟨hfind, hhome, haway⟩
                  exact Or.inl ⟨hplain, place_of_unprefixed hplain⟩

/-- Induction along the prefixes of this wiki, which are taken away one after another until the
place is found. -/
theorem place_induction (r : Resolver Id) (ns : Int) {motive : List Char → Place → Prop}
    (plain : ∀ key, r.Unprefixed key → motive key ⟨ns, "", key⟩)
    (named : ∀ key name rest found, Key.cutPrefix? key = some (name, rest) →
      r.table.find? (String.ofList name) = some found → motive key ⟨found, "", rest⟩)
    (home : ∀ key name rest spot, Key.cutPrefix? key = some (name, rest) →
      r.table.find? (String.ofList name) = none →
      r.settings.localInterwikis.contains (String.ofList (lower name)) = true →
      motive rest spot → motive key spot)
    (away : ∀ key name rest, Key.cutPrefix? key = some (name, rest) →
      r.table.find? (String.ofList name) = none →
      r.settings.localInterwikis.contains (String.ofList (lower name)) = false →
      r.settings.interwikis.contains (String.ofList (lower name)) = true →
      motive key ⟨Namespace.main, String.ofList (lower name), (cutColon Namespace.main rest).2⟩)
    {spot : Place} (h : (r.place ns key).run = .ok spot) : motive key spot := by
  -- The recursion is on the length: what follows a prefix is a part of the key, not its tail.
  induction hlength : key.length using Nat.strongRecOn generalizing key with
  | ind length ih =>
      subst hlength
      rcases r.place_cases ns key with ⟨hplain, hplace⟩ |
        ⟨name, rest, hcut, ⟨found, hfind, hplace⟩ | ⟨hfind, hhome, hplace⟩ |
          ⟨hfind, hhome, haway, hplace⟩⟩
      · rw [hplace] at h
        cases h
        exact plain key hplain
      · rw [hplace] at h
        split at h
        · cases h
        · cases h
          exact named key name rest found hcut hfind
      · rw [hplace] at h
        exact home key name rest spot hcut hfind hhome
          (ih rest.length (Key.length_lt_of_cutPrefix? hcut) h rfl)
      · rw [hplace] at h
        cases h
        exact away key name rest hcut hfind hhome haway

/-! ### The whole -/

/-- The namespace and the key with which the search for prefixes begins. -/
def begun (text : String) (ns : Int) : Int × List Char :=
  cutColon ns (cutFragment (Key.normalize text.toList)).1

/-- What a text says about the section of the page. -/
def fragmentOf (text : String) : String :=
  String.ofList (cutFragment (Key.normalize text.toList)).2

theorem begun_fst (text : String) (ns : Int) :
    (begun text ns).1 = ns ∨ (begun text ns).1 = Namespace.main := by
  unfold begun cutColon
  split
  · exact Or.inr rfl
  · exact Or.inl rfl

/-- Reading a text, without the monad. -/
theorem run_parse {text : String} (hnul : '\x00' ∉ text.toList) (ns : Int) :
    (r.parse text ns).run =
      (r.place (cutColon ns (cutFragment (Key.normalize text.toList)).1).1
        (cutColon ns (cutFragment (Key.normalize text.toList)).1).2).run.bind fun spot =>
          r.settle spot (String.ofList (cutFragment (Key.normalize text.toList)).2) := by
  have hnul' : text.toList.contains '\x00' = false := by simpa using hnul
  unfold parse
  simp only [hnul', Bool.false_eq_true, if_false]
  generalize r.place _ _ = placed
  rcases placed with error | spot <;> rfl

theorem run_parse_of_nul {text : String} (hnul : '\x00' ∈ text.toList) (ns : Int) :
    (r.parse text ns).run = .error .nullByte := by
  have hnul' : text.toList.contains '\x00' = true := by simpa using hnul
  rw [parse, if_pos hnul']
  rfl

theorem nul_not_mem_of_parse {text : String} {t : Title} (h : (r.parse text ns).run = .ok t) :
    '\x00' ∉ text.toList := by
  intro hnul
  rw [run_parse_of_nul hnul] at h
  cases h

theorem bind_settle_eq_ok {placed : Except TitleError Place} {fragment : String} {t : Title}
    (h : (placed.bind fun spot => r.settle spot fragment) = .ok t) :
    ∃ spot, placed = .ok spot ∧ r.settle spot fragment = .ok t := by
  cases placed with
  | error error => cases h
  | ok spot => exact ⟨spot, rfl, h⟩

/-- A title that is read was found at a place, and settled there. -/
theorem exists_place_of_parse {text : String} {t : Title} (h : (r.parse text ns).run = .ok t) :
    ∃ spot, (r.place (begun text ns).1 (begun text ns).2).run = .ok spot ∧
      r.settle spot (fragmentOf text) = .ok t := by
  rw [run_parse (nul_not_mem_of_parse h)] at h
  exact bind_settle_eq_ok h

end Resolver

end WikiEntry
