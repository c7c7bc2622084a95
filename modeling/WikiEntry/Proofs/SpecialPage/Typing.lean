import WikiEntry.Proofs.SpecialPage.Aliases
import WikiEntry.Proofs.Title.RoundTrip
import WikiEntry.Proofs.Title.Typed

/-!
# Aliases that are typed

An alias is folded as it is configured, while a title is normalised first: separators become single
underscores and are dropped at the ends, and the first letter becomes a capital. Both come to the
same if the alias is written as keys are. An alias with more than that, a blank at its end for
instance, is not found when it is typed, unless another name or alias of the page is written so.
-/

namespace WikiEntry

open Std Text

namespace Resolver

open Title

variable {r : Resolver Id} {spelling : String} {t : Title}

/-! ### After the name of the namespace of special pages -/

theorem cutPrefix?_special (spelling : String) :
    Key.cutPrefix? (Key.normalize ("Special:" ++ spelling).toList) =
      some ("Special".toList, Key.normalize spelling.toList) := by
  have htext : ("Special:" ++ spelling).toList =
      "Special".toList ++ [] ++ ':' :: ([] ++ spelling.toList) := by
    rw [String.toList_append]
    rfl
  rw [htext]
  exact Key.cutPrefix?_normalize (Key.spaced_of_normalize_eq (by decide)) (by decide) (by decide)
    (List.forall_mem_nil _) (List.forall_mem_nil _) spelling.toList

theorem begun_special (hhash : '#' ∉ spelling.toList) (ns : Int) :
    begun ("Special:" ++ spelling) ns = (ns, Key.normalize ("Special:" ++ spelling).toList) := by
  have hfree : '#' ∉ ("Special:" ++ spelling).toList := by simp [hhash]
  rw [begun, Key.cutFragment_normalize_of_not_mem hfree]
  exact cutColon_of_head?_ne (Key.head?_ne_of_cutPrefix? (cutPrefix?_special spelling))

/-- Where `Special` is the name of a namespace, the key is the rest of the text, normalised and
with a capital. -/
theorem toList_key_of_special (hnamed : r.table.find? "Special" ≠ none)
    (hhash : '#' ∉ spelling.toList)
    (h : (r.parse ("Special:" ++ spelling) Namespace.main).run = .ok t)
    (hns : t.ns = Namespace.special) :
    t.key.toList = upperFirst (Key.normalize spelling.toList) := by
  obtain ⟨spot, hplace, hsame, hkey⟩ := exists_stored_of_parse h
  obtain ⟨found, hfind⟩ := Option.ne_none_iff_exists'.mp hnamed
  rw [begun_special hhash, place_of_find? (cutPrefix?_special spelling)
    (by rw [String.ofList_toList, hfind])] at hplace
  split at hplace
  · cases hplace
  · cases hplace
    have hfound : found = Namespace.special := hsame.symm.trans hns
    rw [hkey, hfound]
    rfl

end Resolver

namespace SpecialPage

open Title

variable {names : TreeSet String} {configured : TreeMap String (List String)}
  {page spelling : String} {t : Title}

/-- Whether an alias is written as keys are: one space or underscore between its words, none at the
ends, and a first letter whose capital form has it for its small form. -/
structure WrittenAsKey (spelling : String) : Prop where
  spaced : Key.normalize spelling.toList = exchange ' ' '_' spelling.toList
  cased : lower (upperFirst (exchange ' ' '_' spelling.toList)) =
    lower (exchange ' ' '_' spelling.toList)

/-- Folding what was normalised and capitalised comes to folding the alias itself exactly if
neither has changed more than the letter case. -/
theorem lower_upperFirst_normalize_iff :
    lower (upperFirst (Key.normalize spelling.toList)) =
      lower (exchange ' ' '_' spelling.toList) ↔ WrittenAsKey spelling := by
  have hnormal : Key.normalize (exchange ' ' '_' spelling.toList) =
      Key.normalize spelling.toList := Key.normalize_exchange ' ' '_' rfl rfl _
  constructor
  · intro hsame
    -- Separators have no letter case: they are in the alias as they are in the key.
    have hspaced : Key.Spaced false (lower (exchange ' ' '_' spelling.toList)) :=
      hsame ▸ (Key.spaced_normalize spelling.toList).upperFirst.lower
    have hwritten := hnormal.symm.trans (Key.normalize_of_spaced hspaced.of_lowerAfter)
    exact ⟨hwritten, hwritten ▸ hsame⟩
  · intro hwritten
    rw [hwritten.spaced, hwritten.cased]

theorem fold_key_eq_iff (hkey : t.key.toList = upperFirst (Key.normalize spelling.toList)) :
    fold t.key = fold spelling ↔ WrittenAsKey spelling := by
  rw [fold, fold, String.ofList_inj, exchange_of_not_mem t.key_spaceless, hkey]
  exact lower_upperFirst_normalize_iff

/-- Both ways of writing it are read as one title. -/
theorem parse_signIn (hkey : Key.normalize spelling.toList = "Sign_in".toList)
    (hhash : '#' ∉ spelling.toList) (hnul : '\x00' ∉ spelling.toList) :
    ((Resolver.plain {} true).parse ("Special:" ++ spelling) Namespace.main).run =
      .ok (title "Sign in" none) := by
  have hfree : '\x00' ∉ ("Special:" ++ spelling).toList := by simp [hnul]
  have hplain : '#' ∉ ("Special:" ++ spelling).toList := by simp [hhash]
  have hfind : (Resolver.plain {} true).table.find? (String.ofList "Special".toList) =
      some Namespace.special :=
    (Resolver.plain_faithful {} true).finds Namespace.special (by decide) (by decide)
  have hbegun := Resolver.begun_special hhash Namespace.main
  rw [Resolver.begun] at hbegun
  rw [Resolver.run_parse hfree, hbegun,
    Resolver.place_of_find? (Resolver.cutPrefix?_special spelling) hfind,
    Key.cutFragment_normalize_of_not_mem hplain, hkey]
  change (Resolver.plain {} true).settle ⟨Namespace.special, "", "Sign_in".toList⟩ "" = _
  rw [Resolver.settle_eq_ok_iff]
  decide

namespace Table

theorem resolve?_eq_some_iff_standsFor {key : String} (hslash : '/' ∉ key.toList) :
    (ofNames names configured).resolve? key = some (page, none) ↔
      StandsFor names configured (fold key) page := by
  rw [resolve?_of_slashless _ hslash, Option.map_eq_some_iff, ← aliases_ofNames_eq_some_iff]
  simp

/-- Let an alias be like no name and like no alias of another page, and read it as a special page.
The page is found if the folded key stands for it, and so if the key is folded as the alias is. This
it is if, and only if, the alias is written as keys are. -/
theorem resolve?_typed (r : Resolver Id) (hown : OwnAlias names configured page spelling)
    (hslash : '/' ∉ spelling.toList) (hhash : '#' ∉ spelling.toList)
    (hread : (r.parse ("Special:" ++ spelling) Namespace.main).run = .ok t)
    (hns : t.ns = Namespace.special) :
    ((ofNames names configured).resolve? t.key = some (page, none) ↔
      StandsFor names configured (fold t.key) page) ∧
    (fold t.key = fold spelling →
      (ofNames names configured).resolve? t.key = some (page, none)) ∧
    (r.table.find? "Special" ≠ none → (fold t.key = fold spelling ↔ WrittenAsKey spelling)) := by
  have hkey : '/' ∉ t.key.toList := fun hmem => by
    have htext := Resolver.mem_of_mem_key hread hmem (by decide) (by decide)
    simp [hslash] at htext
  refine ⟨resolve?_eq_some_iff_standsFor hkey, fun hsame => ?_, fun hnamed => ?_⟩
  · rw [resolve?_eq_some_iff_standsFor hkey, hsame]
    exact hown.standsFor
  · exact fold_key_eq_iff (Resolver.toList_key_of_special hnamed hhash hread hns)

/-- An alias of two words is found when it is typed. -/
theorem resolve?_typed_signIn :
    OwnAlias (Settings.names {}) (loginCalled "Sign in") "Userlogin" "Sign in" ∧
      ((Resolver.plain {} true).parse ("Special:" ++ "Sign in") Namespace.main).run =
        .ok (title "Sign in" none) ∧
      (ofNames (Settings.names {}) (loginCalled "Sign in")).resolve? (title "Sign in" none).key =
        some ("Userlogin", none) := by
  have hown : OwnAlias (Settings.names {}) (loginCalled "Sign in") "Userlogin" "Sign in" :=
    ownAlias_loginCalled (by decide)
  have hread : ((Resolver.plain {} true).parse ("Special:" ++ "Sign in") Namespace.main).run =
      .ok (title "Sign in" none) := parse_signIn (by decide) (by decide) (by decide)
  exact ⟨hown, hread,
    (resolve?_typed _ hown (by decide) (by decide) hread rfl).2.1 (by decide)⟩

/-- With a blank after it, it is not: the blank is in the table as an underscore, and no title that
is read ends in one. -/
theorem resolve?_typed_blank :
    OwnAlias (Settings.names {}) (loginCalled "Sign in ") "Userlogin" "Sign in " ∧
      '/' ∉ "Sign in ".toList ∧ '#' ∉ "Sign in ".toList ∧
      ((Resolver.plain {} true).parse ("Special:" ++ "Sign in ") Namespace.main).run =
        .ok (title "Sign in" none) ∧
      (title "Sign in" none).ns = Namespace.special ∧
      (ofNames (Settings.names {}) (loginCalled "Sign in ")).resolve? (title "Sign in" none).key =
        none := by
  refine ⟨ownAlias_loginCalled (by decide), by decide, by decide,
    parse_signIn (by decide) (by decide) (by decide), rfl, ?_⟩
  rw [resolve?_of_slashless _ (by decide), Option.map_eq_none_iff,
    Option.eq_none_iff_forall_ne_some]
  intro page hpage
  rcases aliases_ofNames_eq_some_iff.mp hpage with hname | ⟨-, hcalled⟩
  · exact Settings.underscore_not_mem_fold hname.listed (hname.folds ▸ by decide)
  · exact absurd (called_loginCalled_iff.mp hcalled.called).2 (by decide)

end Table

end SpecialPage

end WikiEntry
