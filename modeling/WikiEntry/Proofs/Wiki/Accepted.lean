import WikiEntry.Proofs.Percent.Decoding
import WikiEntry.Proofs.Title.Normal
import WikiEntry.Proofs.Wiki.BadTitle
import WikiEntry.Proofs.Wiki.Routes

/-!
# Titles that a running wiki accepts

While a title is read, the table of namespaces may be asked for several times, and handlers may
contribute something else each time. That decides where prefixes lead, but not what the key is
checked for: whatever the answers were, a title that comes of it has passed the checks. So no key
can be taken for a relative path, whose segments a browser or a server would resolve, and no key
holds an escape that another decoding would change.
-/

namespace WikiEntry.Wiki

open Text Title

variable {σ : Type} {r : Resolver (Live σ)} {st : Running σ} {ns : Int} {key : List Char}
  {spot : Title.Place} {t : Title} {text : String}

/-- Taking prefixes away keeps keys clean, however often the table changes on the way. -/
theorem clean_of_place (hkey : Key.Clean key) (h : ((r.place ns key).run st).1 = .ok spot) :
    Key.Clean spot.key := by
  induction hlength : key.length using Nat.strongRecOn generalizing key st with
  | ind length ih =>
      subst hlength
      rw [Resolver.place_eq] at h
      cases hcut : Key.cutPrefix? key with
      | none =>
          rw [hcut] at h
          obtain rfl := Except.ok.inj h
          exact hkey
      | some cut =>
          obtain ⟨name, rest⟩ := cut
          have hrest := (hkey.of_cutPrefix? hcut).2
          rw [hcut] at h
          obtain ⟨table, -, h⟩ := bind_answers_iff.mp h
          cases hfind : table.find? (String.ofList name) with
          | some found =>
              rw [hfind] at h
              dsimp only at h
              split at h
              · cases h
              · obtain rfl := Except.ok.inj h
                exact hrest
          | none =>
              rw [hfind] at h
              dsimp only at h
              split at h
              · exact ih rest.length (Key.length_lt_of_cutPrefix? hcut) hrest h rfl
              · split at h
                · obtain rfl := Except.ok.inj h
                  exact hrest.of_cutColon _
                · obtain rfl := Except.ok.inj h
                  exact hkey

/-- A title that is accepted was settled with a clean key. Settling asks for no table. -/
theorem exists_settle_of_parse (h : ((r.parse text ns).run st).1 = .ok t) :
    ∃ spot, Key.Clean spot.key ∧
      (Resolver.ofNames r.settings r.capitalLinks ∅).settle spot (Resolver.fragmentOf text) =
        .ok t := by
  unfold Resolver.parse at h
  split at h
  · cases h
  · rename_i hnul
    obtain ⟨spot, hplace, hsettle⟩ := bind_answers_iff.mp h
    have hnul' : '\x00' ∉ text.toList := by simpa using hnul
    exact ⟨spot, clean_of_place (Resolver.clean_begun hnul' ns) hplace, hsettle⟩

/-- The key of a title that is accepted has passed every check but that of its length, in the form
in which it is kept. -/
theorem sound_of_parse (h : ((r.parse text ns).run st).1 = .ok t) : Key.Sound t.key.toList := by
  obtain ⟨spot, hclean, hsettle⟩ := exists_settle_of_parse h
  rw [Resolver.toList_key_of_settle hclean hsettle]
  obtain ⟨hfault, -, -⟩ := Resolver.settle_eq_ok_iff.mp hsettle
  exact Resolver.stored_sound (Key.fault?_eq_none_iff.mp hfault).1

/-! ### Relative paths -/

/-- The check for relative paths misses none: it refuses the keys with a segment that is a dot or
two, wherever the segment stands, and no others. So no title that a wiki accepts has one. -/
theorem parse_not_relative (r : Resolver (Live σ)) (st : Running σ) (text : String) (ns : Int)
    (t : Title) (key : List Char) :
    (Key.isRelative key = true ↔
        ∃ segment ∈ key.splitOn '/', segment = ['.'] ∨ segment = ['.', '.']) ∧
      (((r.parse text ns).run st).1 = .ok t →
        ∀ segment ∈ t.key.toList.splitOn '/', segment ≠ ['.'] ∧ segment ≠ ['.', '.']) := by
  refine ⟨Key.isRelative_iff_exists, fun h segment hsegment => ?_⟩
  have hpath : ¬Key.isRelative t.key.toList = true := by simp [(sound_of_parse h).path]
  rw [Key.isRelative_iff_exists] at hpath
  exact ⟨fun hone => hpath ⟨segment, hsegment, .inl hone⟩,
    fun htwo => hpath ⟨segment, hsegment, .inr htwo⟩⟩

/-- The usual wiki without handlers. -/
def usualStart : Running Unit := usualRunning { mode := .production }

/-- The usual wiki accepts a word that is a key as it stands. -/
theorem usual_accepts {word : String}
    (h : Key.normalize word.toList = word.toList ∧ '#' ∉ word.toList ∧ ':' ∉ word.toList ∧
      '\x00' ∉ word.toList ∧ Key.fault? Namespace.main word.toList = none ∧
      upperFirst word.toList = word.toList ∧ word.toList ≠ []) :
    (((usual.resolver (usual.services {})).parse word Namespace.main).run usualStart).1 =
      .ok (make Namespace.main word "" "") := by
  have hkept : usualStart.namespaces = some (.plain true) := rfl
  rw [parse_of_kept hkept]
  exact usual_parse word word h

/-- Dots in a row, at the ends of segments. -/
theorem parse_not_relative_dots :
    let title := make Namespace.main ".../..a/b.." "" ""
    (((usual.resolver (usual.services {})).parse ".../..a/b.." Namespace.main).run usualStart).1 =
        .ok title ∧
      ∀ segment ∈ title.key.toList.splitOn '/', segment ≠ ['.'] ∧ segment ≠ ['.', '.'] := by
  intro title
  have hread : (((usual.resolver (usual.services {})).parse ".../..a/b.." Namespace.main).run
      usualStart).1 = .ok title := usual_accepts (by decide)
  exact ⟨hread, (parse_not_relative _ _ _ _ _ title.key.toList).2 hread⟩

/-! ### Escapes -/

/-- The check for escapes refuses the keys that decoding would change, and no others. So the key of
a title that a wiki accepts stands for itself in percent code, and its code stands for the same. -/
theorem parse_decoded (r : Resolver (Live σ)) (st : Running σ) (text : String) (ns : Int)
    (t : Title) (code : String) :
    (Percent.hasEscape code.toList = false ↔ Percent.decode? code = some code) ∧
      (((r.parse text ns).run st).1 = .ok t →
        Percent.decode? t.key = some t.key ∧
          ∀ colonBroken,
            Percent.decode? (Percent.encode t.key colonBroken) = Percent.decode? t.key) := by
  refine ⟨Percent.hasEscape_eq_false_iff, fun h => ?_⟩
  have hself : Percent.decode? t.key = some t.key :=
    Percent.hasEscape_eq_false_iff.mp (sound_of_parse h).escapes
  refine ⟨hself, fun colonBroken => ?_⟩
  rw [hself, Percent.decode?_encode_self]

/-- Percent signs before what is no escape: another sign, one digit and a sign, other letters. -/
theorem parse_decoded_signs :
    let title := make Namespace.main "100%%4%zz" "" ""
    (((usual.resolver (usual.services {})).parse "100%%4%zz" Namespace.main).run usualStart).1 =
        .ok title ∧
      Percent.decode? title.key = some title.key ∧
      ∀ colonBroken,
        Percent.decode? (Percent.encode title.key colonBroken) = Percent.decode? title.key := by
  intro title
  have hread : (((usual.resolver (usual.services {})).parse "100%%4%zz" Namespace.main).run
      usualStart).1 = .ok title := usual_accepts (by decide)
  exact ⟨hread, (parse_decoded _ _ _ _ _ title.key).2 hread⟩

end WikiEntry.Wiki
