import WikiEntry.ArticlePath
import WikiEntry.Proofs.Title.Reading
import WikiEntry.Title.Format

/-!
# How titles are written when the table is fixed

Over a fixed table of namespaces the written forms of a title are plain texts: what leads to the
namespace, and the key. They are given here as lists of characters, in the form in which they are
read back.
-/

namespace WikiEntry.Resolver

open Text

variable {r : Resolver Id} {t : Title}

/-- What stands before the key: the prefix of the wiki and the name of the namespace. -/
def lead (r : Resolver Id) (t : Title) : List Char :=
  (if t.isExternal then t.interwiki.toList ++ [':'] else []) ++
    if t.ns = Namespace.main then []
    else (r.table.text t.ns).toList ++ [':']

theorem toList_prefixed (r : Resolver Id) (t : Title) (name : String) :
    (r.prefixed t name).run.toList = r.lead t ++ name.toList := by
  unfold prefixed lead
  by_cases hns : t.ns = Namespace.main
  · by_cases hwiki : t.isExternal = true <;> simp [hns, hwiki]
  · by_cases hwiki : t.isExternal = true <;> simp [hns, hwiki, namespaceText, table]

theorem run_prefixedKey (r : Resolver Id) (t : Title) :
    (r.prefixedKey t).run = String.ofList (exchange ' ' '_' (r.lead t) ++ t.key.toList) := by
  have hkey : exchange ' ' '_' t.key.toList = t.key.toList := exchange_of_not_mem t.key_spaceless
  have h : (r.prefixedKey t).run =
      String.ofList (exchange ' ' '_' (r.prefixed t t.key).run.toList) := rfl
  rw [h, toList_prefixed, exchange_append, hkey]

/-- Two titles of one page have one prefixed key. -/
theorem run_prefixedKey_congr {t' : Title} (hns : t'.ns = t.ns) (hkey : t'.key = t.key)
    (hwiki : t'.interwiki = t.interwiki) : (r.prefixedKey t').run = (r.prefixedKey t).run := by
  rw [run_prefixedKey, run_prefixedKey, lead, lead, Title.isExternal, Title.isExternal, hns, hkey,
    hwiki]

theorem run_prefixedKey_pointingAs (r : Resolver Id) (t target : Title) :
    (r.prefixedKey (t.pointingAs target)).run = (r.prefixedKey t).run :=
  run_prefixedKey_congr (Title.ns_pointingAs t target) (Title.key_pointingAs t target)
    (Title.interwiki_pointingAs t target)

theorem toList_fullText (r : Resolver Id) (t : Title) :
    (r.fullText t).run.toList =
      exchange '_' ' ' (r.lead t ++ t.key.toList) ++
        if t.hasFragment then '#' :: t.fragment.toList else [] := by
  have htext : (r.prefixedText t).run.toList = exchange '_' ' ' (r.lead t ++ t.key.toList) := by
    have h : (r.prefixedText t).run =
        String.ofList (exchange '_' ' ' (r.prefixed t t.text).run.toList) := rfl
    have htwice :
        exchange '_' ' ' (exchange '_' ' ' t.key.toList) = exchange '_' ' ' t.key.toList :=
      exchange_of_not_mem (not_mem_exchange (by decide) _)
    rw [h, String.toList_ofList, toList_prefixed, Title.text, String.toList_ofList,
      exchange_append, exchange_append, htwice]
  have h : (r.fullText t).run =
      if t.hasFragment then (r.prefixedText t).run ++ "#" ++ t.fragment
      else (r.prefixedText t).run := by
    unfold fullText
    cases t.hasFragment <;> rfl
  rw [h]
  cases t.hasFragment <;> simp [htext]

/-! ### URLs -/

/-- The fragment of a title as it ends its URLs. -/
def tail (r : Resolver Id) (t : Title) : List Char :=
  if t.hasFragment then
    '#' :: (r.encode (String.ofList (exchange ' ' '_' t.fragment.toList))).toList
  else []

theorem remoteUrl?_of_local (hlocal : t.isExternal = false) (query : String) :
    r.remoteUrl? t query = pure none := by
  unfold remoteUrl?
  rw [hlocal]
  rfl

theorem run_fullUrl_of_local (hlocal : t.isExternal = false) (query : String) :
    (r.fullUrl t query).run.toList =
      r.settings.server.toList ++
        (if query.isEmpty then
          Text.fill (r.encode (r.prefixedKey t).run).toList r.settings.articlePath.toList
        else
          r.settings.script.toList ++ "?title=".toList ++ (r.encode (r.prefixedKey t).run).toList ++
            '&' :: query.toList) ++ r.tail t := by
  have hremote := remoteUrl?_of_local (r := r) hlocal query
  have hurl : (r.localUrl t query).run =
      if query.isEmpty then Resolver.fill r.settings.articlePath (r.encode (r.prefixedKey t).run)
      else r.settings.script ++ "?title=" ++ r.encode (r.prefixedKey t).run ++ "&" ++ query := by
    unfold localUrl
    rw [hremote]
    cases query.isEmpty <;> rfl
  have hfull : (r.fullUrl t query).run =
      if t.hasFragment then r.settings.server ++ (r.localUrl t query).run ++ "#" ++
        r.encode (String.ofList (exchange ' ' '_' t.fragment.toList))
      else r.settings.server ++ (r.localUrl t query).run := by
    unfold fullUrl
    rw [hremote]
    cases t.hasFragment <;> rfl
  rw [hfull, hurl, tail]
  cases t.hasFragment <;> cases query.isEmpty <;> simp [Resolver.fill]

end WikiEntry.Resolver
