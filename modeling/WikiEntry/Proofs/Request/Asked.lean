import WikiEntry.Proofs.Request.Split

/-!
# What requests ask for

The URL that a request asks for is put together again from the parts into which its own URL was
taken apart. It can differ from that by a slash or a question mark at the end. If it is a path of a
server, the request is the one for this path.
-/

namespace WikiEntry.Request

open Text

variable {server path query : List Char} {url : String}

theorem isServer_of_cutWord? {scheme rest : List Char} {url : List Char}
    (h : cutWord? [':', '/', '/'] url = some (scheme, rest)) :
    IsServer (scheme ++ [':', '/', '/'] ++ rest.takeWhile fun c => decide (c ≠ '/')) := by
  refine ⟨scheme, rest.takeWhile fun c => decide (c ≠ '/'), ?_, fun hmem => ?_⟩
  · rw [cutWord?_eq_some h] at h
    simpa using cutWord?_append (cutWord?_of_append h) (rest.takeWhile fun c => decide (c ≠ '/'))
  · have hne := List.all_eq_true.mp List.all_takeWhile '/' hmem
    simp at hne

/-- A URL either has no server, or comes apart into one and a rest that is empty or starts with a
slash. -/
theorem cutServer_cases (url : List Char) :
    (¬[':', '/', '/'] <:+: url ∧ cutServer url = ([], url)) ∨
      ∃ server rest, cutServer url = (server, rest) ∧ IsServer server ∧ url = server ++ rest ∧
        (rest = [] ∨ rest.head? = some '/') := by
  cases hcut : cutWord? [':', '/', '/'] url with
  | none =>
      refine .inl ⟨?_, by rw [cutServer, hcut]⟩
      rw [← occurs_iff, occurs, hcut]
      simp
  | some parts =>
      obtain ⟨scheme, rest⟩ := parts
      have hurl := cutWord?_eq_some hcut
      have hhost : rest.takeWhile (fun c => decide (c ≠ '/')) ++
          rest.dropWhile (fun c => decide (c ≠ '/')) = rest := List.takeWhile_append_dropWhile
      refine .inr ⟨_, rest.dropWhile fun c => decide (c ≠ '/'), cutServer_of_cutWord? hcut,
        isServer_of_cutWord? hcut, ?_, ?_⟩
      · rw [List.append_assoc, hhost, hurl]
      · have hnot := List.head?_dropWhile_not (fun c => decide (c ≠ '/')) rest
        cases hrest : rest.dropWhile fun c => decide (c ≠ '/') with
        | nil => exact .inl rfl
        | cons c more =>
            rw [hrest] at hnot
            right
            simpa using hnot

theorem cutServer_append_self (url : List Char) :
    (cutServer url).1 ++ (cutServer url).2 = url := by
  obtain ⟨-, hcut⟩ | ⟨server, rest, hcut, -, hurl, -⟩ := cutServer_cases url
  · rw [hcut, List.nil_append]
  · rw [hcut, hurl]

/-- What a query adds to a URL. -/
def asked (query : List Char) : List Char := if query = [] then [] else '?' :: query

theorem eq_nil_of_not_mem_asked (h : '?' ∉ asked query) : query = [] := by
  unfold asked at h
  split at h
  · assumption
  · exact absurd List.mem_cons_self h

theorem toList_fullUrl (method : String) (server path query : List Char)
    (params : List (String × String)) :
    (fullUrl ⟨method, String.ofList server, String.ofList path, String.ofList query, params⟩).toList
      = server ++ path ++ asked query := by
  unfold fullUrl asked
  by_cases hquery : query = [] <;> simp [hquery]

/-- What a request takes from a URL after the server. A question mark at the end is lost, and an
empty path becomes a slash. -/
theorem exists_get (url : String) :
    ∃ front query, front ++ asked query <+: (cutServer url.toList).2 ∧
      get url = ⟨"GET", String.ofList (cutServer url.toList).1,
        String.ofList (if front = [] then ['/'] else front), String.ofList query,
        parameters query⟩ := by
  unfold get asked
  generalize cutServer url.toList = cut
  obtain ⟨server, rest⟩ := cut
  dsimp only
  cases hcut : cut? (fun c => c = '?') rest with
  | none =>
      refine ⟨rest, [], by simp, ?_⟩
      split <;> simp_all
  | some parts =>
      obtain ⟨front, query⟩ := parts
      obtain ⟨c, hc, rfl, -⟩ := cut?_eq_some hcut
      obtain rfl : c = '?' := by simpa using hc
      refine ⟨front, query, ?_, ?_⟩
      · split
        · simp
        · exact List.prefix_rfl
      · split <;> simp_all

/-- The URL that a request asks for holds no new characters but slashes. -/
theorem mem_of_mem_fullUrl_get {c : Char} (h : c ∈ (get url).fullUrl.toList) :
    c ∈ url.toList ∨ c = '/' := by
  obtain ⟨front, query, hstart, hget⟩ := exists_get url
  rw [hget, toList_fullUrl] at h
  rw [← cutServer_append_self url.toList]
  simp only [List.mem_append] at h ⊢
  obtain (hserver | hpath) | hasked := h
  · exact .inl (.inl hserver)
  · split at hpath
    · exact .inr (List.mem_singleton.mp hpath)
    · exact .inl (.inr (hstart.subset (List.mem_append_left _ hpath)))
  · exact .inl (.inr (hstart.subset (List.mem_append_right _ hasked)))

theorem IsServer.infix (h : IsServer server) : [':', '/', '/'] <:+: server := by
  obtain ⟨scheme, host, hcut, -⟩ := h
  exact ⟨scheme, host, (cutWord?_eq_some hcut).symm⟩

/-- What a request asks for after its server starts with a slash, since the URL did, or ended. -/
theorem exists_slash {front rest : List Char} (hrest : rest = [] ∨ rest.head? = some '/')
    (hstart : front ++ asked query <+: rest) :
    ∃ more, (if front = [] then ['/'] else front) ++ asked query = '/' :: more := by
  cases front with
  | nil => exact ⟨asked query, rfl⟩
  | cons c front =>
      obtain rfl | hhead := hrest
      · exact absurd (List.prefix_nil.mp hstart) (List.cons_ne_nil _ _)
      · obtain ⟨tail, rfl⟩ := List.head?_eq_some_iff.mp hhead
        obtain ⟨rfl, -⟩ := List.cons_prefix_cons.mp hstart
        exact ⟨front ++ asked query, rfl⟩

/-- The slash that stands for an empty path makes no new server. -/
theorem infix_of_infix_path {front rest : List Char} (hstart : front ++ asked query <+: rest)
    (hin : [':', '/', '/'] <:+: (if front = [] then ['/'] else front) ++ asked query) :
    [':', '/', '/'] <:+: rest := by
  split at hin
  · rename_i hfront
    rw [hfront, List.nil_append] at hstart
    rw [List.singleton_append, List.infix_cons_iff] at hin
    exact (hin.resolve_left (by simp)).trans hstart.isInfix
  · exact hin.trans hstart.isInfix

/-- A request that asks for a path of a server is the request for this path. -/
theorem get_of_fullUrl (hserver : IsServer server) (hhead : path.head? = some '/')
    (hquery : '?' ∉ path) (h : (get url).fullUrl.toList = server ++ path) :
    get url = ⟨"GET", String.ofList server, String.ofList path, "", []⟩ := by
  obtain ⟨front, query, hstart, hget⟩ := exists_get url
  rw [hget, toList_fullUrl, List.append_assoc] at h
  obtain ⟨hnone, hcut⟩ | ⟨server', rest, hcut, hserver', -, hrest⟩ := cutServer_cases url.toList
  · -- Without a server in the URL there would be none in what is asked for.
    rw [hcut] at hstart
    rw [hcut, List.nil_append] at h
    exact absurd (infix_of_infix_path hstart
      (h ▸ hserver.infix.trans (List.prefix_append server path).isInfix)) hnone
  · rw [hcut] at h hstart hget
    obtain ⟨more, hmore⟩ := exists_slash hrest hstart
    obtain ⟨tail, rfl⟩ := List.head?_eq_some_iff.mp hhead
    -- Both sides come apart in one way only, as a server and what starts with a slash.
    have hsame : (server', '/' :: more) = (server, '/' :: tail) := by
      rw [← cutServer_append hserver', ← cutServer_append hserver, ← hmore, h]
    obtain ⟨rfl, hpath⟩ := Prod.mk.inj hsame
    rw [← hmore] at hpath
    obtain rfl : query = [] := eq_nil_of_not_mem_asked fun hmem =>
      hquery (hpath ▸ List.mem_append_right _ hmem)
    rw [asked, if_pos rfl, List.append_nil] at hpath
    rw [hget, hpath]
    rfl

end WikiEntry.Request
