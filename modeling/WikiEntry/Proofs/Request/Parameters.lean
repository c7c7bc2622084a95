import WikiEntry.Proofs.Request.Split
import WikiEntry.Redirect.Snapshot

/-!
# Parameters survive the request

A query is written in percent code, parameter by parameter, and a request reads it back. Names and
values may hold the characters at which a query is cut, and percent and plus signs; they may be
empty, and names may be repeated. The request still has these parameters, in their order, and all
that it tells about a name follows from their list.
-/

namespace WikiEntry.Request

open Text

variable {server path : String} {colonBroken : Bool} {pairs : List (String × String)}

/-! ### Queries that are written -/

/-- The query that sends these parameters. -/
def queryOf (colonBroken : Bool) (pairs : List (String × String)) : String :=
  "&".intercalate (pairs.map (written colonBroken))

theorem toList_queryOf_singleton (pair : String × String) :
    (queryOf colonBroken [pair]).toList = (written colonBroken pair).toList := by
  simp [queryOf]

theorem toList_queryOf_cons_cons (pair next : String × String) :
    (queryOf colonBroken (pair :: next :: pairs)).toList =
      (written colonBroken pair).toList ++ '&' :: (queryOf colonBroken (next :: pairs)).toList := by
  simp [queryOf, String.toList_intercalate]

theorem toList_written_ne_nil (colonBroken : Bool) (pair : String × String) :
    (written colonBroken pair).toList ≠ [] := by
  rw [toList_written]
  exact List.append_ne_nil_of_right_ne_nil _ (List.cons_ne_nil _ _)

theorem toList_queryOf_ne_nil (h : pairs ≠ []) : (queryOf colonBroken pairs).toList ≠ [] := by
  obtain ⟨pair, more, rfl⟩ := List.exists_cons_of_ne_nil h
  cases more with
  | nil => rw [toList_queryOf_singleton]; exact toList_written_ne_nil colonBroken pair
  | cons next more =>
      rw [toList_queryOf_cons_cons]
      exact List.append_ne_nil_of_right_ne_nil _ (List.cons_ne_nil _ _)

/-! ### Reading them -/

theorem not_mem_written (colonBroken : Bool) (pair : String × String) :
    '&' ∉ (written colonBroken pair).toList := by
  have hname : '&' ∉ Percent.encodeChars colonBroken pair.1.toList :=
    Percent.not_mem_encodeChars (by decide) _
  have hvalue : '&' ∉ Percent.encodeChars colonBroken pair.2.toList :=
    Percent.not_mem_encodeChars (by decide) _
  simp [toList_written, hname, hvalue]

theorem parameters_queryOf (colonBroken : Bool) (pairs : List (String × String)) :
    parameters (queryOf colonBroken pairs).toList = pairs := by
  induction pairs with
  | nil => rfl
  | cons pair more ih =>
      have hpiece := not_mem_written colonBroken pair
      have hne := toList_written_ne_nil colonBroken pair
      cases more with
      | nil =>
          rw [toList_queryOf_singleton, parameters_of_piece hpiece hne, parameter_written]
      | cons next more =>
          rw [toList_queryOf_cons_cons, parameters_append_cons hpiece hne, parameter_written, ih]

/-- The request that asks for a path with these parameters. -/
theorem get_of_queryOf (hserver : IsServer server.toList) (hhead : path.toList.head? = some '/')
    (hquery : '?' ∉ path.toList) :
    get (server ++ path ++ "?" ++ queryOf colonBroken pairs) =
      ⟨"GET", server, path, queryOf colonBroken pairs, pairs⟩ := by
  have hurl : (server ++ path ++ "?" ++ queryOf colonBroken pairs).toList =
      server.toList ++ path.toList ++ '?' :: (queryOf colonBroken pairs).toList := by simp
  rw [get_of_query hserver hhead hquery hurl, parameters_queryOf]
  simp only [String.ofList_toList]

/-! ### What a request tells about its parameters -/

/-- What the accessors of a request tell if these parameters were sent. -/
structure Carries (r : Request) (pairs : List (String × String)) : Prop where
  /-- The first value counts, and the default stands for a name that was not sent. -/
  valueD_eq (name default : String) :
    r.valueD name default = ((pairs.find? (·.1 == name)).map (·.2)).getD default
  has_iff (name : String) : r.has name = true ↔ ∃ value, (name, value) ∈ pairs
  /-- Each name is listed where it was first sent. -/
  names_eq (exclude : List String) :
    r.names exclude = ((pairs.map (·.1)).filter (· ∉ exclude)).eraseDups

theorem value?_eq (r : Request) (name : String) :
    r.value? name = (r.params.find? (·.1 == name)).map (·.2) := by
  unfold value?
  induction r.params with
  | nil => rfl
  | cons pair params ih =>
      by_cases hname : pair.1 = name
      · rw [List.lookup_cons, List.find?_cons_of_pos (by simpa using hname),
          beq_iff_eq.mpr hname.symm]
        rfl
      · rw [List.lookup_cons, List.find?_cons_of_neg (by simpa using hname), ← ih,
          beq_eq_false_iff_ne.mpr (Ne.symm hname)]

/-- The names that were seen already do not come again. -/
theorem namesAfter_eq (exclude seen : List String) (params : List (String × String)) :
    namesAfter exclude seen params =
      ((params.map (·.1)).filter fun name => name ∉ exclude ∧ name ∉ seen).eraseDups := by
  induction params generalizing seen with
  | nil => rfl
  | cons pair params ih =>
      rw [namesAfter, List.map_cons]
      by_cases hout : pair.1 ∈ exclude ∨ pair.1 ∈ seen
      · rw [if_pos (by simpa using hout), ih,
          List.filter_cons_of_neg (by simpa [Decidable.or_iff_not_imp_left] using hout)]
      · rw [if_neg (by simpa using hout), ih,
          List.filter_cons_of_pos (by simpa using hout), List.eraseDups_cons, List.filter_filter]
        congr 2
        apply List.filter_congr
        intro name _
        -- A name is new after this one if it is another name and was new before.
        rw [Bool.eq_iff_iff]
        simp only [List.mem_cons, not_or, decide_eq_true_eq, Bool.and_eq_true, Bool.not_eq_true',
          beq_eq_false_iff_ne]
        exact and_left_comm

theorem carries_params (r : Request) : r.Carries r.params where
  valueD_eq name default := by rw [valueD, value?_eq]
  has_iff name := by simp [has]
  names_eq exclude := by simp [names, namesAfter_eq]

theorem Carries.names_eq_nil_iff {r : Request} (h : r.Carries pairs) (exclude : List String) :
    r.names exclude = [] ↔ ∀ pair ∈ pairs, pair.1 ∈ exclude := by
  rw [h.names_eq, List.eq_nil_iff_forall_not_mem]
  simp only [List.mem_eraseDups, List.mem_filter, List.mem_map, decide_eq_true_eq, not_and,
    Decidable.not_not, forall_exists_index, and_imp, forall_apply_eq_imp_iff₂]

/-- Parameters survive the request. A server, a path and parameters in percent code make a URL.
The request for it has this path and asks for this URL, and its accessors tell what was sent. It
has extra parameters unless all of them are called `title` or `action`. -/
theorem get_carries_queryOf {url : String} (hserver : IsServer server.toList)
    (hhead : path.toList.head? = some '/') (hquery : '?' ∉ path.toList) (hpairs : pairs ≠ [])
    (hurl : url = server ++ path ++ "?" ++ queryOf colonBroken pairs) :
    (get url).path = path ∧ (get url).fullUrl = url ∧ (get url).Carries pairs ∧
      ((Redirect.Snapshot.ofRequest (get url)).extraParams = [] ↔
        ∀ pair ∈ pairs, pair.1 = "title" ∨ pair.1 = "action") := by
  have hget : get url = ⟨"GET", server, path, queryOf colonBroken pairs, pairs⟩ := by
    rw [hurl, get_of_queryOf hserver hhead hquery]
  have hcarries := carries_params (get url)
  rw [hget] at hcarries ⊢
  refine ⟨rfl, ?_, hcarries, ?_⟩
  · have hne : (queryOf colonBroken pairs).isEmpty = false := by
      rw [Bool.eq_false_iff, Ne, String.isEmpty_iff, ← String.toList_eq_nil_iff]
      exact toList_queryOf_ne_nil hpairs
    rw [fullUrl, if_neg (by simp [hne]), ← String.append_assoc, hurl]
  · refine (hcarries.names_eq_nil_iff ["action", "title"]).trans ?_
    simp [or_comm]

/-- Separators, signs of the code itself and nothing at all, as names and as values. -/
theorem get_carries_separators :
    let url := "http://localhost" ++ "/index.php" ++ "?" ++
      queryOf true [("a&b", "c=d"), ("", "%41+ #"), ("title", "Talk:?"), ("a&b", "")]
    (get url).path = "/index.php" ∧ (get url).fullUrl = url ∧
      (get url).Carries [("a&b", "c=d"), ("", "%41+ #"), ("title", "Talk:?"), ("a&b", "")] ∧
      ((Redirect.Snapshot.ofRequest (get url)).extraParams = [] ↔
        ∀ pair ∈ [("a&b", "c=d"), ("", "%41+ #"), ("title", "Talk:?"), ("a&b", "")],
          pair.1 = "title" ∨ pair.1 = "action") := by
  have hserver : IsServer "http://localhost".toList :=
    ⟨"http".toList, "localhost".toList, by decide, by decide⟩
  exact get_carries_queryOf hserver (by decide) (by decide) (List.cons_ne_nil _ _) rfl

end WikiEntry.Request
