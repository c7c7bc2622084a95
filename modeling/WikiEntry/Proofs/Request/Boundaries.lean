import WikiEntry.Proofs.Percent.Decoding
import WikiEntry.Proofs.Request.Split

/-!
# Where a request takes its URL apart

The host of a URL is looked for up to the first slash, and the query after that. So a query may
hold slashes, question marks and whole URLs as long as a path stands before it: the slash at which
the path starts is the first one. Without a path the first slash is one of the query, or there is
none, and what stands before it is lost to the server.

The parameters that are found then are never those of the query, unless it has none. They are those
of a part of the query, and the parameter in which this part begins is larger in the whole.
-/

namespace WikiEntry.Request

open Text

variable {scheme front back query piece : List Char} {s : Char}

/-! ### Servers -/

theorem cutWord?_scheme (hscheme : ':' ∉ scheme) (rest : List Char) :
    cutWord? [':', '/', '/'] (scheme ++ [':', '/', '/'] ++ rest) = some (scheme, rest) := by
  induction scheme with
  | nil => rfl
  | cons c scheme ih =>
      have hne : ':' ≠ c := fun he => hscheme (he ▸ List.mem_cons_self)
      rw [List.cons_append, List.cons_append, cutWord?, after?, if_neg hne,
        ih fun hmem => hscheme (List.mem_cons_of_mem c hmem)]
      rfl

/-! ### The size of a parameter -/

/-- The characters that end a path and a name belong to no escape and are read as they stand. -/
theorem ends_of_mem (hs : s ∈ ['?', '=']) :
    Percent.hexValue? s = none ∧ s ≠ '%' ∧ s.toNat < 128 ∧ s ≠ '+' := by
  simp only [List.mem_cons, List.not_mem_nil, or_false] at hs
  rcases hs with rfl | rfl <;> decide

theorem decodePart_le (part : List Char) :
    (decodePart part).utf8ByteSize ≤ (String.ofList (exchange '+' ' ' part)).utf8ByteSize := by
  rw [decodePart]
  cases hdecode : Percent.decode? (String.ofList (exchange '+' ' ' part)) with
  | none => exact Nat.le_refl _
  | some text => exact Percent.utf8ByteSize_le_of_decode? hdecode

/-- What stands before a question mark or an equals sign makes a name or a value larger, also if
it spoils the percent code. -/
theorem decodePart_lt (hs : s ∈ ['?', '=']) (front back : List Char) :
    (decodePart back).utf8ByteSize < (decodePart (front ++ s :: back)).utf8ByteSize := by
  obtain ⟨hhex, hpercent, hascii, hplus⟩ := ends_of_mem hs
  have hspaced : exchange '+' ' ' (front ++ s :: back) =
      exchange '+' ' ' front ++ s :: exchange '+' ' ' back := by
    simp [exchange, hplus]
  conv =>
    rhs
    rw [decodePart, hspaced]
  cases hdecode : Percent.decode? (String.ofList
      (exchange '+' ' ' front ++ s :: exchange '+' ' ' back)) with
  | none => exact Nat.lt_of_le_of_lt (decodePart_le back) (Percent.utf8ByteSize_ofList_lt _ _ _)
  | some text =>
      obtain ⟨first, second, -, hsecond, htext⟩ :=
        (Percent.decode?_append_cons_eq_some_iff hhex hpercent hascii).mp hdecode
      have hback : decodePart back = String.ofList second.toList := by
        rw [decodePart, hsecond, Option.getD_some, String.ofList_toList]
      rw [hback, Option.getD_some, ← String.ofList_toList (s := text), htext]
      exact Percent.utf8ByteSize_ofList_lt _ _ _

/-- A piece of a query with a name and a value. -/
theorem parameter_append_cons {name : List Char} (hname : '=' ∉ name) (value : List Char) :
    parameter (name ++ '=' :: value) = (decodePart name, decodePart value) := by
  rw [parameter, cut?_append_of_not_mem hname]
  rfl

theorem parameter_of_not_mem (h : '=' ∉ piece) : parameter piece = (decodePart piece, "") := by
  rw [parameter, cut?_of_not_mem h]
  rfl

theorem parameter_snd_le (piece : List Char) :
    (parameter piece).2.utf8ByteSize ≤ (decodePart piece).utf8ByteSize := by
  by_cases hsign : '=' ∈ piece
  · obtain ⟨name, value, rfl, hname⟩ := List.eq_append_cons_of_mem hsign
    rw [parameter_append_cons hname]
    exact Nat.le_of_lt (decodePart_lt (by decide) name value)
  · rw [parameter_of_not_mem hsign]
    exact Nat.zero_le _

/-- A parameter is not the one that is read from a part of it. -/
theorem parameter_append_cons_ne (front back : List Char) :
    parameter (front ++ '?' :: back) ≠ parameter back := by
  have hlt (front back : List Char) :
      (decodePart back).utf8ByteSize < (decodePart (front ++ '?' :: back)).utf8ByteSize :=
    decodePart_lt (by decide) front back
  intro heq
  by_cases hfront : '=' ∈ front
  · -- The name ends before the part, so the part lies in the value.
    obtain ⟨name, value, rfl, hname⟩ := List.eq_append_cons_of_mem hfront
    rw [List.append_assoc, List.cons_append, parameter_append_cons hname] at heq
    have hle := parameter_snd_le back
    rw [← heq] at hle
    exact Nat.not_lt_of_le hle (hlt value back)
  · by_cases hback : '=' ∈ back
    · obtain ⟨name, value, rfl, hname⟩ := List.eq_append_cons_of_mem hback
      have hwhole : '=' ∉ front ++ '?' :: name := by simp [hfront, hname]
      rw [← List.cons_append, ← List.append_assoc, parameter_append_cons hwhole,
        parameter_append_cons hname] at heq
      have hlt' := hlt front name
      rw [(Prod.mk.inj heq).1] at hlt'
      exact Nat.lt_irrefl _ hlt'
    · have hwhole : '=' ∉ front ++ '?' :: back := by simp [hfront, hback]
      rw [parameter_of_not_mem hwhole, parameter_of_not_mem hback] at heq
      have hlt' := hlt front back
      rw [(Prod.mk.inj heq).1] at hlt'
      exact Nat.lt_irrefl _ hlt'

/-! ### Queries and their ends -/

theorem parameters_append (front back : List Char) :
    parameters (front ++ '&' :: back) = parameters front ++ parameters back := by
  unfold parameters
  rw [pieces_append_cons (by simp), List.filter_append, List.map_append]

/-- What stands before a query up to an ampersand goes into its first piece. -/
theorem exists_first_piece (query : List Char) :
    ∃ first more, (first = [] → parameters query = more) ∧
      ∀ front, '&' ∉ front → front ++ first ≠ [] →
        parameters (front ++ query) = parameter (front ++ first) :: more := by
  by_cases hamp : '&' ∈ query
  · obtain ⟨first, rest, rfl, hfirst⟩ := List.eq_append_cons_of_mem hamp
    refine ⟨first, parameters rest, ?_, fun front hfront hne => ?_⟩
    · rintro rfl
      exact parameters_append [] rest
    · have hpiece : '&' ∉ front ++ first := by simp [hfront, hfirst]
      rw [← List.append_assoc, parameters_append_cons hpiece hne]
  · refine ⟨query, [], ?_, fun front hfront hne => ?_⟩
    · rintro rfl
      rfl
    · exact parameters_of_piece (by simp [hfront, hamp]) hne

theorem parameters_eq_nil_iff : parameters query = [] ↔ ∀ c ∈ query, c = '&' := by
  induction query with
  | nil => simp [parameters, pieces]
  | cons c query ih =>
      by_cases hc : c = '&'
      · subst hc
        rw [← List.nil_append ('&' :: query), parameters_append]
        simpa [parameters, pieces] using ih
      · obtain ⟨first, more, -, hfirst⟩ := exists_first_piece query
        have hcons := hfirst [c] (by simpa using Ne.symm hc) (List.cons_ne_nil _ _)
        rw [List.singleton_append] at hcons
        simp [hcons, hc]

/-- A part that begins within the first piece of a query: the piece makes the difference. -/
theorem parameters_ne_of_not_mem (hfront : '&' ∉ front) (back : List Char) :
    (parameters back).length ≤ (parameters (front ++ '?' :: back)).length ∧
      parameters (front ++ '?' :: back) ≠ parameters back := by
  obtain ⟨first, more, hnil, hfirst⟩ := exists_first_piece back
  have hwhole : parameters (front ++ '?' :: back) =
      parameter (front ++ '?' :: first) :: more := by
    have hpiece : '&' ∉ front ++ ['?'] := by simpa using hfront
    simpa using hfirst (front ++ ['?']) hpiece (by simp)
  rw [hwhole]
  by_cases hempty : first = []
  · rw [hnil hempty]
    exact ⟨Nat.le_succ _, List.cons_ne_self _ _⟩
  · have hback : parameters back = parameter first :: more :=
      hfirst [] List.not_mem_nil (by simpa using hempty)
    rw [hback]
    exact ⟨Nat.le_refl _, fun heq => parameter_append_cons_ne front first (List.cons.inj heq).1⟩

/-- A query does not have the parameters of a part of it: it has at least as many, and if it has no
more, the one in which the part begins is another one. -/
theorem parameters_ne (front back : List Char) :
    (parameters back).length ≤ (parameters (front ++ '?' :: back)).length ∧
      parameters (front ++ '?' :: back) ≠ parameters back := by
  -- The induction takes the pieces before the one in which the part begins.
  induction hlength : front.length using Nat.strongRecOn generalizing front with
  | ind length ih =>
      by_cases hamp : '&' ∈ front
      · obtain ⟨piece, rest, rfl, -⟩ := List.eq_append_cons_of_mem hamp
        obtain ⟨hle, hne⟩ := ih rest.length (by simp at hlength; omega) rest rfl
        rw [List.append_assoc, List.cons_append, parameters_append]
        refine ⟨by rw [List.length_append]; omega, fun heq => hne ?_⟩
        have hnone : parameters piece = [] := by
          have hsame := congrArg List.length heq
          rw [List.length_append] at hsame
          exact List.length_eq_zero_iff.mp (by omega)
        rwa [hnone, List.nil_append] at heq
      · exact parameters_ne_of_not_mem hamp back

/-! ### URLs without a path -/

section Pathless

variable {host : List Char} {url : String}

/-- The first slash of the query is taken for the end of the host. -/
theorem cutServer_of_pathless (hscheme : ':' ∉ scheme) (hhost : '/' ∉ host) (query : List Char) :
    cutServer (scheme ++ [':', '/', '/'] ++ (host ++ '?' :: query)) =
      (scheme ++ [':', '/', '/'] ++ (host ++ '?' :: query.takeWhile fun c => c ≠ '/'),
        query.dropWhile fun c => c ≠ '/') := by
  have hfree : '/' ∉ host ++ ['?'] := by simpa using hhost
  have hsplit : host ++ '?' :: query = (host ++ ['?']) ++ query := by simp
  rw [cutServer_of_cutWord? (cutWord?_scheme hscheme _), hsplit,
    List.takeWhile_append_of_pos (decide_ne_of_not_mem hfree),
    List.dropWhile_append_of_pos (decide_ne_of_not_mem hfree), List.append_assoc host,
    List.singleton_append]

/-- Then a request has no parameters, or those of a part of the query. -/
theorem params_of_pathless (hscheme : ':' ∉ scheme) (hhost : '/' ∉ host)
    (hurl : url.toList = scheme ++ [':', '/', '/'] ++ (host ++ '?' :: query)) :
    (get url).params = [] ∨
      ∃ front back, query = front ++ '?' :: back ∧ (get url).params = parameters back := by
  rw [get, hurl, cutServer_of_pathless hscheme hhost]
  dsimp only
  cases hcut : cut? (fun c => c = '?') (query.dropWhile fun c => c ≠ '/') with
  | none => exact .inl rfl
  | some parts =>
      obtain ⟨path, back⟩ := parts
      obtain ⟨c, hc, hrest, -⟩ := cut?_eq_some hcut
      obtain rfl : c = '?' := by simpa using hc
      refine .inr ⟨(query.takeWhile fun c => c ≠ '/') ++ path, back, ?_, rfl⟩
      rw [List.append_assoc, ← hrest, List.takeWhile_append_dropWhile]

/-- Without a slash in the query all of it is taken for the host. -/
theorem get_of_pathless_of_not_mem (hscheme : ':' ∉ scheme) (hhost : '/' ∉ host)
    (hquery : '/' ∉ query)
    (hurl : url.toList = scheme ++ [':', '/', '/'] ++ (host ++ '?' :: query)) :
    (get url).path = "/" ∧ (get url).params = [] := by
  rw [get, hurl, cutServer_of_pathless hscheme hhost, dropWhile_ne_of_not_mem hquery]
  exact ⟨rfl, rfl⟩

end Pathless

/-! ### Boundaries -/

/-- A request finds the path and the parameters of its URL, whatever the query holds, if there is a
path. If there is none, it finds a slash for it and the parameters only if there are none: if the
query is nothing but ampersands. -/
theorem get_split_iff {scheme host path url : String} (query : String)
    (hscheme : ':' ∉ scheme.toList) (hhost : '/' ∉ host.toList)
    (hpath : path = "" ∨ path.toList.head? = some '/') (hquery : '?' ∉ path.toList)
    (hurl : url = scheme ++ "://" ++ host ++ path ++ "?" ++ query) :
    ((get url).path = (if path = "" then "/" else path) ∧
        (get url).params = ((query.toList.splitOn '&').filter (· ≠ [])).map parameter) ↔
      path ≠ "" ∨ ∀ c ∈ query.toList, c = '&' := by
  rw [← pieces_eq_splitOn, ← parameters]
  obtain rfl | hhead := hpath
  · have hurl' : url.toList =
        scheme.toList ++ [':', '/', '/'] ++ (host.toList ++ '?' :: query.toList) := by
      simp [hurl]
    rw [if_pos rfl, ← parameters_eq_nil_iff]
    constructor
    · rintro ⟨-, hparams⟩
      obtain hnone | ⟨front, back, hsplit, hpart⟩ := params_of_pathless hscheme hhost hurl'
      · exact .inr (hparams.symm.trans hnone)
      · rw [hpart, hsplit] at hparams
        exact absurd hparams.symm (parameters_ne front back).2
    · rintro (hne | hnone)
      · exact absurd rfl hne
      · have hslash : '/' ∉ query.toList := fun hmem =>
          absurd (parameters_eq_nil_iff.mp hnone '/' hmem) (by decide)
        rw [hnone]
        exact get_of_pathless_of_not_mem hscheme hhost hslash hurl'
  · have hne : path ≠ "" := by
      rintro rfl
      cases hhead
    have hserver : IsServer (scheme ++ "://" ++ host).toList :=
      ⟨scheme.toList, host.toList, by simpa using cutWord?_scheme hscheme host.toList, hhost⟩
    have hurl' : url.toList =
        (scheme ++ "://" ++ host).toList ++ path.toList ++ '?' :: query.toList := by
      simp [hurl]
    rw [get_of_query hserver hhead hquery hurl', if_neg hne]
    exact ⟨fun _ => .inl hne, fun _ => ⟨String.ofList_toList, rfl⟩⟩

/-- A query with slashes, question marks and another URL in it. -/
theorem get_split_nested :
    let url := "http" ++ "://" ++ "localhost:8080" ++ "/index.php" ++ "?" ++
      "a=//b?c&&u=http://d/e?f=g"
    (':' ∉ "http".toList ∧ '/' ∉ "localhost:8080".toList ∧
        "/index.php".toList.head? = some '/' ∧ '?' ∉ "/index.php".toList) ∧
      (get url).path = "/index.php" ∧
      (get url).params =
        (("a=//b?c&&u=http://d/e?f=g".toList.splitOn '&').filter (· ≠ [])).map parameter := by
  intro url
  have hparts : ':' ∉ "http".toList ∧ '/' ∉ "localhost:8080".toList ∧
      "/index.php".toList.head? = some '/' ∧ '?' ∉ "/index.php".toList := by decide
  have hpath : "/index.php" ≠ "" := by decide
  refine ⟨hparts, ?_⟩
  have hsplit := (get_split_iff "a=//b?c&&u=http://d/e?f=g" hparts.1 hparts.2.1
    (.inr hparts.2.2.1) hparts.2.2.2 (rfl : url = _)).2 (.inl hpath)
  rwa [if_neg hpath] at hsplit

/-- Without a path, a parameter is taken for a part of the host. -/
theorem get_split_lost :
    let url := "http" ++ "://" ++ "localhost" ++ "" ++ "?" ++ "title=Foo"
    (':' ∉ "http".toList ∧ '/' ∉ "localhost".toList ∧ '?' ∉ "localhost".toList ∧
        '#' ∉ "localhost".toList) ∧
      ¬((get url).path = "/" ∧
        (get url).params = (("title=Foo".toList.splitOn '&').filter (· ≠ [])).map parameter) := by
  intro url
  have hparts : ':' ∉ "http".toList ∧ '/' ∉ "localhost".toList ∧ '?' ∉ "localhost".toList ∧
      '#' ∉ "localhost".toList := by decide
  have hslash : '/' ∉ "title=Foo".toList := by decide
  have hurl : url.toList =
      "http".toList ++ [':', '/', '/'] ++ ("localhost".toList ++ '?' :: "title=Foo".toList) := by
    decide
  have hlost := get_of_pathless_of_not_mem hparts.1 hparts.2.1 hslash hurl
  refine ⟨hparts, ?_⟩
  rintro ⟨-, hparams⟩
  rw [hlost.2] at hparams
  exact List.cons_ne_nil _ _ hparams.symm

end WikiEntry.Request
