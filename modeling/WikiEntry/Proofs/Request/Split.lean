import WikiEntry.Proofs.Percent
import WikiEntry.Proofs.Text.Pieces
import WikiEntry.Request

/-!
# Requests for URLs of the wiki

A URL that was put together from a server, a path and a query comes apart into the same parts,
as long as the parts hold none of the characters at which URLs are cut.
-/

namespace WikiEntry.Request

open Text

variable {server path query piece : List Char} {url : String}

/-- Whether a server is a scheme, `://` and a host, with no path after the host. -/
def IsServer (server : List Char) : Prop :=
  ∃ scheme host, cutWord? [':', '/', '/'] server = some (scheme, host) ∧ '/' ∉ host

/-- The host is what stands before the first slash after the scheme. -/
theorem cutServer_of_cutWord? {scheme rest url : List Char}
    (h : cutWord? [':', '/', '/'] url = some (scheme, rest)) :
    cutServer url =
      (scheme ++ [':', '/', '/'] ++ rest.takeWhile (fun c => c ≠ '/'),
        rest.dropWhile fun c => c ≠ '/') := by
  have hdrop : (rest.takeWhile (fun c => decide (c ≠ '/')) ++
      rest.dropWhile fun c => decide (c ≠ '/')).drop
        (rest.takeWhile fun c => decide (c ≠ '/')).length =
      rest.dropWhile fun c => decide (c ≠ '/') := List.drop_left
  rw [List.takeWhile_append_dropWhile] at hdrop
  rw [cutServer, h]
  dsimp only
  rw [hdrop]

theorem cutServer_append (hserver : IsServer server) (rest : List Char) :
    cutServer (server ++ '/' :: rest) = (server, '/' :: rest) := by
  obtain ⟨scheme, host, hcut, hhost⟩ := hserver
  have heq := cutWord?_eq_some hcut
  have hwhole := cutWord?_append hcut ('/' :: rest)
  rw [cutServer, hwhole]
  dsimp only
  rw [takeWhile_ne_append hhost, List.drop_left, heq]

theorem get_of_path (hserver : IsServer server) (hhead : path.head? = some '/')
    (hquery : '?' ∉ path) (hurl : url.toList = server ++ path) :
    get url = ⟨"GET", String.ofList server, String.ofList path, "", []⟩ := by
  obtain ⟨rest, rfl⟩ := List.head?_eq_some_iff.1 hhead
  rw [get, hurl, cutServer_append hserver]
  dsimp only
  rw [cut?_of_not_mem hquery]
  simp [parameters, pieces]

theorem get_of_query (hserver : IsServer server) (hhead : path.head? = some '/')
    (hquery : '?' ∉ path) (hurl : url.toList = server ++ path ++ '?' :: query) :
    get url =
      ⟨"GET", String.ofList server, String.ofList path, String.ofList query,
        parameters query⟩ := by
  obtain ⟨rest, rfl⟩ := List.head?_eq_some_iff.1 hhead
  rw [get, hurl, List.append_assoc, List.cons_append, cutServer_append hserver, ← List.cons_append]
  dsimp only
  rw [cut?_append_of_not_mem hquery]
  simp

/-! ### Queries -/

theorem parameters_of_piece (hpiece : '&' ∉ piece) (hne : piece ≠ []) :
    parameters piece = [parameter piece] := by
  rw [parameters, pieces_of_forall (decide_eq_of_not_mem hpiece),
    List.filter_cons_of_pos (by simpa using hne)]
  rfl

theorem parameters_append_cons (hpiece : '&' ∉ piece) (hne : piece ≠ []) (rest : List Char) :
    parameters (piece ++ '&' :: rest) = parameter piece :: parameters rest := by
  have hself := parameters_of_piece hpiece hne
  unfold parameters at hself ⊢
  rw [pieces_append_cons (by simp), List.filter_append, List.map_append, hself,
    List.singleton_append]

theorem decodePart_encodeChars (colonBroken : Bool) (text : List Char) :
    decodePart (Percent.encodeChars colonBroken text) = String.ofList text := by
  have hplus : '+' ∉ Percent.encodeChars colonBroken text :=
    Percent.not_mem_encodeChars (by decide) text
  rw [decodePart, exchange_of_not_mem hplus, Percent.decode?_encodeChars, Option.getD_some]

/-- A parameter as it stands in a query. -/
def written (colonBroken : Bool) (pair : String × String) : String :=
  Percent.encode pair.1 colonBroken ++ "=" ++ Percent.encode pair.2 colonBroken

theorem toList_written (colonBroken : Bool) (pair : String × String) :
    (written colonBroken pair).toList = Percent.encodeChars colonBroken pair.1.toList ++
      '=' :: Percent.encodeChars colonBroken pair.2.toList := by
  simp [written, Percent.encode]

/-- The first equals sign of a written parameter is the one between name and value. -/
theorem parameter_written (colonBroken : Bool) (pair : String × String) :
    parameter (written colonBroken pair).toList = pair := by
  have hname : '=' ∉ Percent.encodeChars colonBroken pair.1.toList :=
    Percent.not_mem_encodeChars (by decide) _
  rw [parameter, toList_written, cut?_append_of_not_mem hname]
  simp [decodePart_encodeChars]

/-- The title in the query of a script. -/
theorem parameter_title (colonBroken : Bool) (text : List Char) :
    parameter ("title=".toList ++ Percent.encodeChars colonBroken text) =
      ("title", String.ofList text) := by
  have hname : Percent.encodeChars colonBroken "title".toList = "title".toList := by
    cases colonBroken <;> decide
  have hwritten := parameter_written colonBroken ("title", String.ofList text)
  rw [toList_written] at hwritten
  dsimp only at hwritten
  rw [hname, String.toList_ofList (l := text)] at hwritten
  rw [show "title=".toList = "title".toList ++ ['='] by decide, List.append_assoc,
    List.singleton_append, hwritten]

end WikiEntry.Request
