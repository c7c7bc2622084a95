import Mathlib.Logic.Relation
import WikiEntry.Proofs.Wiki.Usual

/-!
# Redirects in a circle

A redirect is tried out against the handlers that are asked about redirects, but not against those
that rewrite titles when a request comes in. So a client who follows redirects can be sent in a
circle, exactly if rewriting sends titles in a circle. The client asks for URLs in a state of the
wiki that changes on the way; the titles alone decide.
-/

namespace WikiEntry

open Redirect Text

namespace Wiki

variable {w : Wiki} {a : ArticlePath} {table : Namespace.Table} {specials : SpecialPage.Table}
  {rewrite : Title → Title} {x y t : Title}

/-! ### Titles that turn into one another -/

def link (w : Wiki) (table : Namespace.Table) (t : Title) : String :=
  ((w.reader table).fullUrl t "").run

/-- The services of a wiki whose handlers only rewrite the titles of requests. -/
def rewritten (table : Namespace.Table) (specials : SpecialPage.Table) (rewrite : Title → Title) :
    Services Id :=
  .fixed table specials rewrite fun _ title => (true, title)

/-- Whether what `url` names is rewritten to a page of this wiki, and `y` is this page: named and
addressed differently, and good as the target of a redirect. -/
def Turns (w : Wiki) (table : Namespace.Table) (specials : SpecialPage.Table)
    (rewrite : Title → Title) (url : String) (y : Title) : Prop :=
  ∃ title fromPath,
    (w.requestedTitle (rewritten table specials rewrite) (Request.get url)).run =
      (.ok title, fromPath) ∧
    (rewrite title).key.isEmpty = false ∧ (rewrite title).isExternal = false ∧
    y = specials.corrected (rewrite title) ∧
    (snapshot (Request.get url) fromPath).isPlainView = true ∧
    (snapshot (Request.get url) fromPath).title ≠ some ((w.reader table).prefixedKey y).run ∧
    w.link table y ≠ (snapshot (Request.get url) fromPath).url ∧
    ((w.still table specials rewrite fun _ title => (true, title)).returns y
      (w.link table y)).run = .ok true

/-- A request is redirected exactly if what it names turns into something else. -/
theorem run_perform_rewritten_iff {url url' : String} :
    (w.perform (rewritten table specials rewrite) (Request.get url)).run =
        .ok (.redirect y url') ↔
      url' = w.link table y ∧ w.Turns table specials rewrite url y := by
  rw [rewritten, run_perform_eq_redirect_iff]
  constructor
  · rintro ⟨title, fromPath, hread, hfull, hlocal, hdecide⟩
    obtain ⟨_, hview, hsend⟩ := run_decide_eq_redirect_iff.1 hdecide
    obtain ⟨rfl, hnamed, rfl, hmoved, hback⟩ := run_send_eq_redirect_iff.1 hsend
    exact ⟨rfl, title, fromPath, hread, hfull, hlocal, rfl, hview, hnamed, hmoved, hback⟩
  · rintro ⟨rfl, title, fromPath, hread, hfull, hlocal, rfl, hview, hnamed, hmoved, hback⟩
    refine ⟨title, fromPath, hread, hfull, hlocal, run_decide_eq_redirect_iff.2 ⟨rfl, hview, ?_⟩⟩
    exact run_send_eq_redirect_iff.2 ⟨rfl, hnamed, rfl, hmoved, hback⟩

/-- A title of this wiki with its alias put right is the page of a link. -/
theorem page_corrected (hfull : t.key.isEmpty = false) (hlocal : t.isExternal = false) :
    (specials.corrected t).isExternal = false ∧
      ((w.reader table).prefixedKey (specials.corrected t)).run.toList ≠ [] := by
  refine ⟨SpecialPage.Table.isExternal_corrected hlocal, prefixedKey_ne_nil ?_⟩
  refine (SpecialPage.Table.key_corrected hfull).imp_right fun hns => ?_
  rw [hns]
  decide

/-- The same for links that are read as they are written: what the link to `x` says is read and
rewritten, and its page `y` comes back from its prefixed key. -/
def Renames (w : Wiki) (table : Namespace.Table) (specials : SpecialPage.Table)
    (rewrite : Title → Title) (x y : Title) : Prop :=
  ∃ title found,
    ((w.reader table).parse (String.ofList (w.said table x)) Namespace.main).run = .ok title ∧
    (rewrite title).key.isEmpty = false ∧ (rewrite title).isExternal = false ∧
    y = specials.corrected (rewrite title) ∧
    String.ofList (w.said table x) ≠ ((w.reader table).prefixedKey y).run ∧
    w.link table y ≠ w.link table x ∧
    ((w.reader table).parse ((w.reader table).prefixedKey y).run Namespace.main).run = .ok found ∧
    (specials.corrected found).pointingAs y = y

/-- The request for a link names what the link says, if nothing in the article path cuts it. -/
theorem Sited.requestedTitle_link (h : w.Sited a) (hquery : '?' ∉ a.start)
    (hlocal : x.isExternal = false)
    (hne : ((w.reader table).prefixedKey x).run.toList ≠ []) :
    (w.requestedTitle (rewritten table specials rewrite) (Request.get (w.link table x))).run =
        (((w.reader table).parse (String.ofList (w.said table x)) Namespace.main).run,
          some (String.ofList (w.said table x))) ∧
      snapshot (Request.get (w.link table x)) (some (String.ofList (w.said table x))) =
        ⟨"GET", w.link table x, some (String.ofList (w.said table x)), "view", []⟩ := by
  have hvalue : '?' ∉ w.code table x ++ (w.reader table).tail x := by
    intro hmem
    rcases List.mem_append.1 hmem with hmem | hmem
    · exact not_mem_code (by decide) x hmem
    · exact question_not_mem_tail x hmem
  have hfull : w.code table x ++ (w.reader table).tail x ≠ [] :=
    List.append_ne_nil_of_left_ne_nil (code_ne_nil hne) _
  have hurl : (w.link table x).toList = w.titles.server.toList ++
      (a.start ++ (w.code table x ++ (w.reader table).tail x)) := by
    rw [link, h.toList_fullUrl hlocal, List.append_assoc a.start]
  exact ⟨h.requestedTitle_of_path hquery hvalue hfull hurl (decode?_code_tail x),
    h.snapshot_of_path hquery hvalue hurl⟩

/-- A redirect to a page of this wiki comes back if its prefixed key is read as the page, up to
the fragment. -/
theorem Sited.returns_link_iff (h : w.Sited a) (hhash : '#' ∉ a.start)
    (hfull : t.key.isEmpty = false) (hlocal : t.isExternal = false)
    (hy : y = specials.corrected t) :
    ((w.still table specials rewrite fun _ title => (true, title)).returns y
        (w.link table y)).run = .ok true ↔
      ∃ found, ((w.reader table).parse ((w.reader table).prefixedKey y).run Namespace.main).run =
        .ok found ∧ (specials.corrected found).pointingAs y = y := by
  obtain ⟨hhere, hnamed⟩ : y.isExternal = false ∧
      ((w.reader table).prefixedKey y).run.toList ≠ [] := hy ▸ page_corrected hfull hlocal
  have hlink : w.link table y = ((w.reader table).fullUrl y "").run := rfl
  rw [h.returns_fullUrl_iff hhash hhere hnamed hlink]
  constructor
  · rintro ⟨found, hread, hcomes⟩
    refine ⟨found, hread, ?_⟩
    rw [← SpecialPage.Table.corrected_pointingAs]
    exact hcomes rfl
  · rintro ⟨found, hread, hcomes⟩
    refine ⟨found, hread, fun _ => ?_⟩
    change specials.corrected (found.pointingAs y) = y
    rw [SpecialPage.Table.corrected_pointingAs, hcomes]

/-- Without question marks and number signs in the article path, titles turn as they rename. -/
theorem Sited.turns_link_iff (h : w.Sited a) (hquery : '?' ∉ a.start) (hhash : '#' ∉ a.start)
    (hlocal : x.isExternal = false) (hne : ((w.reader table).prefixedKey x).run.toList ≠ []) :
    w.Turns table specials rewrite (w.link table x) y ↔ w.Renames table specials rewrite x y := by
  obtain ⟨hrequested, hsnapshot⟩ := h.requestedTitle_link hquery hlocal hne
  constructor
  · rintro ⟨title, fromPath, hread, hfull, hhere, hy, _, hnamed, hmoved, hreturns⟩
    rw [hrequested] at hread
    obtain ⟨hparse, rfl⟩ := Prod.mk.inj hread
    rw [hsnapshot] at hnamed hmoved
    dsimp only at hnamed hmoved
    obtain ⟨found, hfound, hcomes⟩ := (h.returns_link_iff hhash hfull hhere hy).1 hreturns
    exact ⟨title, found, hparse, hfull, hhere, hy, fun heq => hnamed (congrArg some heq), hmoved,
      hfound, hcomes⟩
  · rintro ⟨title, found, hread, hfull, hhere, hy, hnamed, hmoved, hfound, hcomes⟩
    refine ⟨title, _, hrequested.trans (by rw [hread]), hfull, hhere, hy, ?_, ?_, ?_,
      (h.returns_link_iff hhash hfull hhere hy).2 ⟨found, hfound, hcomes⟩⟩
    · rw [hsnapshot, isPlainView_get]
    · rw [hsnapshot]
      dsimp only
      exact fun heq => hnamed (Option.some.inj heq)
    · rw [hsnapshot]
      exact hmoved

theorem Turns.page {url : String} (h : w.Turns table specials rewrite url y) :
    y.isExternal = false ∧ ((w.reader table).prefixedKey y).run.toList ≠ [] := by
  obtain ⟨title, _, _, hfull, hlocal, rfl, _⟩ := h
  exact page_corrected hfull hlocal

theorem Renames.page (h : w.Renames table specials rewrite x y) :
    y.isExternal = false ∧ ((w.reader table).prefixedKey y).run.toList ≠ [] := by
  obtain ⟨title, _, _, hfull, hlocal, rfl, _⟩ := h
  exact page_corrected hfull hlocal

/-- Two relations that agree on all that either of them leads to have the same cycles. -/
theorem transGen_self_congr {α : Type} {r s : α → α → Prop} {p : α → Prop}
    (hr : ∀ {b c}, r b c → p c) (hs : ∀ {b c}, s b c → p c)
    (hagree : ∀ {b c}, p b → (r b c ↔ s b c)) (b : α) :
    Relation.TransGen r b b ↔ Relation.TransGen s b b := by
  -- The first step of a run need not start where the relations agree, but in a cycle the last
  -- step leads to its start.
  have hcopy : ∀ {r s : α → α → Prop}, (∀ {b c}, r b c → p c) →
      (∀ {b c}, p b → r b c → s b c) → ∀ {b c}, p b → Relation.TransGen r b c →
        p c ∧ Relation.TransGen s b c := by
    intro r s hr hrs b c hb h
    induction h with
    | single h => exact ⟨hr h, .single (hrs hb h)⟩
    | tail _ h ih => exact ⟨hr h, .tail ih.2 (hrs ih.1 h)⟩
  have hend : ∀ {r : α → α → Prop}, (∀ {b c}, r b c → p c) → Relation.TransGen r b b → p b := by
    intro r hr h
    obtain ⟨_, _, hlast⟩ := Relation.TransGen.tail'_iff.1 h
    exact hr hlast
  constructor
  · exact fun h => (hcopy hr (fun hb => (hagree hb).1) (hend hr h) h).2
  · exact fun h => (hcopy hs (fun hb => (hagree hb).2) (hend hs h) h).2

/-! ### Clients who follow redirects -/

section Running

variable {σ : Type} {P : Running σ → Prop} {i : Hook.Invoker}

/-- One redirect that a client follows: the state of the wiki and the URL that the client asks
for, before and after it. -/
def Sends (w : Wiki) (i : Hook.Invoker) (before after : Running σ × String) : Prop :=
  ∃ target, (w.perform (w.services i) (Request.get before.2)).run before.1 =
    (.ok (.redirect target after.2), after.1)

/-- The states and URLs of one step. -/
theorem Follows.sends_iff (h : Follows P (w.services i) (rewritten table specials rewrite))
    {st : Running σ} (hst : P st) {url : String} {after : Running σ × String} :
    w.Sends i (st, url) after ↔
      after.1 = ((w.perform (w.services i) (Request.get url)).run st).2 ∧
        ∃ y, after.2 = w.link table y ∧ w.Turns table specials rewrite url y := by
  obtain ⟨hanswer, _⟩ := h.perform w (Request.get url) st hst
  constructor
  · rintro ⟨y, hrun⟩
    rw [hrun] at hanswer ⊢
    exact ⟨rfl, y, run_perform_rewritten_iff.1 hanswer.symm⟩
  · rintro ⟨hafter, y, hturns⟩
    have hfixed := run_perform_rewritten_iff.2 hturns
    exact ⟨y, Prod.ext (hanswer.trans hfixed) hafter.symm⟩

/-- A run of redirects keeps what the wiki keeps, and follows the titles of its URLs. -/
theorem Follows.turns_of_sends (h : Follows P (w.services i) (rewritten table specials rewrite))
    {before after : Running σ × String} (hbefore : P before.1)
    (hrun : Relation.TransGen (w.Sends i) before after) :
    P after.1 ∧ ∃ y, after.2 = w.link table y ∧ ∀ x, before.2 = w.link table x →
      Relation.TransGen (fun x => w.Turns table specials rewrite (w.link table x)) x y := by
  -- The client may start from any URL, and only where it is sent is known to be a link. So the
  -- title that the start is a link to, if there is one, is asked for last.
  induction hrun with
  | single hstep =>
      obtain ⟨hstate, y, hurl, hturns⟩ := (h.sends_iff hbefore).1 hstep
      refine ⟨hstate ▸ (h.perform w _ _ hbefore).2, y, hurl, fun x hx => .single ?_⟩
      rwa [← hx]
  | tail _ hstep ih =>
      obtain ⟨hkept, y, hurl, hall⟩ := ih
      obtain ⟨hstate, z, hurl', hturns⟩ := (h.sends_iff hkept).1 hstep
      refine ⟨hstate ▸ (h.perform w _ _ hkept).2, z, hurl', fun x hx => .tail (hall x hx) ?_⟩
      rwa [← hurl]

theorem Follows.exists_sends (h : Follows P (w.services i) (rewritten table specials rewrite))
    {st : Running σ} (hst : P st) {url : String} (hturns : w.Turns table specials rewrite url y) :
    ∃ st', P st' ∧ w.Sends i (st, url) (st', w.link table y) := by
  refine ⟨((w.perform (w.services i) (Request.get url)).run st).2,
    (h.perform w (Request.get url) st hst).2, (h.sends_iff hst).2 ⟨?_, y, ?_, hturns⟩⟩
  · rfl
  · rfl

/-- Titles that turn into one another are followed by a run of redirects. -/
theorem Follows.sends_of_turns (h : Follows P (w.services i) (rewritten table specials rewrite))
    {st : Running σ} (hst : P st)
    (hrun : Relation.TransGen (fun x => w.Turns table specials rewrite (w.link table x)) x y) :
    ∃ st', P st' ∧
      Relation.TransGen (w.Sends i) (st, w.link table x) (st', w.link table y) := by
  induction hrun with
  | single hturns =>
      obtain ⟨st', hkept, hsent⟩ := h.exists_sends hst hturns
      exact ⟨st', hkept, .single hsent⟩
  | tail _ hturns ih =>
      obtain ⟨st', hkept, hsent⟩ := ih
      obtain ⟨st'', hkept', hsent'⟩ := h.exists_sends hkept hturns
      exact ⟨st'', hkept', .tail hsent hsent'⟩

theorem Follows.cycle_iff (h : Follows P (w.services i) (rewritten table specials rewrite))
    {st : Running σ} (hst : P st) :
    (∃ url st', Relation.TransGen (w.Sends i) (st, url) (st', url)) ↔
      ∃ t, Relation.TransGen (fun x => w.Turns table specials rewrite (w.link table x)) t t := by
  constructor
  · rintro ⟨url, st', hrun⟩
    obtain ⟨_, t, hurl, hall⟩ := h.turns_of_sends hst hrun
    exact ⟨t, hall t hurl⟩
  · rintro ⟨t, hrun⟩
    obtain ⟨st', _, hsent⟩ := h.sends_of_turns hst hrun
    exact ⟨w.link table t, st', hsent⟩

theorem Sited.turns_cycle_iff (h : w.Sited a) (hquery : '?' ∉ w.titles.articlePath.toList)
    (hhash : '#' ∉ w.titles.articlePath.toList) (t : Title) :
    Relation.TransGen (fun x => w.Turns table specials rewrite (w.link table x)) t t ↔
      Relation.TransGen (w.Renames table specials rewrite) t t := by
  have hstart : ∀ c, c ∉ w.titles.articlePath.toList → c ∉ a.start := fun c hc hmem =>
    hc (ArticlePath.mem_of_mem_start h.template hmem)
  apply transGen_self_congr (p := fun y : Title =>
    y.isExternal = false ∧ ((w.reader table).prefixedKey y).run.toList ≠ [])
  · exact fun hturns => hturns.page
  · exact fun hrenames => hrenames.page
  · exact fun hpage => h.turns_link_iff (hstart _ hquery) (hstart _ hhash) hpage.1 hpage.2

/-- A client is sent in a circle exactly if titles turn in a circle. Where the article path has
no question mark and no number sign, that is if the titles of pages rename each other in a
circle. -/
theorem redirect_cycle_iff (hsite : w.Sited a)
    (h : w.Settled i P table specials rewrite fun _ title => (true, title)) (st : Running σ)
    (hst : P st) :
    ((∃ url st', Relation.TransGen (w.Sends i) (st, url) (st', url)) ↔
      ∃ t, Relation.TransGen (fun x => w.Turns table specials rewrite (w.link table x)) t t) ∧
    ('?' ∉ w.titles.articlePath.toList → '#' ∉ w.titles.articlePath.toList →
      ((∃ url st', Relation.TransGen (w.Sends i) (st, url) (st', url)) ↔
        ∃ t, Relation.TransGen (w.Renames table specials rewrite) t t)) := by
  have hcycle := Follows.cycle_iff h.follows hst
  refine ⟨hcycle, fun hquery hhash => ?_⟩
  rw [hcycle]
  exact exists_congr fun t => hsite.turns_cycle_iff hquery hhash t

end Running

/-! ### Two pages that take each other's place -/

/-- A handler that has the pages `A` and `B` change places. -/
def swapped (title : Title) : Title :=
  if title.key = "A" then Title.make title.ns "B" "" ""
  else if title.key = "B" then Title.make title.ns "A" "" ""
  else title

/-- The usual wiki with that handler, which learns of the title of every request. -/
def swapping : Running Unit :=
  usualRunning (.rewriting Event.beforeInitialize.name .title 0 swapped)

theorem settled_swapping :
    usual.Settled {} (Holds (.rewriting Event.beforeInitialize.name .title 0 swapped :
      Hook.Registry (Hook.Code Unit)) (.plain true) usualPages) (.plain true) usualPages swapped
        fun _ title => (true, title) :=
  settled_of_rewriting usual (by decide) (.plain true) usualPages swapped

theorem link_A : usual.link (.plain true) (Title.make Namespace.main "A" "" "") =
    "http://localhost/wiki/" ++ "A" := usual_fullUrl (by decide) (by decide)

theorem link_B : usual.link (.plain true) (Title.make Namespace.main "B" "" "") =
    "http://localhost/wiki/" ++ "B" := usual_fullUrl (by decide) (by decide)

theorem turns_swapped :
    Relation.TransGen (fun x => usual.Turns (.plain true) usualPages swapped
        (usual.link (.plain true) x))
      (Title.make Namespace.main "A" "" "") (Title.make Namespace.main "A" "" "") := by
  have hA := usual_parse "A" "A" (by decide)
  have hB := usual_parse "B" "B" (by decide)
  have hAB := (run_perform_rewritten_iff.1 (usual_redirects swapped (fun _ title => (true, title))
    (by decide) (by decide) hA (by decide) (by decide) rfl (by decide) (by decide) (by decide)
    (by decide) hB fun _ => rfl)).2
  have hBA := (run_perform_rewritten_iff.1 (usual_redirects swapped (fun _ title => (true, title))
    (by decide) (by decide) hB (by decide) (by decide) rfl (by decide) (by decide) (by decide)
    (by decide) hA fun _ => rfl)).2
  rw [← link_A] at hAB
  rw [← link_B] at hBA
  exact .tail (.single hAB) hBA

/-- The two titles rename each other. -/
theorem redirect_cycle_swapped :
    ∃ t, Relation.TransGen (usual.Renames (.plain true) usualPages swapped) t t := by
  have hst := holds_usualRunning (.rewriting Event.beforeInitialize.name .title 0 swapped)
  have hsent := (settled_swapping.follows.cycle_iff hst).2 ⟨_, turns_swapped⟩
  exact ((redirect_cycle_iff usual_sited settled_swapping _ hst).2 (by decide) (by decide)).1 hsent

/-- A client who asks for `A` is sent to `B`, and from there back to `A`. -/
theorem redirect_cycle_followed : usual.Sited usualPath ∧
    swapping.world.registry.handlers Event.testCanonicalRedirect.name = [] ∧
    ∃ st', Relation.TransGen (usual.Sends {}) (swapping, "http://localhost/wiki/A")
      (st', "http://localhost/wiki/A") := by
  have hst := holds_usualRunning (.rewriting Event.beforeInitialize.name .title 0 swapped)
  obtain ⟨st', _, hsent⟩ := settled_swapping.follows.sends_of_turns hst turns_swapped
  rw [link_A] at hsent
  exact ⟨usual_sited, Hook.Registry.handlers_rewriting_of_ne (by decide) _ _ _, st', hsent⟩

end Wiki

end WikiEntry
