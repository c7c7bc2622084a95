import Mathlib.Data.List.Dedup
import Mathlib.Data.List.Perm.Basic
import Std.Data.String.ToNat
import WikiEntry.Proofs.Hook.History

/-!
# Deprecated handlers are noticed once

Over the whole life of a wiki, with all the events that handlers run themselves, through whatever
channels and with the handlers of whichever registries, a call gives the notice about its handler if
and only if the handler is deprecated, takes the arguments, and no such call for the same event came
before it with the same identity. The notice is in the log before the code of the handler begins,
and nothing but these calls brings notices into it.
-/

namespace WikiEntry.Hook

section Calls

variable {κ σ : Type}

namespace Call

/-- Whether the code of a deprecated handler begins. -/
def due (c : Call κ σ) : Bool := c.entry.about.deprecatedSince.isSome && c.fits

/-- What a notice is given for. -/
def pair (c : Call κ σ) : String × String := (c.event, c.entry.identity)

/-- Whether no call among earlier ones was due for the same pair. -/
def First (earlier : List (Call κ σ)) (c : Call κ σ) : Prop :=
  ∀ d ∈ earlier, d.due = true → d.pair ≠ c.pair

instance (earlier : List (Call κ σ)) (c : Call κ σ) : Decidable (c.First earlier) :=
  inferInstanceAs (Decidable (∀ d ∈ earlier, d.due = true → d.pair ≠ c.pair))

/-- The notice that the call gives if it comes after others. -/
def notice? (earlier : List (Call κ σ)) (c : Call κ σ) : Option LogLine :=
  if c.due = true ∧ c.First earlier then
    c.entry.about.deprecatedSince.map (.deprecated c.event c.entry.name)
  else none

theorem due_eq {c : Call κ σ} {version : String}
    (h : c.entry.about.deprecatedSince = some version) : c.due = c.fits := by
  simp [due, h]

theorem due_of_none {c : Call κ σ} (h : c.entry.about.deprecatedSince = none) :
    c.due = false := by
  simp [due, h]

theorem notice?_eq_some_iff {earlier : List (Call κ σ)} {c : Call κ σ} {line : LogLine} :
    c.notice? earlier = some line ↔ ∃ version, c.entry.about.deprecatedSince = some version ∧
      c.fits = true ∧ c.First earlier ∧ line = .deprecated c.event c.entry.name version := by
  cases hsince : c.entry.about.deprecatedSince with
  | none => simp [notice?, hsince]
  | some version => simp [notice?, due_eq hsince, hsince, and_assoc, eq_comm (a := line)]

end Call

/-- The notices that calls give one after another, where others came before them. -/
def noticeLines : List (Call κ σ) → List (Call κ σ) → List LogLine
  | _, [] => []
  | earlier, c :: calls => (c.notice? earlier).toList ++ noticeLines (earlier ++ [c]) calls

theorem noticeLines_append (earlier first second : List (Call κ σ)) :
    noticeLines earlier (first ++ second) =
      noticeLines earlier first ++ noticeLines (earlier ++ first) second := by
  induction first generalizing earlier with
  | nil => simp [noticeLines]
  | cons c first ih => simp [noticeLines, ih]

/-- The record of notices after calls. -/
def noticesOf (calls : List (Call κ σ)) : Notices :=
  calls.foldl (fun n c => if c.due then n.mention c.event c.entry.identity else n) {}

theorem noticesOf_concat (calls : List (Call κ σ)) (c : Call κ σ) :
    noticesOf (calls ++ [c]) =
      if c.due then (noticesOf calls).mention c.event c.entry.identity else noticesOf calls := by
  simp [noticesOf]

theorem Notices.mem_given_mention {n : Notices} {event handler : String}
    {p : String × String} :
    p ∈ (n.mention event handler).given ↔ p ∈ n.given ∨ p = (event, handler) := by
  unfold mention mentions
  split
  · rename_i hmentions
    rw [List.contains_iff_mem] at hmentions
    exact ⟨.inl, fun h => h.elim id fun heq => heq ▸ hmentions⟩
  · rw [List.mem_cons, or_comm]

theorem Notices.nodup_given_mention {n : Notices} (h : n.given.Nodup) (event handler : String) :
    (n.mention event handler).given.Nodup := by
  unfold mention mentions
  split
  · exact h
  · rename_i hmentions
    rw [List.contains_iff_mem] at hmentions
    exact List.nodup_cons.mpr ⟨hmentions, h⟩

theorem mem_given_noticesOf {calls : List (Call κ σ)} {p : String × String} :
    p ∈ (noticesOf calls).given ↔ ∃ c ∈ calls, c.due = true ∧ c.pair = p := by
  induction calls using List.reverseRecOn with
  | nil => simp [noticesOf]
  | append_singleton calls c ih =>
      rw [noticesOf_concat]
      cases hdue : c.due with
      | false => simp [ih, hdue, or_and_right, exists_or]
      | true =>
          rw [if_pos rfl, Notices.mem_given_mention, ih]
          simp [hdue, or_and_right, exists_or, Call.pair, eq_comm (a := p)]

theorem nodup_given_noticesOf (calls : List (Call κ σ)) : (noticesOf calls).given.Nodup := by
  induction calls using List.reverseRecOn with
  | nil => exact List.nodup_nil
  | append_singleton calls c ih =>
      rw [noticesOf_concat]
      split
      · exact Notices.nodup_given_mention ih _ _
      · exact ih

theorem count_noticesOf (calls : List (Call κ σ)) :
    (noticesOf calls).count = ((calls.filter Call.due).map Call.pair).dedup.length := by
  refine List.Perm.length_eq ((List.perm_ext_iff_of_nodup (nodup_given_noticesOf calls)
    (List.nodup_dedup _)).mpr fun p => ?_)
  rw [mem_given_noticesOf, List.mem_dedup]
  simp [and_assoc]

/-! ### One call -/

theorem Call.notices_begun (c : Call κ σ) :
    c.begun.world.notices = if c.due then
      c.found.world.notices.mention c.event c.entry.identity else c.found.world.notices := by
  cases hfits : c.fits with
  | false => simp [begun_of_not_fits hfits, due, hfits]
  | true =>
      rw [begun_of_fits hfits]
      cases hsince : c.entry.about.deprecatedSince with
      | none => simp [World.notice_of_none hsince, due_of_none hsince]
      | some version => simp [World.notices_notice hsince, due_eq hsince, hfits]

theorem Call.mentions_iff {c : Call κ σ} {earlier : List (Call κ σ)} :
    (noticesOf earlier).mentions c.event c.entry.identity = true ↔ ¬c.First earlier := by
  rw [Notices.mentions, List.contains_iff_mem, mem_given_noticesOf]
  simp [First, pair]

theorem Call.log_begun {c : Call κ σ} {earlier : List (Call κ σ)}
    (h : c.found.world.notices = noticesOf earlier) :
    c.begun.world.log = c.found.world.log ++ (c.notice? earlier).toList := by
  cases hfits : c.fits with
  | false => simp [begun_of_not_fits hfits, notice?, due, hfits]
  | true =>
      rw [begun_of_fits hfits]
      cases hsince : c.entry.about.deprecatedSince with
      | none => simp [World.notice_of_none hsince, notice?, hsince]
      | some version =>
          simp only [World.log_notice hsince, h, mentions_iff, notice?, due_eq hsince, hfits,
            true_and, hsince, ite_not]
          split <;> simp

/-- Calls that find the record of notices as the calls before them left it. -/
def FoundAfter : List (Call κ σ) → List (Call κ σ) → Prop
  | _, [] => True
  | earlier, c :: calls =>
    c.found.world.notices = noticesOf earlier ∧ FoundAfter (earlier ++ [c]) calls

theorem foundAfter_append (earlier first second : List (Call κ σ)) :
    FoundAfter earlier (first ++ second) ↔
      FoundAfter earlier first ∧ FoundAfter (earlier ++ first) second := by
  induction first generalizing earlier with
  | nil => simp [FoundAfter]
  | cons c first ih => simp [FoundAfter, ih, and_assoc]

/-- What the books know after calls, if they stand as earlier calls left them: the record of
notices, the notices in the log, and what the calls found. -/
structure Books (earlier calls : List (Call κ σ)) (s after : Scene κ σ) : Prop where
  notices : after.world.notices = noticesOf (earlier ++ calls)
  log : after.world.log.filter LogLine.isNotice =
    s.world.log.filter LogLine.isNotice ++ noticeLines earlier calls
  found : FoundAfter earlier calls

theorem Books.of_eq {earlier : List (Call κ σ)} {s after : Scene κ σ}
    (h : s.world.notices = noticesOf earlier) (hnotices : after.world.notices = s.world.notices)
    (hlog : after.world.log.filter LogLine.isNotice = s.world.log.filter LogLine.isNotice) :
    Books earlier [] s after where
  notices := by rw [List.append_nil, hnotices, h]
  log := by rw [hlog, noticeLines, List.append_nil]
  found := trivial

theorem Books.of_call {c : Call κ σ} {earlier : List (Call κ σ)}
    (h : c.found.world.notices = noticesOf earlier) : Books earlier [c] c.found c.begun where
  notices := by rw [c.notices_begun, noticesOf_concat, h]
  log := by
    have hlines : (c.notice? earlier).toList.filter LogLine.isNotice =
        (c.notice? earlier).toList := by
      refine List.filter_eq_self.mpr fun line hline => ?_
      obtain ⟨version, -, -, -, rfl⟩ :=
        Call.notice?_eq_some_iff.mp (Option.mem_toList.mp hline)
      rfl
    rw [Call.log_begun h, List.filter_append, hlines, noticeLines, noticeLines, List.append_nil]
  found := ⟨h, trivial⟩

theorem Books.append {earlier first second : List (Call κ σ)} {s s' after : Scene κ σ}
    (h : Books earlier first s s') (h' : Books (earlier ++ first) second s' after) :
    Books earlier (first ++ second) s after where
  notices := by rw [h'.notices, List.append_assoc]
  log := by rw [h'.log, h.log, noticeLines_append, List.append_assoc]
  found := (foundAfter_append _ _ _).mpr ⟨h.found, h'.found⟩

end Calls

variable {σ : Type}

-- The earlier calls are bound inside, so that the books of two stretches can be put together.
theorem course_books : Course (σ := σ) fun s calls after =>
    ∀ earlier, s.world.notices = noticesOf earlier → Books earlier calls s after where
  stays _ _ h := .of_eq h rfl rfl
  joins h h' earlier hs := (h earlier hs).append (h' _ (h earlier hs).notices)
  puts _ _ _ _ h := .of_eq h rfl rfl
  remembers _ _ _ h := .of_eq h rfl rfl
  changes s place c _ h := .of_eq h (by simp [World.change]) (by simp [World.change])
  reports s line hline _ h := .of_eq h rfl (by simp [Scene.report, World.report, hline])
  calls _ _ h := .of_call h
  nests h earlier hs := ⟨(h earlier hs).notices, (h earlier hs).log, (h earlier hs).found⟩

theorem course_nextId : Course (σ := σ) fun s _ after =>
    s.world.registry.nextId ≤ after.world.registry.nextId where
  stays _ := le_rfl
  joins := le_trans
  puts _ _ _ := le_rfl
  remembers _ _ := le_rfl
  changes s place c := by
    rw [World.change, World.nextId_withRegistry, Registry.change_nextId, World.nextId_registryOf]
    exact Nat.le_add_right _ _
  reports _ _ _ := le_rfl
  calls c := by
    have hsame : c.begun.world.registry = c.found.world.registry :=
      congrFun c.registryOf_begun .own
    exact (congrArg Registry.nextId hsame).ge
  nests h := h

/-! ### The life of a wiki -/

/-- What happens to a wiki from outside: a registry is changed, an event is run through some
channel, or a registry takes a place, where the numbers of registrations go on. -/
inductive Deed (σ : Type) where
  | change (place : Place) (c : Change (Code σ))
  | run (depth : Nat) (c : Channel) (manner : Manner) (event : String) (args : Arguments)
  | start (place : Place) (registry : Registry (Code σ))

namespace Deed

def perform (w : World (Code σ) σ) : Deed σ → World (Code σ) σ
  | change place c => w.change place c
  | run depth c manner event args => (dispatchWithin depth c manner event ⟨w, args⟩).2.world
  | start place registry =>
    w.withRegistry { registry with nextId := max w.registry.nextId registry.nextId } place

def calls (w : World (Code σ) σ) : Deed σ → List (Call (Code σ) σ)
  | change .. | start .. => []
  | run depth c manner event args => callsWithin depth c manner event ⟨w, args⟩

end Deed

def World.after (w : World (Code σ) σ) (deeds : List (Deed σ)) : World (Code σ) σ :=
  deeds.foldl Deed.perform w

/-- All calls to which deeds lead, in the order in which they begin. -/
def World.history (w : World (Code σ) σ) : List (Deed σ) → List (Call (Code σ) σ)
  | [] => []
  | deed :: deeds => deed.calls w ++ (deed.perform w).history deeds

theorem Course.history
    {R : Scene (Code σ) σ → List (Call (Code σ) σ) → Scene (Code σ) σ → Prop} (hR : Course R)
    (hstart : ∀ (s : Scene (Code σ) σ) (registry : Registry (Code σ)) (place : Place),
      s.world.registry.nextId ≤ registry.nextId →
        R s [] { s with world := s.world.withRegistry registry place })
    (args : Arguments) (deeds : List (Deed σ)) :
    ∀ w : World (Code σ) σ, R ⟨w, args⟩ (w.history deeds) ⟨w.after deeds, args⟩ := by
  induction deeds with
  | nil => exact fun w => hR.stays ⟨w, args⟩
  | cons deed deeds ih =>
      intro w
      suffices hdeed : R ⟨w, args⟩ (deed.calls w) ⟨deed.perform w, args⟩ from
        hR.joins hdeed (ih (deed.perform w))
      cases deed with
      | change place c => exact hR.changes ⟨w, args⟩ place c
      | run depth c manner event given =>
          exact hR.nests (hR.dispatchWithin depth c manner event ⟨w, given⟩)
      | start place registry => exact hstart ⟨w, args⟩ _ place (Nat.le_max_left _ _)

theorem World.after_append (w : World (Code σ) σ) (first second : List (Deed σ)) :
    w.after (first ++ second) = (w.after first).after second :=
  List.foldl_append

theorem World.nextId_after (w : World (Code σ) σ) (deeds : List (Deed σ)) :
    w.registry.nextId ≤ (w.after deeds).registry.nextId :=
  course_nextId.history (fun _ _ _ h => by rwa [nextId_withRegistry]) [] deeds w

/-- A world in which nothing has happened. -/
def World.fresh (registry : Registry (Code σ)) (others : Nat → Registry (Code σ)) (memory : σ) :
    World (Code σ) σ where
  registry := registry
  others := others
  memory := memory

theorem World.books_fresh (registry : Registry (Code σ)) (others : Nat → Registry (Code σ))
    (memory : σ) (deeds : List (Deed σ)) :
    Books [] ((fresh registry others memory).history deeds) ⟨fresh registry others memory, []⟩
      ⟨(fresh registry others memory).after deeds, []⟩ :=
  course_books.history (fun _ _ _ _ _ hs => .of_eq hs (by simp) (by simp)) [] deeds _ [] rfl

def Registry.newest? {κ : Type} (reg : Registry κ) (event : String) : Option (Entry κ) :=
  (reg.registered.of event).getLast?

theorem Registry.newest?_register {κ : Type} (reg : Registry κ) (r : Registration κ) :
    (reg.change (.register r)).newest? r.event =
      some (.ofRegistration r ((reg.registered.of r.event).length + 1) reg.nextId) := by
  simp [newest?, of_change, Change.leaves]

theorem World.newest?_registered {κ : Type} (w : World κ σ) (place : Place) (r : Registration κ) :
    ((w.change place (.register r)).registryOf place).newest? r.event =
      some (.ofRegistration r (((w.registryOf place).registered.of r.event).length + 1)
        w.registry.nextId) := by
  rw [change, registryOf_withRegistry_self, Registry.newest?_register, nextId_registryOf]

theorem Entry.identity_eq_iff_of_unnamed {κ : Type} {e e' : Entry κ} (h : e.about.name = none)
    (h' : e'.about.name = none) : e.identity = e'.identity ↔ e.id = e'.id := by
  rw [identity, identity, h, h', Option.getD_none, Option.getD_none, String.append_right_inj]
  exact Nat.repr_inj

/-- Registrations of one handler are told apart unless it has a name. -/
theorem Entry.identity_ofRegistration_inj {κ : Type} (r : Registration κ)
    {position position' id id' : Nat} (h : id ≠ id') :
    (ofRegistration r position id).identity = (ofRegistration r position' id').identity ↔
      r.about.name.isSome = true := by
  cases hname : r.about.name with
  | some name => simp [identity, ofRegistration, hname]
  | none =>
      have hiff : (ofRegistration r position id).identity =
          (ofRegistration r position' id').identity ↔ id = id' :=
        identity_eq_iff_of_unnamed hname hname
      simp [hiff, h]

/-- How notices about deprecated handlers are given in a world that lives through deeds. Events are
run through any channels, by deeds as by handlers, so the calls are those of handlers of all the
registries. -/
structure Noticed (start : World (Code σ) σ) (deeds : List (Deed σ)) : Prop where
  /-- A call goes on from where its handler begins. -/
  begins (act : Behaviour (Code σ) σ) (position : Nat) (c : Call (Code σ) σ) :
    (call act c.event position c.entry c.found).2 =
      if c.fits then (act c.entry.body c.begun).2 else c.begun
  /-- By then the log has the notice, if the call gives one, and no other new line. -/
  given {before rest : List (Call (Code σ) σ)} {c : Call (Code σ) σ} :
    start.history deeds = before ++ c :: rest →
      c.begun.world.log = c.found.world.log ++ (c.notice? before).toList
  /-- A call gives a notice if and only if its handler is deprecated and fits, and no such call
  for the same event came before it with the same identity. -/
  given_iff (before : List (Call (Code σ) σ)) (c : Call (Code σ) σ) (line : LogLine) :
    c.notice? before = some line ↔ ∃ version, c.entry.about.deprecatedSince = some version ∧
      c.fits = true ∧
      (∀ d ∈ before, d.entry.about.deprecatedSince.isSome = true → d.fits = true →
        ¬(d.event = c.event ∧ d.entry.identity = c.entry.identity)) ∧
      line = .deprecated c.event c.entry.name version
  /-- A call whose handler does not fit leaves everything as it was. -/
  barred (c : Call (Code σ) σ) : c.fits = false → c.begun = c.found
  /-- No other notices come into the log. -/
  log : (start.after deeds).log.filter LogLine.isNotice = noticeLines [] (start.history deeds)
  /-- As many pairs are recorded as were noticed. -/
  count : (start.after deeds).notices.count =
    (((start.history deeds).filter Call.due).map Call.pair).dedup.length
  /-- A handler that is registered once more, there or elsewhere and whatever happens meanwhile, has
  the same identity if and only if it has a name. -/
  renewed (r : Registration (Code σ)) (place other : Place) (meanwhile : List (Deed σ)) :
    ∃ first second,
      ((start.after (deeds ++ [.change place (.register r)])).registryOf place).newest? r.event =
        some first ∧
      ((start.after (deeds ++ .change place (.register r) :: meanwhile ++
        [.change other (.register r)])).registryOf other).newest? r.event = some second ∧
      (first.identity = second.identity ↔ r.about.name.isSome = true)

theorem World.fresh_noticed (registry : Registry (Code σ)) (others : Nat → Registry (Code σ))
    (memory : σ) (deeds : List (Deed σ)) :
    Noticed (fresh registry others memory) deeds where
  begins act position c := c.snd_call act position
  given {before rest c} hsplit := by
    have hfound := (books_fresh registry others memory deeds).found
    rw [hsplit, foundAfter_append] at hfound
    exact Call.log_begun hfound.2.1
  given_iff before c line := by
    simp only [Call.notice?_eq_some_iff, Call.First, Call.due, Call.pair, Bool.and_eq_true,
      and_imp, ne_eq, Prod.mk.injEq]
  barred _ := Call.begun_of_not_fits
  log := (books_fresh registry others memory deeds).log
  count := by
    rw [← count_noticesOf, (books_fresh registry others memory deeds).notices, List.nil_append]
  renewed r place other meanwhile := by
    rw [after_append, after_append]
    refine ⟨_, _, newest?_registered _ place r, newest?_registered _ other r, ?_⟩
    refine Entry.identity_ofRegistration_inj r (Nat.ne_of_lt ?_)
    rw [after_append]
    refine Nat.lt_of_lt_of_le ?_ (nextId_after _ meanwhile)
    change _ < (((fresh registry others memory).after deeds).change place
      (.register r)).registry.nextId
    rw [change, nextId_withRegistry, Registry.change_nextId, nextId_registryOf]
    exact Nat.lt_succ_self _

end WikiEntry.Hook
