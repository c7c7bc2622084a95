import Mathlib.Data.List.Basic
import WikiEntry.Hook.Code

/-!
# The turns of a dispatch

A dispatch gives one handler after another its turn. What happens in a turn is the same for both
ways to run an event; they differ in what follows from it: which line the dispatch adds to the
log, and whether the turn ends the dispatch and with which answer. This pair of choices is a
`Rule`, and a list of turns that were played under a rule is a `Play`. Everything that does not
depend on the rule is proved here once: the handlers are those of the list and in its order, each
finds the scene that the one before it left, no turn but the last ends the dispatch, and the log
grows by what came into it during the turns and what the dispatch added after each.
-/

namespace WikiEntry.Hook

variable {κ σ : Type}

/-- How the turn of a handler ends. -/
inductive Ending where
  /-- The handler lets the event go on. -/
  | wentOn
  /-- The handler wants no further handler to run. -/
  | aborted
  /-- The handler wants the event to fail with a message. -/
  | fatal (message : String)
  /-- The handler does not fit the arguments: it takes another number of them, or its code failed
  for want of an argument. -/
  | malformed (reason : ArgumentError)
  /-- The code of the handler failed for any other cause. -/
  | failed (cause : Failure)

/-- The ending that a result of code makes. -/
def Ending.of : Except Failure Outcome → Ending
  | .ok .proceed => wentOn
  | .ok .abort => aborted
  | .ok (.fatal message) => fatal message
  | .error (.argument reason) => malformed reason
  | .error cause => failed cause

/-- The turn of a handler: its position and entry in the list, the scene it found, the scene it
left behind, and how the turn ended. -/
structure Turn (κ σ : Type) where
  position : Nat
  entry : Entry κ
  found : Scene κ σ
  left : Scene κ σ
  ending : Ending

/-- What can happen in a turn. -/
inductive Turn.Played (act : Behaviour κ σ) (event : String) : Turn κ σ → Prop
  /-- A handler that takes another number of arguments is not entered, and the scene stays. -/
  | barred {position : Nat} {entry : Entry κ} {found : Scene κ σ} {arity : Nat}
      (harity : entry.about.arity = some arity) (hother : arity ≠ found.args.length) :
      Played act event
        ⟨position, entry, found, found, .malformed (.arity arity found.args.length)⟩
  /-- Any other handler is entered once the notice about it has been given. -/
  | entered {position : Nat} {entry : Entry κ} {found left : Scene κ σ}
      {result : Except Failure Outcome} (hfits : ∀ arity, entry.about.arity = some arity →
        arity = found.args.length)
      (hact : act entry.body { found with world := found.world.notice event entry } =
        (result, left)) :
      Played act event ⟨position, entry, found, left, .of result⟩

namespace Turn

/-- What a turn answers the dispatch. -/
def answer (event : String) (t : Turn κ σ) : Except DispatchError Outcome :=
  match t.ending with
  | .wentOn => .ok .proceed
  | .aborted => .ok .abort
  | .fatal message => .ok (.fatal message)
  | .malformed reason => .error (.invocation event t.position t.entry.name reason)
  | .failed cause => .error (.handlerFailed event t.position t.entry.name cause)

/-- The lines that came into the log during a turn: the notice about the handler, and what its
code wrote by running events. -/
def wrote (t : Turn κ σ) : List LogLine := t.left.world.log.drop t.found.world.log.length

end Turn

theorem Entry.accepts_iff {e : Entry κ} {count : Nat} :
    e.accepts count = true ↔ ∀ arity, e.about.arity = some arity → arity = count := by
  unfold Entry.accepts
  cases e.about.arity <;> simp

theorem Turn.answer_of (event : String) (position : Nat) (entry : Entry κ) (found left : Scene κ σ)
    (result : Except Failure Outcome) :
    Turn.answer event ⟨position, entry, found, left, .of result⟩ =
      result.mapError (blame event position entry) := by
  match result with
  | .ok .proceed | .ok .abort | .ok (.fatal _) => rfl
  | .error (.argument _) | .error (.dispatch _) | .error (.reason _) => rfl

/-- To call a handler is to play a turn. -/
theorem exists_played (act : Behaviour κ σ) (event : String) (position : Nat) (e : Entry κ)
    (s : Scene κ σ) :
    ∃ t : Turn κ σ, t.Played act event ∧ t.position = position ∧ t.entry = e ∧ t.found = s ∧
      call act event position e s = (t.answer event, t.left) := by
  unfold call
  by_cases hfits : e.accepts s.args.length = true
  · rw [if_pos hfits]
    obtain ⟨⟨result, left⟩, hact⟩ :
        ∃ ended, act e.body { s with world := s.world.notice event e } = ended := ⟨_, rfl⟩
    refine ⟨⟨position, e, s, left, .of result⟩,
      .entered (Entry.accepts_iff.mp hfits) hact, rfl, rfl, rfl, ?_⟩
    rw [Turn.answer_of, hact]
    cases result <;> rfl
  · rw [if_neg hfits]
    -- Without a declared number of arguments the handler would have been accepted.
    cases harity : e.about.arity with
    | none => exact absurd (Entry.accepts_iff.mpr (by simp [harity])) hfits
    | some arity =>
        have hother : arity ≠ s.args.length := fun h =>
          hfits (Entry.accepts_iff.mpr (by simp [harity, h]))
        exact ⟨_, .barred harity hother, rfl, rfl, rfl, rfl⟩

/-! ### Turns one after another -/

/-- Adds a line to the log of a scene, if there is one. -/
def Scene.reportAny (s : Scene κ σ) (line? : Option LogLine) : Scene κ σ :=
  line?.elim s s.report

@[simp] theorem Scene.reportAny_none (s : Scene κ σ) : s.reportAny none = s := rfl

@[simp] theorem Scene.reportAny_some (s : Scene κ σ) (line : LogLine) :
    s.reportAny (some line) = s.report line := rfl

@[simp] theorem Scene.reportAny_log (s : Scene κ σ) (line? : Option LogLine) :
    (s.reportAny line?).world.log = s.world.log ++ line?.toList := by
  cases line? with
  | none => simp
  | some line => rfl

@[simp] theorem Scene.reportAny_args (s : Scene κ σ) (line? : Option LogLine) :
    (s.reportAny line?).args = s.args := by
  cases line? <;> rfl

/-- The turns lead from a scene to another: each is played in the scene that the one before it
left, together with the line that the dispatch adds to the log after it. -/
def InTurn (act : Behaviour κ σ) (event : String) (line? : Turn κ σ → Option LogLine) :
    Scene κ σ → List (Turn κ σ) → Scene κ σ → Prop
  | s, [], after => after = s
  | s, t :: turns, after => t.found = s ∧ t.Played act event ∧
      InTurn act event line? (t.left.reportAny (line? t)) turns after

/-- What a dispatch makes of a turn: the line it adds to the log, and its answer if the turn ends
it. -/
structure Rule (κ σ : Type) where
  line? : Turn κ σ → Option LogLine
  verdict? : Turn κ σ → Option (Except DispatchError Bool)

/-- The turns in which handlers from a position on are played from a scene to another, and the
answer in the end. -/
inductive Play (act : Behaviour κ σ) (event : String) (rule : Rule κ σ) :
    Nat → List (Entry κ) → Scene κ σ → List (Turn κ σ) → Except DispatchError Bool →
      Scene κ σ → Prop
  /-- No handler is left. -/
  | done (position : Nat) (s : Scene κ σ) : Play act event rule position [] s [] (.ok true) s
  /-- The dispatch goes on after a turn. -/
  | goesOn {t : Turn κ σ} {handlers : List (Entry κ)} {turns : List (Turn κ σ)}
      {answer : Except DispatchError Bool} {after : Scene κ σ} (hplayed : t.Played act event)
      (hverdict : rule.verdict? t = none)
      (hrest : Play act event rule (t.position + 1) handlers (t.left.reportAny (rule.line? t))
        turns answer after) :
      Play act event rule t.position (t.entry :: handlers) t.found (t :: turns) answer after
  /-- A turn ends the dispatch. -/
  | stops {t : Turn κ σ} {handlers : List (Entry κ)} {answer : Except DispatchError Bool}
      (hplayed : t.Played act event) (hverdict : rule.verdict? t = some answer) :
      Play act event rule t.position (t.entry :: handlers) t.found [t] answer
        (t.left.reportAny (rule.line? t))

namespace Play

variable {act : Behaviour κ σ} {event : String} {rule : Rule κ σ} {position : Nat}
  {handlers : List (Entry κ)} {s after : Scene κ σ} {turns : List (Turn κ σ)}
  {answer : Except DispatchError Bool}

/-- The handlers that had a turn are the first of the list, each at its position. -/
theorem called (h : Play act event rule position handlers s turns answer after) :
    (turns.map fun t => (t.entry, t.position)) <+: handlers.zipIdx position := by
  induction h with
  | done => exact List.nil_prefix
  | goesOn _ _ _ ih =>
      rw [List.map_cons, List.zipIdx_cons]
      exact (List.prefix_cons_inj _).mpr ih
  | stops =>
      rw [List.map_singleton, List.zipIdx_cons]
      exact (List.prefix_cons_inj _).mpr List.nil_prefix

theorem inTurn (h : Play act event rule position handlers s turns answer after) :
    InTurn act event rule.line? s turns after := by
  induction h with
  | done => rfl
  | goesOn hplayed _ _ ih => exact ⟨rfl, hplayed, ih⟩
  | stops hplayed _ => exact ⟨rfl, hplayed, rfl⟩

theorem verdict?_of_mem_dropLast (h : Play act event rule position handlers s turns answer after) :
    ∀ t ∈ turns.dropLast, rule.verdict? t = none := by
  induction h with
  | done => simp
  | @goesOn t _ turns _ _ _ hverdict _ ih =>
      cases turns with
      | nil => simp
      | cons next rest =>
          rw [List.dropLast_cons_cons]
          exact List.forall_mem_cons.mpr ⟨hverdict, ih⟩
  | stops => simp

/-- If no turn ends the dispatch, every handler has one. -/
theorem length_eq (h : Play act event rule position handlers s turns answer after)
    (hall : ∀ t ∈ turns, rule.verdict? t = none) : turns.length = handlers.length := by
  induction h with
  | done => rfl
  | goesOn _ _ _ ih =>
      rw [List.length_cons, List.length_cons, ih (List.forall_mem_cons.mp hall).2]
  | @stops t _ _ _ hverdict =>
      rw [hall t (List.mem_singleton_self t)] at hverdict
      cases hverdict

theorem answer_eq (h : Play act event rule position handlers s turns answer after) :
    answer = (turns.getLast?.bind rule.verdict?).getD (.ok true) := by
  induction h with
  | done => rfl
  | @goesOn t _ turns _ _ _ hverdict _ ih =>
      rw [ih]
      cases turns with
      | nil => simp [hverdict]
      | cons next rest => rw [List.getLast?_cons_cons]
  | stops _ hverdict => simp [hverdict]

/-- The dispatch answers something of its own only by a verdict on its last turn. -/
theorem answer_eq_iff (h : Play act event rule position handlers s turns answer after)
    {other : Except DispatchError Bool} (hother : other ≠ .ok true) :
    answer = other ↔ ∃ t, turns.getLast? = some t ∧ rule.verdict? t = some other := by
  rw [h.answer_eq]
  cases turns.getLast? with
  | none => simpa using hother.symm
  | some t =>
      cases hverdict : rule.verdict? t with
      | none => simpa [hverdict] using hother.symm
      | some verdict => simp [hverdict]

/-- If no turn can end the dispatch with its agreement, the dispatch agrees only if none ends it. -/
theorem agreed_iff (h : Play act event rule position handlers s turns answer after)
    (hrule : ∀ t, rule.verdict? t ≠ some (.ok true)) :
    answer = .ok true ↔ ∀ t ∈ turns, rule.verdict? t = none := by
  induction h with
  | done => simp
  | goesOn _ hverdict _ ih =>
      rw [ih, List.forall_mem_cons]
      exact ⟨fun h => ⟨hverdict, h⟩, fun h => h.2⟩
  | stops _ hverdict =>
      constructor
      · rintro rfl
        exact absurd hverdict (hrule _)
      · intro hall
        rw [hall _ (List.mem_singleton_self _)] at hverdict
        cases hverdict

end Play

/-! ### The log -/

/-- Code that only adds to the log, as a dispatch does itself. -/
def OnlyAdds (act : Behaviour κ σ) : Prop :=
  ∀ body s, s.world.log <+: (act body s).2.world.log

/-- Code that leaves the log alone. -/
def Silent (act : Behaviour κ σ) : Prop := ∀ body s, (act body s).2.world.log = s.world.log

theorem Silent.onlyAdds {act : Behaviour κ σ} (h : Silent act) : OnlyAdds act :=
  fun body s => (h body s).symm ▸ List.prefix_rfl

theorem World.notice_of_none {w : World κ σ} {event : String} {e : Entry κ}
    (h : e.about.deprecatedSince = none) : w.notice event e = w := by
  simp [notice, h]

theorem World.notices_notice {w : World κ σ} {event version : String} {e : Entry κ}
    (h : e.about.deprecatedSince = some version) :
    (w.notice event e).notices = w.notices.mention event e.identity := by
  simp only [notice, h, Notices.mention]
  split <;> rfl

theorem World.log_notice {w : World κ σ} {event version : String} {e : Entry κ}
    (h : e.about.deprecatedSince = some version) :
    (w.notice event e).log = if w.notices.mentions event e.identity then w.log
      else w.log ++ [.deprecated event e.name version] := by
  simp only [notice, h]
  split <;> rfl

theorem World.notice_log (w : World κ σ) (event : String) (e : Entry κ) :
    (w.notice event e).log = w.log ∨
      ∃ version, e.about.deprecatedSince = some version ∧
        (w.notice event e).log = w.log ++ [.deprecated event e.name version] := by
  cases hdeprecated : e.about.deprecatedSince with
  | none => exact .inl (by rw [notice_of_none hdeprecated])
  | some version =>
      rw [log_notice hdeprecated]
      split
      · exact .inl rfl
      · exact .inr ⟨version, rfl, rfl⟩

namespace Turn

variable {act : Behaviour κ σ} {event : String} {t : Turn κ σ}

theorem Played.log_eq (h : t.Played act event) (hact : OnlyAdds act) :
    t.left.world.log = t.found.world.log ++ t.wrote := by
  suffices hgrows : t.found.world.log <+: t.left.world.log from
    (List.prefix_iff_eq_append.mp hgrows).symm
  cases h with
  | barred => exact List.prefix_rfl
  | @entered position entry found left result hfits hentered =>
      have hadds := hact entry.body { found with world := found.world.notice event entry }
      rw [hentered] at hadds
      refine List.IsPrefix.trans ?_ hadds
      obtain hsame | ⟨version, -, hmore⟩ := found.world.notice_log event entry
      · exact hsame ▸ List.prefix_rfl
      · exact hmore ▸ List.prefix_append ..

theorem Played.wrote_of_silent (h : t.Played act event) (hact : Silent act) :
    t.wrote = [] ∨ ∃ version, t.entry.about.deprecatedSince = some version ∧
      t.wrote = [.deprecated event t.entry.name version] := by
  cases h with
  | barred => exact .inl (by simp [wrote])
  | @entered position entry found left result hfits hentered =>
      have hlog := hact entry.body { found with world := found.world.notice event entry }
      rw [hentered] at hlog
      unfold wrote
      rw [hlog]
      obtain hsame | ⟨version, hversion, hmore⟩ := found.world.notice_log event entry
      · exact .inl (by simp [hsame])
      · exact .inr ⟨version, hversion, by simp [hmore]⟩

end Turn

/-- The log after turns: the log before them, and for each what came into it during the turn and
the line that the dispatch added after it. -/
theorem InTurn.log_eq {act : Behaviour κ σ} {event : String} {line? : Turn κ σ → Option LogLine}
    (hact : OnlyAdds act) {turns : List (Turn κ σ)} :
    ∀ {s after : Scene κ σ}, InTurn act event line? s turns after →
      after.world.log = s.world.log ++ turns.flatMap fun t => t.wrote ++ (line? t).toList := by
  induction turns with
  | nil =>
      rintro s after rfl
      simp
  | cons t turns ih =>
      rintro s after ⟨rfl, hplayed, hrest⟩
      rw [ih hrest, Scene.reportAny_log, hplayed.log_eq hact]
      simp

theorem InTurn.played {act : Behaviour κ σ} {event : String} {line? : Turn κ σ → Option LogLine}
    {turns : List (Turn κ σ)} :
    ∀ {s after : Scene κ σ}, InTurn act event line? s turns after →
      ∀ t ∈ turns, t.Played act event := by
  induction turns with
  | nil => simp
  | cons t turns ih =>
      rintro s after ⟨rfl, hplayed, hrest⟩
      exact List.forall_mem_cons.mpr ⟨hplayed, ih hrest⟩

/-! ### The arguments -/

/-- Whether the handler leaves another argument of kind `k` at `index` than it found. -/
def Turn.Rewrites (k : Kind) (index : Nat) (t : Turn κ σ) : Prop :=
  t.left.args.get k index ≠ t.found.args.get k index

/-- What no turn rewrites is after all turns what it was before them. -/
theorem InTurn.get_eq {act : Behaviour κ σ} {event : String} {line? : Turn κ σ → Option LogLine}
    {k : Kind} {index : Nat} {turns : List (Turn κ σ)} :
    ∀ {s after : Scene κ σ}, InTurn act event line? s turns after →
      (∀ t ∈ turns, ¬t.Rewrites k index) → after.args.get k index = s.args.get k index := by
  induction turns with
  | nil =>
      rintro s after rfl -
      rfl
  | cons t turns ih =>
      rintro s after ⟨rfl, -, hrest⟩ hkeeps
      obtain ⟨hkept, hothers⟩ := List.forall_mem_cons.mp hkeeps
      rw [ih hrest hothers, Scene.reportAny_args]
      exact Classical.not_not.mp hkept

/-! ### Silent code -/

/-- After turns of code that leaves the log alone, only the lines of the dispatch itself are new,
notices aside. -/
theorem InTurn.filter_log_of_silent {act : Behaviour κ σ} {event : String}
    {line? : Turn κ σ → Option LogLine} {s after : Scene κ σ} {turns : List (Turn κ σ)}
    (h : InTurn act event line? s turns after) (hact : Silent act) {keeps : LogLine → Bool}
    (hnotice : ∀ handler version, keeps (.deprecated event handler version) = false) :
    after.world.log.filter keeps =
      s.world.log.filter keeps ++ (turns.filterMap line?).filter keeps := by
  have hwrote : ∀ t ∈ turns, (t.wrote ++ (line? t).toList).filter keeps =
      (line? t).toList.filter keeps := by
    intro t ht
    obtain hnone | ⟨version, -, hone⟩ := (h.played t ht).wrote_of_silent hact
    · simp [hnone]
    · simp [hone, hnotice]
  rw [h.log_eq hact.onlyAdds, List.filter_append, List.filter_flatMap, List.flatMap_def,
    List.map_congr_left hwrote, ← List.flatMap_def, ← List.filter_flatMap,
    List.filterMap_eq_flatMap_toList]

end WikiEntry.Hook
