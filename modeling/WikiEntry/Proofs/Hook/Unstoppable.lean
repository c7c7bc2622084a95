import WikiEntry.Proofs.Hook.Turn

/-!
# Events that no handler may stop

All handlers of an event get their turn, and the log hears about each that did not let the event
go on. Only a handler that does not fit the arguments can end the event, and only under the strict
policy. Where nothing would have stopped the event anyway, the two ways to run it are the same.
-/

namespace WikiEntry

/-- Whether the line is the notice about a deprecated handler. -/
def LogLine.isNotice : LogLine → Bool
  | deprecated .. => true
  | _ => false

/-- The line is about a handler of an event. -/
def LogLine.Names (event handler : String) (line : LogLine) : Prop :=
  ∀ label, [("event", event), ("handler", handler)] <+: line.fields label

namespace Hook

variable {κ σ : Type}

namespace Turn

/-- Whether the handler fits the arguments of its event. -/
def Fits (t : Turn κ σ) : Prop := ∀ reason, t.ending ≠ .malformed reason

/-- The line that the log gets after a turn: an answer that has no place in an event that cannot be
stopped, a handler that does not fit, or one that failed. -/
def complaint? (event : String) (t : Turn κ σ) : Option LogLine :=
  match t.ending with
  | .wentOn => none
  | .aborted => some (.invalidReturn event t.entry.name .abort)
  | .fatal message => some (.invalidReturn event t.entry.name (.fatal message))
  | .malformed reason => some (.invalidHandler event t.entry.name
      (.invocation event t.position t.entry.name reason))
  | .failed cause => some (.handlerSkipped event t.entry.name
      (.handlerFailed event t.position t.entry.name cause))

theorem complaint?_eq_none_iff {event : String} {t : Turn κ σ} :
    t.complaint? event = none ↔ t.ending = .wentOn := by
  cases hending : t.ending <;> simp [complaint?, hending]

/-- A complaint says in which event which handler went wrong. -/
theorem names_of_complaint? {event : String} {t : Turn κ σ} {line : LogLine}
    (h : t.complaint? event = some line) : line.Names event t.entry.name := by
  intro label
  cases hending : t.ending <;>
    simp only [complaint?, hending, Option.some.injEq, reduceCtorEq] at h <;>
    subst h <;> exact List.prefix_append _ [_]

theorem isNotice_of_complaint? {event : String} {t : Turn κ σ} {line : LogLine}
    (h : t.complaint? event = some line) : line.isNotice = false := by
  cases hending : t.ending <;>
    simp only [complaint?, hending, Option.some.injEq, reduceCtorEq] at h <;>
    subst h <;> rfl

end Turn

/-- A turn ends the event only if the handler does not fit and the policy is strict. -/
def Rule.unstoppable (policy : Policy) (event : String) : Rule κ σ where
  line? := Turn.complaint? event
  verdict? t := match policy, t.ending with
    | .strict, .malformed reason =>
      some (.error (.invocation event t.position t.entry.name reason))
    | _, _ => none

section Verdict

variable {policy : Policy} {event : String} {t : Turn κ σ}

theorem verdict?_unstoppable_eq_none_iff :
    (Rule.unstoppable policy event).verdict? t = none ↔ policy = .lenient ∨ t.Fits := by
  cases policy <;> cases hending : t.ending <;> simp [Rule.unstoppable, Turn.Fits, hending]

theorem verdict?_unstoppable_eq_some_iff {answer : Except DispatchError Bool} :
    (Rule.unstoppable policy event).verdict? t = some answer ↔
      policy = .strict ∧ ∃ reason, t.ending = .malformed reason ∧
        answer = .error (.invocation event t.position t.entry.name reason) := by
  cases policy <;> cases hending : t.ending <;> simp [Rule.unstoppable, hending, eq_comm]

end Verdict

theorem runAllFrom_play (act : Behaviour κ σ) (policy : Policy) (event : String)
    (handlers : List (Entry κ)) :
    ∀ (position : Nat) (s : Scene κ σ), ∃ turns,
      Play act event (.unstoppable policy event) position handlers s turns
        (runAllFrom act policy event position handlers s).1
        (runAllFrom act policy event position handlers s).2 := by
  induction handlers with
  | nil => exact fun position s => ⟨[], .done position s⟩
  | cons e handlers ih =>
      intro position s
      obtain ⟨t, hplayed, rfl, rfl, rfl, hcall⟩ := exists_played act event position e s
      rw [runAllFrom, hcall]
      obtain ⟨turns, hrest⟩ := ih (t.position + 1) (t.left.reportAny (t.complaint? event))
      have hgoesOn (hverdict : (Rule.unstoppable policy event).verdict? t = none) :=
        Play.goesOn hplayed hverdict hrest
      cases hending : t.ending with
      | wentOn | aborted | fatal | failed =>
          simp only [Turn.complaint?, hending, Scene.reportAny_none, Scene.reportAny_some]
            at hgoesOn
          simp only [Turn.answer, hending]
          exact ⟨_, hgoesOn (verdict?_unstoppable_eq_none_iff.mpr
            (.inr fun reason => by simp [hending]))⟩
      | malformed reason =>
          simp only [Turn.answer, hending]
          simp only [Turn.complaint?, hending, Scene.reportAny_some] at hgoesOn
          cases policy with
          | lenient => exact ⟨_, hgoesOn (verdict?_unstoppable_eq_none_iff.mpr (.inl rfl))⟩
          | strict =>
              have hstops : Play act event (.unstoppable .strict event) t.position
                  (t.entry :: handlers) t.found [t] _ _ :=
                .stops hplayed (verdict?_unstoppable_eq_some_iff.mpr ⟨rfl, reason, hending, rfl⟩)
              simp only [Rule.unstoppable, Turn.complaint?, hending, Scene.reportAny_some]
                at hstops
              exact ⟨_, hstops⟩

theorem runAllFrom_eq_runFrom (act : Behaviour κ σ) (policy : Policy) (event : String)
    (handlers : List (Entry κ)) :
    ∀ (position : Nat) (s : Scene κ σ), (runFrom act event position handlers s).1 = .ok true →
      runAllFrom act policy event position handlers s = runFrom act event position handlers s := by
  induction handlers with
  | nil => exact fun _ _ _ => rfl
  | cons e handlers ih =>
      intro position s h
      unfold runFrom at h ⊢
      unfold runAllFrom
      obtain ⟨⟨outcome, after⟩, hcall⟩ : ∃ called, call act event position e s = called := ⟨_, rfl⟩
      rw [hcall] at h ⊢
      match outcome with
      | .ok .proceed => exact ih (position + 1) after h
      | .ok .abort | .ok (.fatal _) | .error _ => cases h

/-- How an event that no handler may stop goes, turn by turn. -/
structure Unstoppable (act : Behaviour κ σ) (policy : Policy) (place : Place) (event : String)
    (s : Scene κ σ) (answer : Except DispatchError Bool) (after : Scene κ σ)
    (turns : List (Turn κ σ)) : Prop where
  /-- The handlers that have a turn are the first of those registered when the event begins, in
  order, once each and each at its position. -/
  called : (turns.map fun t => (t.entry, t.position)) <+:
    ((s.world.registryOf place).handlers event).zipIdx
  /-- Each turn begins with the scene that the one before it left, and the complaint about it if
  there is one; the scene after the last one is what remains. -/
  inTurn : InTurn act event (Turn.complaint? event) s turns after
  /-- If the event agrees, all handlers have had their turn. -/
  complete : answer = .ok true →
    turns.length = ((s.world.registryOf place).handlers event).length
  /-- The event agrees unless the policy is strict and a handler does not fit. -/
  agreed_iff : answer = .ok true ↔ policy = .lenient ∨ ∀ t ∈ turns, t.Fits
  not_refused : answer ≠ .ok false
  /-- Under the strict policy the first handler that does not fit is the last to have a turn. -/
  fits : policy = .strict → ∀ t ∈ turns.dropLast, t.Fits
  /-- It makes the event fail, and nothing else does. -/
  error_iff (error : DispatchError) : answer = .error error ↔
    policy = .strict ∧ ∃ t reason, turns.getLast? = some t ∧ t.ending = .malformed reason ∧
      error = .invocation event t.position t.entry.name reason
  /-- There is no complaint about a handler that let the event go on, -/
  unblamed : ∀ t ∈ turns, t.complaint? event = none ↔ t.ending = .wentOn
  /-- and one about each of the others, which names it. -/
  blamed : ∀ t ∈ turns, ∀ line ∈ t.complaint? event, line.Names event t.entry.name
  /-- The log grows by what comes into it during each turn and by the complaint after it. -/
  log (hact : OnlyAdds act) : after.world.log =
    s.world.log ++ turns.flatMap fun t => t.wrote ++ (t.complaint? event).toList
  /-- If handlers leave the log alone, a notice about a deprecated handler is all that can come
  into it during a turn, -/
  notices (hact : Silent act) : ∀ t ∈ turns, t.wrote = [] ∨
    ∃ version, t.entry.about.deprecatedSince = some version ∧
      t.wrote = [.deprecated event t.entry.name version]
  /-- and besides notices the complaints are all that is new in it. -/
  complaints (hact : Silent act) :
    (after.world.log.filter fun line => !line.isNotice) =
      (s.world.log.filter fun line => !line.isNotice) ++ turns.filterMap (Turn.complaint? event)

theorem exists_unstoppable (act : Behaviour κ σ) (policy : Policy) (place : Place) (event : String)
    (s : Scene κ σ) :
    ∃ turns, Unstoppable act policy place event s (runAll act policy place event s).1
      (runAll act policy place event s).2 turns := by
  obtain ⟨turns, h⟩ := runAllFrom_play act policy event
    ((s.world.registryOf place).handlers event) 0 s
  refine ⟨turns, ?_⟩
  change Play act event _ 0 _ s turns (runAll act policy place event s).1
    (runAll act policy place event s).2 at h
  have hagreed := h.agreed_iff fun t => by simp [verdict?_unstoppable_eq_some_iff]
  simp only [verdict?_unstoppable_eq_none_iff] at hagreed
  exact {
    called := h.called
    inTurn := h.inTurn
    complete := fun hanswer =>
      h.length_eq fun t ht => verdict?_unstoppable_eq_none_iff.mpr (hagreed.mp hanswer t ht)
    agreed_iff := by
      rw [hagreed]
      cases policy <;> simp
    not_refused := fun hrefused => by
      obtain ⟨t, -, hverdict⟩ := (h.answer_eq_iff (by simp)).mp hrefused
      obtain ⟨-, reason, -, hother⟩ := verdict?_unstoppable_eq_some_iff.mp hverdict
      cases hother
    fits := fun hpolicy t ht => by
      have hverdict := verdict?_unstoppable_eq_none_iff.mp (h.verdict?_of_mem_dropLast t ht)
      exact hverdict.resolve_left (by simp [hpolicy])
    error_iff := fun error => by
      rw [h.answer_eq_iff (by simp)]
      simp only [verdict?_unstoppable_eq_some_iff, Except.error.injEq]
      constructor
      · rintro ⟨t, hlast, hpolicy, reason, hending, herror⟩
        exact ⟨hpolicy, t, reason, hlast, hending, herror⟩
      · rintro ⟨hpolicy, t, reason, hlast, hending, herror⟩
        exact ⟨t, hlast, hpolicy, reason, hending, herror⟩
    unblamed := fun t _ => Turn.complaint?_eq_none_iff
    blamed := fun t _ line hline => Turn.names_of_complaint? hline
    log := h.inTurn.log_eq
    notices := fun hact t ht => (h.inTurn.played t ht).wrote_of_silent hact
    complaints := fun hact => by
      rw [h.inTurn.filter_log_of_silent hact fun _ _ => rfl]
      refine congrArg _ (List.filter_eq_self.mpr fun line hline => ?_)
      obtain ⟨t, -, hcomplaint⟩ := List.mem_filterMap.mp hline
      rw [Turn.isNotice_of_complaint? hcomplaint, Bool.not_false] }

/-- A wiki with one handler, which is deprecated and against its event going on. -/
def legacy : World (Code Unit) Unit where
  registry := Registry.register { mode := .production }
    { event := "Old", shape := .plain, body := .finish (.ok .abort)
      about := { name := some "legacy", deprecatedSince := some "1.31" } }
  memory := ()

/-- When a deprecated handler aborts an event that cannot be stopped, the log names it twice: in the
notice that it is deprecated, and in the complaint about its answer. -/
theorem dispatch_legacy_named_twice :
    ∃ notice complaint,
      (Invoker.dispatch {} .unstoppable "Old" ⟨legacy, []⟩).2.world.log = [notice, complaint] ∧
      notice.Names "Old" "legacy" ∧ complaint.Names "Old" "legacy" := by
  refine ⟨.deprecated "Old" "legacy" "1.31", .invalidReturn "Old" "legacy" .abort, rfl, ?_, ?_⟩
  · exact fun _ => List.prefix_rfl
  · exact fun _ => List.prefix_append _ [_]

end Hook

end WikiEntry
