import WikiEntry.Proofs.Hook.Turn

/-!
# Events that handlers may stop

The handlers of an event run until one of them does not let it go on. Which ones run is settled
when the event begins: it is the list that the registry has then, whatever handlers do to the
registry meanwhile. How the last turn ends is the answer, and the log hears about it only if the
handler was malformed or failed.
-/

namespace WikiEntry.Hook

variable {κ σ : Type}

namespace Turn

/-- The error with which a turn ends its event. An abort ends it without one. -/
def error? (event : String) (t : Turn κ σ) : Option DispatchError :=
  match t.ending with
  | .wentOn | .aborted => none
  | .fatal message => some (.fatal event t.entry.name message)
  | .malformed reason => some (.invocation event t.position t.entry.name reason)
  | .failed cause => some (.handlerFailed event t.position t.entry.name cause)

/-- The line that the log gets after a turn. A fatal message is for the user, not for the log. -/
def errorLine? (event : String) (t : Turn κ σ) : Option LogLine :=
  match t.ending with
  | .wentOn | .aborted | .fatal _ => none
  | .malformed reason => some (.handlerFailed event t.entry.name
      (.invocation event t.position t.entry.name reason))
  | .failed cause => some (.handlerFailed event t.entry.name
      (.handlerFailed event t.position t.entry.name cause))

end Turn

/-- The line that an answer leaves in the log. -/
def failureLine? : Except DispatchError Bool → Option LogLine
  | .error (.invocation event position handler reason) =>
    some (.handlerFailed event handler (.invocation event position handler reason))
  | .error (.handlerFailed event position handler cause) =>
    some (.handlerFailed event handler (.handlerFailed event position handler cause))
  | _ => none

/-- Every turn after which the handler does not want the event to go on ends it. -/
def Rule.stopping (event : String) : Rule κ σ where
  line? := Turn.errorLine? event
  verdict? t := match t.ending with
    | .wentOn => none
    | .aborted => some (.ok false)
    | _ => (t.error? event).map .error

section Verdict

variable {event : String} {t : Turn κ σ}

theorem verdict?_stopping_eq_none_iff :
    (Rule.stopping event).verdict? t = none ↔ t.ending = .wentOn := by
  cases hending : t.ending <;> simp [Rule.stopping, Turn.error?, hending]

theorem verdict?_stopping_eq_refused_iff :
    (Rule.stopping event).verdict? t = some (.ok false) ↔ t.ending = .aborted := by
  cases hending : t.ending <;> simp [Rule.stopping, Turn.error?, hending]

theorem verdict?_stopping_eq_error_iff {error : DispatchError} :
    (Rule.stopping event).verdict? t = some (.error error) ↔ t.error? event = some error := by
  cases hending : t.ending <;> simp [Rule.stopping, Turn.error?, hending]

theorem verdict?_stopping_ne_agreed : (Rule.stopping event).verdict? t ≠ some (.ok true) := by
  cases hending : t.ending <;> simp [Rule.stopping, Turn.error?, hending]

/-- After a turn that ends its event the log gets the line of the answer. -/
theorem errorLine?_of_verdict? {answer : Except DispatchError Bool}
    (h : (Rule.stopping event).verdict? t = some answer) :
    t.errorLine? event = failureLine? answer := by
  cases hending : t.ending <;>
    simp only [Rule.stopping, Turn.error?, hending, Option.map_some, Option.some.injEq,
      reduceCtorEq] at h <;>
    subst h <;> simp [Turn.errorLine?, failureLine?, hending]

end Verdict

theorem runFrom_play (act : Behaviour κ σ) (event : String) (handlers : List (Entry κ)) :
    ∀ (position : Nat) (s : Scene κ σ), ∃ turns,
      Play act event (.stopping event) position handlers s turns
        (runFrom act event position handlers s).1 (runFrom act event position handlers s).2 := by
  induction handlers with
  | nil => exact fun position s => ⟨[], .done position s⟩
  | cons e handlers ih =>
      intro position s
      obtain ⟨t, hplayed, rfl, rfl, rfl, hcall⟩ := exists_played act event position e s
      rw [runFrom, hcall]
      cases hending : t.ending with
      | wentOn =>
          obtain ⟨turns, hrest⟩ := ih (t.position + 1) t.left
          have hline : (Rule.stopping event).line? t = none := by
            simp [Rule.stopping, Turn.errorLine?, hending]
          refine ⟨t :: turns, ?_⟩
          simp only [Turn.answer, hending]
          exact .goesOn hplayed (verdict?_stopping_eq_none_iff.mpr hending)
            (by rw [hline]; exact hrest)
      | aborted | fatal | malformed | failed =>
          -- No handler after this one has a turn.
          refine ⟨[t], ?_⟩
          simp only [Turn.answer, hending]
          have hstops : Play act event (.stopping event) t.position (t.entry :: handlers) t.found
              [t] _ _ :=
            .stops hplayed (by
              simp only [Rule.stopping, Turn.error?, hending, Option.map_some]
              rfl)
          simpa [Rule.stopping, Turn.errorLine?, hending] using hstops

namespace Play

variable {act : Behaviour κ σ} {event : String} {position : Nat} {handlers : List (Entry κ)}
  {s after : Scene κ σ} {turns : List (Turn κ σ)} {answer : Except DispatchError Bool}

theorem filterMap_errorLine?
    (h : Play act event (.stopping event) position handlers s turns answer after) :
    turns.filterMap (Turn.errorLine? event) = (failureLine? answer).toList := by
  induction h with
  | done => rfl
  | goesOn _ hverdict _ ih =>
      rw [List.filterMap_cons_none, ih]
      simp [Turn.errorLine?, verdict?_stopping_eq_none_iff.mp hverdict]
  | stops _ hverdict =>
      rw [List.filterMap_cons, errorLine?_of_verdict? hverdict]
      cases failureLine? _ <;> rfl

/-- The line of the answer comes into the log last. -/
theorem log_eq (h : Play act event (.stopping event) position handlers s turns answer after)
    (hact : OnlyAdds act) : after.world.log =
      s.world.log ++ turns.flatMap Turn.wrote ++ (failureLine? answer).toList := by
  induction h with
  | done => simp [failureLine?]
  | @goesOn t _ _ _ _ hplayed hverdict _ ih =>
      have hline : (Rule.stopping event).line? t = none := by
        simp [Rule.stopping, Turn.errorLine?, verdict?_stopping_eq_none_iff.mp hverdict]
      rw [ih, hline, Scene.reportAny_none, hplayed.log_eq hact, List.flatMap_cons]
      simp only [List.append_assoc]
  | @stops t _ _ hplayed hverdict =>
      have hline : (Rule.stopping event).line? t = failureLine? _ :=
        errorLine?_of_verdict? hverdict
      rw [Scene.reportAny_log, hline, hplayed.log_eq hact, List.flatMap_singleton]

end Play

theorem isError_of_mem_failureLine? {answer : Except DispatchError Bool} :
    ∀ line ∈ failureLine? answer, line.isError = true := by
  unfold failureLine?
  split <;> simp [LogLine.isError]

/-- How an event that handlers may stop goes, turn by turn. -/
structure Stoppable (act : Behaviour κ σ) (place : Place) (event : String) (s : Scene κ σ)
    (answer : Except DispatchError Bool) (after : Scene κ σ) (turns : List (Turn κ σ)) :
    Prop where
  /-- The handlers that have a turn are the first of those registered when the event begins, in
  order, once each and each at its position. -/
  called : (turns.map fun t => (t.entry, t.position)) <+:
    ((s.world.registryOf place).handlers event).zipIdx
  /-- Each turn begins with the scene that the one before it left, and the scene after the last
  one is what remains. -/
  inTurn : InTurn act event (Turn.errorLine? event) s turns after
  /-- Only the last turn may be one that does not let the event go on. -/
  wentOn : ∀ t ∈ turns.dropLast, t.ending = .wentOn
  /-- If there is no such turn, all handlers have had theirs. -/
  complete : (∀ t ∈ turns, t.ending = .wentOn) →
    turns.length = ((s.world.registryOf place).handlers event).length
  agreed_iff : answer = .ok true ↔ ∀ t ∈ turns, t.ending = .wentOn
  refused_iff : answer = .ok false ↔ ∃ t, turns.getLast? = some t ∧ t.ending = .aborted
  error_iff (error : DispatchError) :
    answer = .error error ↔ ∃ t, turns.getLast? = some t ∧ t.error? event = some error
  /-- The dispatch itself adds the line of its answer to the log, and no other error. -/
  lines : turns.filterMap (Turn.errorLine? event) = (failureLine? answer).toList
  /-- The log grows by what comes into it during the turns and that line. -/
  log (hact : OnlyAdds act) : after.world.log =
    s.world.log ++ turns.flatMap Turn.wrote ++ (failureLine? answer).toList
  /-- With handlers that leave the log alone, that line is the only new error in it. -/
  errors (hact : Silent act) : after.world.log.filter LogLine.isError =
    s.world.log.filter LogLine.isError ++ (failureLine? answer).toList

theorem exists_stoppable (act : Behaviour κ σ) (place : Place) (event : String) (s : Scene κ σ) :
    ∃ turns, Stoppable act place event s (run act place event s).1 (run act place event s).2
      turns := by
  obtain ⟨turns, h⟩ := runFrom_play act event ((s.world.registryOf place).handlers event) 0 s
  refine ⟨turns, ?_⟩
  change Play act event _ 0 _ s turns (run act place event s).1 (run act place event s).2 at h
  have hall : (∀ t ∈ turns, (Rule.stopping event).verdict? t = none) ↔
      ∀ t ∈ turns, t.ending = .wentOn :=
    forall₂_congr fun _ _ => verdict?_stopping_eq_none_iff
  exact {
    called := h.called
    inTurn := h.inTurn
    wentOn := fun t ht => verdict?_stopping_eq_none_iff.mp (h.verdict?_of_mem_dropLast t ht)
    complete := fun hwent => h.length_eq (hall.mpr hwent)
    agreed_iff := (h.agreed_iff fun _ => verdict?_stopping_ne_agreed).trans hall
    refused_iff := by
      rw [h.answer_eq_iff (by simp)]
      simp only [verdict?_stopping_eq_refused_iff]
    error_iff := fun error => by
      rw [h.answer_eq_iff (by simp)]
      simp only [verdict?_stopping_eq_error_iff]
    lines := h.filterMap_errorLine?
    log := h.log_eq
    errors := fun hact => by
      rw [h.inTurn.filter_log_of_silent hact fun _ _ => rfl]
      have hlines : turns.filterMap (Rule.stopping event).line? = (failureLine? _).toList :=
        h.filterMap_errorLine?
      rw [hlines, List.filter_eq_self.mpr fun line hline =>
        isError_of_mem_failureLine? line (Option.mem_toList.mp hline)] }

/-! ### The events of a wiki -/

theorem Invoker.dispatch_eq_runFrom {i : Invoker} (hdepth : 0 < i.depth) (event : String)
    (s : Scene (Code σ) σ) :
    i.dispatch .stoppable event s = runFrom (Code.performWithin (i.depth - 1) i.channel) event 0
      (s.world.registry.handlers event) s := by
  obtain ⟨policy, depth⟩ := i
  cases depth with
  | zero => exact absurd hdepth (Nat.lt_irrefl 0)
  | succ depth => rfl

end WikiEntry.Hook
