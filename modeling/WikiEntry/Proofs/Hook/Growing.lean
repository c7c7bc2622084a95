import WikiEntry.Proofs.Hook.History

/-!
# The log only grows

The code of a handler has no step that touches the log; lines come into it only through the
dispatches that it nests. So whatever handlers do, and however deep they nest events, a log after
an event begins with the log before it.

How an event goes was told for handlers that may do anything. What it says about the log supposes
that they only add to it, and for handlers that are code they do.
-/

namespace WikiEntry.Hook

section

variable {σ : Type}

theorem course_log : Course (σ := σ) fun s _ after => s.world.log <+: after.world.log where
  stays _ := List.prefix_rfl
  joins := List.IsPrefix.trans
  puts _ _ _ := List.prefix_rfl
  remembers _ _ := List.prefix_rfl
  changes s place c := by
    have hlog : (s.world.change place c).log = s.world.log := World.log_withRegistry ..
    exact hlog ▸ List.prefix_rfl
  reports _ _ _ := List.prefix_append ..
  calls c := by
    unfold Call.begun
    split
    · obtain hsame | ⟨version, -, hmore⟩ := c.found.world.notice_log c.event c.entry
      · exact hsame ▸ List.prefix_rfl
      · exact hmore ▸ List.prefix_append ..
    · exact List.prefix_rfl
  nests h := h

theorem performWithin_onlyAdds (depth : Nat) (c : Channel) :
    OnlyAdds (Code.performWithin (σ := σ) depth c) := by
  intro code s
  obtain ⟨-, hadds⟩ := course_log.performWithin depth c code s
  exact hadds

end

/-- The handlers of an event run in turn up to the first that does not let it go on, and how its
turn ends is the answer. If handlers are code, the log grows by what comes into it during the turns
and the line of the answer. -/
theorem run_stoppable :
    (∀ {κ σ : Type} (act : Behaviour κ σ) (place : Place) (event : String) (s : Scene κ σ),
      ∃ turns, Stoppable act place event s (run act place event s).1 (run act place event s).2
        turns) ∧
    ∀ {σ : Type} (depth : Nat) (c : Channel) (event : String) (s : Scene (Code σ) σ),
      ∃ turns, Stoppable (Code.performWithin depth c) c.place event s
          (dispatchWithin (depth + 1) c .stoppable event s).1
          (dispatchWithin (depth + 1) c .stoppable event s).2 turns ∧
        (dispatchWithin (depth + 1) c .stoppable event s).2.world.log =
          s.world.log ++ turns.flatMap Turn.wrote ++
            (failureLine? (dispatchWithin (depth + 1) c .stoppable event s).1).toList := by
  refine ⟨exists_stoppable, ?_⟩
  intro σ depth c event s
  obtain ⟨turns, h⟩ := exists_stoppable (Code.performWithin depth c) c.place event s
  exact ⟨turns, h, h.log (performWithin_onlyAdds depth c)⟩

/-- Every handler of an event that cannot be stopped gets its turn; under the strict policy as far
as the first that does not fit. If nothing would have stopped the event, running it so that it can
be stopped comes to the same. If handlers are code, the log grows by what comes into it during each
turn and the complaint after it. -/
theorem runAll_unstoppable :
    (∀ {κ σ : Type} (act : Behaviour κ σ) (policy : Policy) (place : Place) (event : String)
      (s : Scene κ σ),
      (∃ turns, Unstoppable act policy place event s (runAll act policy place event s).1
        (runAll act policy place event s).2 turns) ∧
      ((run act place event s).1 = .ok true →
        runAll act policy place event s = run act place event s)) ∧
    ∀ {σ : Type} (depth : Nat) (c : Channel) (event : String) (s : Scene (Code σ) σ),
      ∃ turns, Unstoppable (Code.performWithin depth c) c.policy c.place event s
          (dispatchWithin (depth + 1) c .unstoppable event s).1
          (dispatchWithin (depth + 1) c .unstoppable event s).2 turns ∧
        (dispatchWithin (depth + 1) c .unstoppable event s).2.world.log =
          s.world.log ++ turns.flatMap fun t => t.wrote ++ (t.complaint? event).toList := by
  refine ⟨fun act policy place event s => ⟨exists_unstoppable act policy place event s,
    runAllFrom_eq_runFrom act policy event _ 0 s⟩, ?_⟩
  intro σ depth c event s
  obtain ⟨turns, h⟩ := exists_unstoppable (Code.performWithin depth c) c.policy c.place event s
  exact ⟨turns, h, h.log (performWithin_onlyAdds depth c)⟩

end WikiEntry.Hook
