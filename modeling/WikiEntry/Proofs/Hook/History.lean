import WikiEntry.Proofs.Hook.Registering
import WikiEntry.Proofs.Hook.Stopping
import WikiEntry.Proofs.Hook.Unstoppable

/-!
# The calls of a dispatch

A dispatch calls handlers, whose code runs events, which call handlers in turn. All these calls
stand in one list, in the order in which they begin: the call of a handler comes before those that
its code leads to, and these before the call of the next handler.

What a dispatch does to the world it does step by step. So whatever holds of every single step,
and of two courses of events that follow each other if it holds of each, holds of the dispatch as
a whole. This is `Course.dispatchWithin`.
-/

namespace WikiEntry.Hook

section Turns

variable {κ σ : Type}

/-- A handler is called for an event, in a scene. -/
structure Call (κ σ : Type) where
  event : String
  entry : Entry κ
  found : Scene κ σ

namespace Call

def fits (c : Call κ σ) : Bool := c.entry.accepts c.found.args.length

/-- The scene in which the code of the handler begins. If the handler does not fit, no code
begins, and the scene is the one that was found. -/
def begun (c : Call κ σ) : Scene κ σ :=
  if c.fits then { c.found with world := c.found.world.notice c.event c.entry } else c.found

/-- A notice does not touch the registries. -/
theorem registryOf_begun (c : Call κ σ) : c.begun.world.registryOf = c.found.world.registryOf := by
  funext place
  unfold begun World.notice
  repeat' split
  all_goals cases place <;> rfl

def turn (act : Behaviour κ σ) (c : Call κ σ) (position : Nat) : Turn κ σ :=
  if c.fits then
    ⟨position, c.entry, c.found, (act c.entry.body c.begun).2, .of (act c.entry.body c.begun).1⟩
  else
    ⟨position, c.entry, c.found, c.found,
      .malformed (.arity (c.entry.about.arity.getD 0) c.found.args.length)⟩

theorem begun_of_fits {c : Call κ σ} (h : c.fits = true) :
    c.begun = { c.found with world := c.found.world.notice c.event c.entry } := if_pos h

theorem begun_of_not_fits {c : Call κ σ} (h : c.fits = false) : c.begun = c.found := by
  simp [begun, h]

end Call

theorem Turn.Played.eq_turn {act : Behaviour κ σ} {event : String} {t : Turn κ σ}
    (h : t.Played act event) : t = Call.turn act ⟨event, t.entry, t.found⟩ t.position := by
  cases h with
  | @barred position entry found arity harity hother =>
      have hfits : Call.fits ⟨event, entry, found⟩ = false := by
        simpa [Call.fits, Entry.accepts, harity] using hother
      simp [Call.turn, hfits, harity]
  | @entered position entry found left result hfits hact =>
      have hfits : Call.fits ⟨event, entry, found⟩ = true := Entry.accepts_iff.mpr hfits
      simp only [Call.turn, hfits, if_true, Call.begun, hact]

theorem Turn.Played.left_eq {act : Behaviour κ σ} {event : String} {t : Turn κ σ}
    (h : t.Played act event) :
    t.left = if Call.fits ⟨event, t.entry, t.found⟩ then
      (act t.entry.body (Call.begun ⟨event, t.entry, t.found⟩)).2
      else Call.begun ⟨event, t.entry, t.found⟩ := by
  have hleft := congrArg Turn.left h.eq_turn
  rw [Call.turn] at hleft
  cases hfits : Call.fits ⟨event, t.entry, t.found⟩ with
  | true => simpa [hfits] using hleft
  | false => simpa [hfits, Call.begun_of_not_fits hfits] using hleft

/-- What a call leaves behind is what the code of the handler makes of the scene in which it
begins. -/
theorem Call.snd_call (act : Behaviour κ σ) (position : Nat) (c : Call κ σ) :
    (call act c.event position c.entry c.found).2 =
      if c.fits then (act c.entry.body c.begun).2 else c.begun := by
  obtain ⟨event, entry, found⟩ := c
  obtain ⟨t, hplayed, rfl, rfl, rfl, hcall⟩ := exists_played act event position entry found
  rw [hcall]
  exact hplayed.left_eq

/-- The turns that handlers from a position on have under a rule. -/
def turnsFrom (act : Behaviour κ σ) (event : String) (rule : Rule κ σ) :
    Nat → List (Entry κ) → Scene κ σ → List (Turn κ σ)
  | _, [], _ => []
  | position, e :: rest, s =>
    let t := Call.turn act ⟨event, e, s⟩ position
    t :: if (rule.verdict? t).isNone then
      turnsFrom act event rule (position + 1) rest (t.left.reportAny (rule.line? t)) else []

theorem Play.turns_eq {act : Behaviour κ σ} {event : String} {rule : Rule κ σ} {position : Nat}
    {handlers : List (Entry κ)} {s after : Scene κ σ} {turns : List (Turn κ σ)}
    {answer : Except DispatchError Bool}
    (h : Play act event rule position handlers s turns answer after) :
    turns = turnsFrom act event rule position handlers s := by
  induction h with
  | done => rfl
  | @goesOn t _ _ _ _ hplayed hverdict _ ih =>
      rw [turnsFrom, ← hplayed.eq_turn]
      simp [hverdict, ← ih]
  | @stops t _ _ hplayed hverdict =>
      rw [turnsFrom, ← hplayed.eq_turn]
      simp [hverdict]

/-- What an event run in some manner makes of a turn. -/
def Manner.rule (policy : Policy) (event : String) : Manner → Rule κ σ
  | stoppable => .stopping event
  | unstoppable => .unstoppable policy event

theorem Manner.isNotice_of_line? {policy : Policy} {event : String} {manner : Manner}
    {t : Turn κ σ} {line : LogLine} (h : (manner.rule policy event).line? t = some line) :
    line.isNotice = false := by
  cases manner with
  | stoppable =>
      cases hending : t.ending <;>
        simp only [rule, Rule.stopping, Turn.errorLine?, hending, Option.some.injEq,
          reduceCtorEq] at h <;>
        subst h <;> rfl
  | unstoppable => exact Turn.isNotice_of_complaint? h

end Turns

/-! ### The registries of a world -/

namespace World

variable {κ σ : Type} {w : World κ σ} {reg : Registry κ} {place other : Place}

@[simp] theorem registryOf_withRegistry_self :
    (w.withRegistry reg place).registryOf place = reg := by
  cases place with
  | own => rfl
  | other k => simp [withRegistry, registryOf]

/-- The registries in other places only learn how far numbers have been given. -/
theorem registryOf_withRegistry_of_ne (h : place ≠ other) :
    (w.withRegistry reg place).registryOf other =
      { w.registryOf other with nextId := reg.nextId } := by
  cases place with
  | own =>
      cases other with
      | own => exact absurd rfl h
      | other k => rfl
  | other j =>
      cases other with
      | own => rfl
      | other k =>
          have hne : k ≠ j := fun heq => h (congrArg Place.other heq.symm)
          simp [withRegistry, registryOf, hne]

theorem nextId_registryOf (w : World κ σ) (place : Place) :
    (w.registryOf place).nextId = w.registry.nextId := by
  cases place <;> rfl

@[simp] theorem nextId_withRegistry : (w.withRegistry reg place).registry.nextId = reg.nextId := by
  cases place <;> rfl

@[simp] theorem notices_withRegistry : (w.withRegistry reg place).notices = w.notices := by
  cases place <;> rfl

@[simp] theorem log_withRegistry : (w.withRegistry reg place).log = w.log := by
  cases place <;> rfl

/-- The world after a change of the registry in a place. -/
def change (w : World κ σ) (place : Place) (c : Change κ) : World κ σ :=
  w.withRegistry ((w.registryOf place).change c) place

end World

/-! ### Calls within calls -/

variable {σ : Type}

/-- The calls to which events lead, by the channel and the manner in which they are run. -/
abbrev Nested (σ : Type) :=
  Option Channel → Manner → String → Scene (Code σ) σ → List (Call (Code σ) σ)

/-- The calls to which some code leads, given how events are run and which calls they lead to. -/
def Code.calls (dispatch : Dispatch σ) (nested : Nested σ) :
    Code σ → Scene (Code σ) σ → List (Call (Code σ) σ)
  | .finish _, _ => []
  | .look next, s => calls dispatch nested (next s.args s.world.memory) s
  | .put index a next, s => calls dispatch nested next { s with args := s.args.put index a }
  | .remember memory next, s =>
    calls dispatch nested next { s with world := { s.world with memory := memory } }
  | .register place event shape body about next, s =>
    let registry := (s.world.registryOf place).register ⟨event, shape, body, about⟩
    calls dispatch nested next { s with world := s.world.withRegistry registry place }
  | .clear place event next, s =>
    match (s.world.registryOf place).clear event with
    | .ok registry =>
      calls dispatch nested (next (.ok ())) { s with world := s.world.withRegistry registry place }
    | .error e => calls dispatch nested (next (.error e)) s
  | .run through manner event args next, s =>
    match dispatch through manner event ⟨s.world, args⟩ with
    | (answer, inner) =>
      nested through manner event ⟨s.world, args⟩ ++
        calls dispatch nested (next answer inner.args) { s with world := inner.world }

/-- The call of a handler and those to which its code leads. -/
def Call.andNested (dispatch : Dispatch σ) (nested : Nested σ) (c : Call (Code σ) σ) :
    List (Call (Code σ) σ) :=
  c :: if c.fits then Code.calls dispatch nested c.entry.body c.begun else []

/-- The turns of an event that is run through a channel, where handlers may run events up to `depth`
levels further down. -/
def turnsWithin (depth : Nat) (c : Channel) (manner : Manner) (event : String)
    (s : Scene (Code σ) σ) : List (Turn (Code σ) σ) :=
  turnsFrom (Code.performWithin depth c) event (manner.rule c.policy event) 0
    ((s.world.registryOf c.place).handlers event) s

/-- The calls to which an event leads whose handlers may run events up to `depth` levels further
down. -/
def callsWithin : (depth : Nat) → Channel → Manner → String → Scene (Code σ) σ →
    List (Call (Code σ) σ)
  | 0, _, _, _, _ => []
  | depth + 1, c, manner, event, s =>
    (turnsWithin depth c manner event s).flatMap fun t =>
      Call.andNested (fun through => dispatchWithin depth (through.getD c))
        (fun through => callsWithin depth (through.getD c)) ⟨event, t.entry, t.found⟩

theorem dispatchWithin_inTurn (depth : Nat) (c : Channel) (manner : Manner) (event : String)
    (s : Scene (Code σ) σ) :
    InTurn (Code.performWithin depth c) event (manner.rule c.policy event).line? s
      (turnsWithin depth c manner event s) (dispatchWithin (depth + 1) c manner event s).2 := by
  cases manner with
  | stoppable =>
      obtain ⟨turns, h⟩ := runFrom_play (Code.performWithin depth c) event
        ((s.world.registryOf c.place).handlers event) 0 s
      have hturns := h.turns_eq
      subst hturns
      exact h.inTurn
  | unstoppable =>
      obtain ⟨turns, h⟩ := runAllFrom_play (Code.performWithin depth c) c.policy event
        ((s.world.registryOf c.place).handlers event) 0 s
      have hturns := h.turns_eq
      subst hturns
      exact h.inTurn

/-- What can be said of a scene, the calls in it and the scene after them, so that it holds of
dispatches if it holds of single steps. -/
structure Course (R : Scene (Code σ) σ → List (Call (Code σ) σ) → Scene (Code σ) σ → Prop) :
    Prop where
  stays (s : Scene (Code σ) σ) : R s [] s
  joins {s s' after : Scene (Code σ) σ} {first second : List (Call (Code σ) σ)} :
    R s first s' → R s' second after → R s (first ++ second) after
  puts (s : Scene (Code σ) σ) (index : Nat) (a : Argument) :
    R s [] { s with args := s.args.put index a }
  remembers (s : Scene (Code σ) σ) (memory : σ) :
    R s [] { s with world := { s.world with memory := memory } }
  changes (s : Scene (Code σ) σ) (place : Place) (c : Change (Code σ)) :
    R s [] { s with world := s.world.change place c }
  reports (s : Scene (Code σ) σ) (line : LogLine) : line.isNotice = false → R s [] (s.report line)
  calls (c : Call (Code σ) σ) : R c.found [c] c.begun
  nests {s inner : Scene (Code σ) σ} {args : Arguments} {nested : List (Call (Code σ) σ)} :
    R ⟨s.world, args⟩ nested inner → R s nested { s with world := inner.world }

namespace Course

variable {R : Scene (Code σ) σ → List (Call (Code σ) σ) → Scene (Code σ) σ → Prop}
  {dispatch : Dispatch σ} {nested : Nested σ}

theorem perform (hR : Course R) (hnested : ∀ through manner event s,
      R s (nested through manner event s) (dispatch through manner event s).2)
    (code : Code σ) :
    ∀ s, R s (Code.calls dispatch nested code s) (Code.perform dispatch code s).2 := by
  induction code with
  | finish result => exact hR.stays
  | look next ih => exact fun s => ih s.args s.world.memory s
  | put index a next ih => exact fun s => hR.joins (hR.puts s index a) (ih _)
  | remember memory next ih => exact fun s => hR.joins (hR.remembers s memory) (ih _)
  | register place event shape body about next _ ih =>
      exact fun s => hR.joins (hR.changes s place (.register ⟨event, shape, body, about⟩)) (ih _)
  | clear place event next ih =>
      intro s
      have hchange := hR.changes s place (.clear event)
      rw [Code.calls, Code.perform]
      rw [World.change, Registry.change] at hchange
      cases hclear : (s.world.registryOf place).clear event with
      | ok registry =>
          rw [hclear] at hchange
          exact hR.joins hchange (ih (.ok ()) _)
      | error error => exact ih (.error error) s
  | run through manner event args next ih =>
      intro s
      have hinner := hnested through manner event ⟨s.world, args⟩
      rw [Code.calls, Code.perform]
      obtain ⟨⟨answer, inner⟩, hdispatch⟩ :
          ∃ ended, dispatch through manner event ⟨s.world, args⟩ = ended := ⟨_, rfl⟩
      rw [hdispatch] at hinner ⊢
      exact hR.joins (hR.nests hinner) (ih answer inner.args _)

theorem played (hR : Course R) (hnested : ∀ through manner event s,
      R s (nested through manner event s) (dispatch through manner event s).2)
    {event : String} {t : Turn (Code σ) σ} (h : t.Played (Code.perform dispatch) event) :
    R t.found (Call.andNested dispatch nested ⟨event, t.entry, t.found⟩) t.left := by
  have hcall := hR.calls ⟨event, t.entry, t.found⟩
  rw [Call.andNested, ← List.singleton_append]
  refine hR.joins hcall ?_
  rw [h.left_eq]
  split
  · exact hR.perform hnested t.entry.body _
  · exact hR.stays _

theorem inTurn (hR : Course R) (hnested : ∀ through manner event s,
      R s (nested through manner event s) (dispatch through manner event s).2)
    {event : String} {line? : Turn (Code σ) σ → Option LogLine}
    (hline : ∀ t line, line? t = some line → line.isNotice = false)
    {turns : List (Turn (Code σ) σ)} :
    ∀ {s after : Scene (Code σ) σ},
      InTurn (Code.perform dispatch) event line? s turns after →
        R s (turns.flatMap fun t => Call.andNested dispatch nested ⟨event, t.entry, t.found⟩)
          after := by
  induction turns with
  | nil =>
      rintro s after rfl
      exact hR.stays after
  | cons t turns ih =>
      rintro s after ⟨rfl, hplayed, hrest⟩
      have hreport : R t.left [] (t.left.reportAny (line? t)) := by
        cases hsome : line? t with
        | none => exact hR.stays _
        | some line => exact hR.reports _ line (hline t line hsome)
      exact hR.joins (hR.played hnested hplayed) (hR.joins hreport (ih hrest))

/-- What holds of every step holds of a dispatch with all that it leads to. -/
theorem dispatchWithin (hR : Course R) (depth : Nat) :
    ∀ c manner event s, R s (callsWithin depth c manner event s)
      (dispatchWithin depth c manner event s).2 := by
  induction depth with
  | zero => exact fun _ _ _ s => hR.stays s
  | succ depth ih =>
      intro c manner event s
      exact hR.inTurn (fun through => ih (through.getD c)) (fun _ _ => Manner.isNotice_of_line?)
        (dispatchWithin_inTurn depth c manner event s)

theorem performWithin (hR : Course R) (depth : Nat) (c : Channel) (code : Code σ)
    (s : Scene (Code σ) σ) :
    ∃ calls, R s calls (Code.performWithin depth c code s).2 :=
  ⟨_, hR.perform (fun through => hR.dispatchWithin depth (through.getD c)) code s⟩

end Course

theorem Invoker.map_kind_dispatch (i : Invoker) (manner : Manner) (event : String)
    (s : Scene (Code σ) σ) :
    (i.dispatch manner event s).2.args.map (·.kind) = s.args.map (·.kind) := by
  have hR : Course fun (s : Scene (Code σ) σ) _ after =>
      after.args.map (·.kind) = s.args.map (·.kind) := by
    refine ⟨fun _ => rfl, fun h h' => h'.trans h, ?_, fun _ _ => rfl, fun _ _ _ => rfl,
      fun _ _ _ => rfl, fun c => ?_, fun _ => rfl⟩
    · exact fun s index a => Slots.map_kind_put s.args index a
    · unfold Call.begun
      split <;> rfl
  exact hR.dispatchWithin i.depth i.channel manner event s

end WikiEntry.Hook
