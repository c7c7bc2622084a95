import Mathlib.Data.List.Infix
import Mathlib.Logic.Function.Basic
import WikiEntry.Proofs.Hook.Noticing

/-!
# How the handlers of a process are told apart

A process may build any number of tables of fixed handlers and start any number of registries over
them. All registrations get their numbers from one counter, so each number is given once, and all
copies of a handler have the number of the registration that made it.

A handler is known by the name it was given, and an unnamed one by its number, written as a text.
Names are texts as well, and any text may be given as a name. So besides two handlers of one name,
an unnamed handler and one that was given its number as a name are taken for each other, and
nothing else is.
-/

namespace WikiEntry.Hook

variable {κ : Type}

/-! ### Identities -/

namespace Entry

variable {e e' : Entry κ}

def SameName (e e' : Entry κ) : Prop :=
  ∃ name, e.about.name = some name ∧ e'.about.name = some name

/-- Whether a handler was given as its name what an unnamed one is known by. -/
def PosesAs (e e' : Entry κ) : Prop :=
  e'.about.name = none ∧ e.about.name = some ("#" ++ toString e'.id)

theorem identity_of_some {name : String} (h : e.about.name = some name) : e.identity = name := by
  rw [identity, h, Option.getD_some]

theorem identity_of_none (h : e.about.name = none) : e.identity = "#" ++ toString e.id := by
  rw [identity, h, Option.getD_none]

theorem PosesAs.irrefl (h : e.PosesAs e) : False := by
  have hname := h.2
  rw [h.1] at hname
  cases hname

theorem SameName.name_ne_none (h : e.SameName e') : e'.about.name ≠ none := by
  obtain ⟨name, -, hname⟩ := h
  simp [hname]

theorem identity_eq_iff : e.identity = e'.identity ↔
    e.SameName e' ∨ (e.about.name = none ∧ e'.about.name = none ∧ e.id = e'.id) ∨
      e.PosesAs e' ∨ e'.PosesAs e := by
  cases hname : e.about.name with
  | none =>
      cases hname' : e'.about.name with
      | none =>
          rw [identity_eq_iff_of_unnamed hname hname']
          simp [SameName, PosesAs, hname, hname']
      | some name' =>
          rw [identity_of_none hname, identity_of_some hname']
          simp [SameName, PosesAs, hname, hname', eq_comm]
  | some name =>
      rw [identity_of_some hname]
      cases hname' : e'.about.name with
      | none =>
          rw [identity_of_none hname']
          simp [SameName, PosesAs, hname, hname']
      | some name' =>
          rw [identity_of_some hname']
          simp [SameName, PosesAs, hname, hname', eq_comm]

end Entry

/-! ### Processes -/

/-- What a process has of handlers: tables of fixed ones, registries, and handlers that stand on
their own. Tables and registries go by numbers, and those that nothing has happened to are empty.
The counter is that of the process; those of its registries do not matter. -/
structure Process (κ : Type) where
  tables : Nat → HandlerTable κ
  registries : Nat → Registry κ
  loose : List (Entry κ)
  nextId : Nat

namespace Process

inductive Step (κ : Type) where
  | add (table : Nat) (r : Registration κ)
  /-- A registry starts with a copy of a table. -/
  | start (registry table : Nat) (mode : Mode)
  | change (registry : Nat) (c : Change κ)
  /-- A handler is made that is in no table and no registry. -/
  | make (position : Nat) (r : Registration κ)

def Step.registration? : Step κ → Option (Registration κ)
  | add _ r | change _ (.register r) | make _ r => some r
  | start .. | change _ (.clear _) => none

/-- A process in which nothing has happened. -/
def fresh : Process κ where
  tables _ := ∅
  registries _ := { mode := .production }
  loose := []
  nextId := 1

/-- A registry with the counter of the process. -/
def registry (p : Process κ) (k : Nat) : Registry κ := { p.registries k with nextId := p.nextId }

/-- The position that a step gives to the handler it makes. -/
def position (p : Process κ) : Step κ → Nat
  | .add t r => ((p.tables t).of r.event).length + 1
  | .change k c => ((p.registries k).registered.of c.event).length + 1
  | .make position _ => position
  | .start .. => 0

def entry? (p : Process κ) (s : Step κ) : Option (Entry κ) :=
  s.registration?.map fun r => .ofRegistration r (p.position s) p.nextId

def perform (p : Process κ) : Step κ → Process κ
  | .add t r =>
    { p with
      tables := Function.update p.tables t ((p.tables t).append r p.nextId)
      nextId := p.nextId + 1 }
  | .start k t mode =>
    { p with registries := Function.update p.registries k { fixed := p.tables t, mode := mode } }
  | .change k c =>
    { p with
      registries := Function.update p.registries k ((p.registry k).change c)
      nextId := ((p.registry k).change c).nextId }
  | .make position r =>
    { p with
      loose := p.loose ++ [.ofRegistration r position p.nextId]
      nextId := p.nextId + 1 }

def after (p : Process κ) (steps : List (Step κ)) : Process κ := steps.foldl perform p

/-- The handlers that steps make, in the order of their registrations. -/
def made (p : Process κ) : List (Step κ) → List (Entry κ)
  | [] => []
  | s :: steps => (p.entry? s).toList ++ (p.perform s).made steps

/-- Whether the process has a copy of a handler somewhere. -/
inductive Holds (p : Process κ) (e : Entry κ) : Prop where
  | table (t : Nat) (event : String) : e ∈ (p.tables t).of event → p.Holds e
  | registry (k : Nat) (event : String) : e ∈ (p.registries k).handlers event → p.Holds e
  | loose : e ∈ p.loose → p.Holds e

variable {p : Process κ} {s : Step κ} {steps : List (Step κ)} {e e' : Entry κ} {n n' : Nat}

theorem after_append (first second : List (Step κ)) :
    p.after (first ++ second) = (p.after first).after second := List.foldl_append

theorem made_append (first second : List (Step κ)) :
    p.made (first ++ second) = p.made first ++ (p.after first).made second := by
  induction first generalizing p with
  | nil => rfl
  | cons s first ih =>
      rw [List.cons_append, made, made, ih, List.append_assoc]
      rfl

/-! ### One step -/

theorem nextId_perform :
    (p.perform s).nextId = p.nextId + s.registration?.toList.length := by
  cases s with
  | change k c => cases c <;> simp [perform, Step.registration?, registry, Change.cost]
  | _ => rfl

theorem mem_tables_perform {t : Nat} {event : String}
    (h : e ∈ ((p.perform s).tables t).of event) :
    e ∈ (p.tables t).of event ∨ p.entry? s = some e := by
  cases s with
  | add u r =>
      by_cases hu : t = u
      · subst hu
        simp only [perform, Function.update_self, HandlerTable.of_append] at h
        split at h
        · rename_i hevent
          subst hevent
          exact (List.mem_append.mp h).imp_right fun hnew =>
            congrArg some (List.mem_singleton.mp hnew).symm
        · exact .inl h
      · simp only [perform, Function.update_of_ne hu] at h
        exact .inl h
  | _ => exact .inl h

theorem mem_handlers_perform {k : Nat} {event : String}
    (h : e ∈ ((p.perform s).registries k).handlers event) : p.Holds e ∨ p.entry? s = some e := by
  cases s with
  | start l t mode =>
      by_cases hl : k = l
      · subst hl
        simp only [perform, Function.update_self] at h
        -- Nothing is registered yet, so this is a handler of the table.
        exact .inl (.table t event h)
      · simp only [perform, Function.update_of_ne hl] at h
        exact .inl (.registry k event h)
  | change l c =>
      by_cases hl : k = l
      · subst hl
        simp only [perform, Function.update_self, Registry.handlers_change, List.mem_append] at h
        rcases h with hregistered | hfixed
        · rcases Change.mem_leaves hregistered with hold | ⟨r, rfl, rfl, rfl⟩
          · exact .inl (.registry k event (List.mem_append_left _ hold))
          · exact .inr rfl
        · exact .inl (.registry k event (List.mem_append_right _ hfixed))
      · simp only [perform, Function.update_of_ne hl] at h
        exact .inl (.registry k event h)
  | _ => exact .inl (.registry k event h)

/-- A step brings no handlers into the process but the one that it makes. -/
theorem holds_of_holds_perform (h : (p.perform s).Holds e) : p.Holds e ∨ p.entry? s = some e := by
  cases h with
  | table t event he => exact (mem_tables_perform he).imp_left (.table t event)
  | registry k event he => exact mem_handlers_perform he
  | loose he =>
      cases s with
      | make position r =>
          exact (List.mem_append.mp he).imp .loose fun hnew =>
            congrArg some (List.mem_singleton.mp hnew).symm
      | _ => exact .inl (.loose he)

theorem holds_of_entry? (h : p.entry? s = some e) : (p.perform s).Holds e := by
  obtain ⟨r, hr, rfl⟩ := Option.map_eq_some_iff.mp h
  cases s with
  | add t r =>
      cases hr
      refine .table t r.event ?_
      simp [perform, HandlerTable.of_append, position]
  | start k t mode => cases hr
  | change k c =>
      cases c with
      | register r =>
          cases hr
          refine .registry k r.event ?_
          simp [perform, registry, Registry.handlers_change, Change.leaves, position, Change.event]
      | clear event => cases hr
  | make position r =>
      cases hr
      exact .loose (List.mem_append_right _ (List.mem_singleton_self _))

/-! ### All steps -/

def registrations (steps : List (Step κ)) : List (Registration κ) :=
  steps.filterMap Step.registration?

theorem registrations_cons (s : Step κ) (steps : List (Step κ)) :
    registrations (s :: steps) = s.registration?.toList ++ registrations steps := by
  cases hr : s.registration? <;> simp [registrations, hr]

theorem length_made : (p.made steps).length = (registrations steps).length := by
  induction steps generalizing p with
  | nil => rfl
  | cons s steps ih =>
      rw [made, registrations_cons, List.length_append, List.length_append, ih, entry?]
      cases s.registration? <;> rfl

/-- Each handler that is made has the number of its registration. -/
theorem exists_registration_of_made (h : (p.made steps)[n]? = some e) :
    ∃ r, (registrations steps)[n]? = some r ∧
      ∃ position, e = .ofRegistration r position (p.nextId + n) := by
  induction steps generalizing p n with
  | nil => cases h
  | cons s steps ih =>
      rw [made, entry?] at h
      rw [registrations_cons]
      have hnext : (p.perform s).nextId = p.nextId + s.registration?.toList.length :=
        nextId_perform
      cases hr : s.registration? with
      | none =>
          rw [hr] at h hnext
          have hsame : p.nextId = (p.perform s).nextId := hnext.symm
          rw [hsame]
          exact ih h
      | some r =>
          rw [hr] at h hnext
          cases n with
          | zero => exact ⟨r, rfl, p.position s, (Option.some.inj h).symm⟩
          | succ n =>
              have hsum : p.nextId + (n + 1) = (p.perform s).nextId + n := by
                rw [hnext, Option.toList_some, List.length_singleton]
                omega
              rw [hsum]
              exact ih h

theorem id_of_made (h : (p.made steps)[n]? = some e) : e.id = p.nextId + n := by
  obtain ⟨r, -, position, rfl⟩ := exists_registration_of_made h
  rfl

theorem eq_iff_of_made (h : (p.made steps)[n]? = some e) (h' : (p.made steps)[n']? = some e') :
    e = e' ↔ n = n' := by
  constructor
  · rintro rfl
    exact Nat.add_left_cancel ((id_of_made h).symm.trans (id_of_made h'))
  · rintro rfl
    exact Option.some.inj (h.symm.trans h')

/-- Whatever a process has at any time it had at the beginning, or a registration has made it. -/
theorem held_iff : (∃ before, before <+: steps ∧ (p.after before).Holds e) ↔
    p.Holds e ∨ e ∈ p.made steps := by
  -- From the end, since the moments before the last step are those of the shorter run.
  induction steps using List.reverseRecOn with
  | nil => simp [made, after]
  | append_singleton steps s ih =>
      have hlast : (p.after (steps ++ [s])) = (p.after steps).perform s := after_append steps [s]
      rw [made_append, List.mem_append, ← or_assoc, ← ih]
      simp only [List.prefix_concat_iff, made, List.append_nil, Option.mem_toList]
      constructor
      · rintro ⟨before, rfl | hbefore, hholds⟩
        · rw [hlast] at hholds
          exact (holds_of_holds_perform hholds).imp_left fun hold => ⟨steps, List.prefix_rfl, hold⟩
        · exact .inl ⟨before, hbefore, hholds⟩
      · rintro (⟨before, hbefore, hholds⟩ | hnew)
        · exact ⟨before, .inr hbefore, hholds⟩
        · exact ⟨steps ++ [s], .inl rfl, hlast ▸ holds_of_entry? hnew⟩

theorem not_holds_fresh : ¬(fresh : Process κ).Holds e := by
  intro h
  cases h with
  | table t event he => cases he
  | registry k event he => cases he
  | loose he => cases he

theorem identity_eq_iff_of_made (h : (p.made steps)[n]? = some e)
    (h' : (p.made steps)[n']? = some e') :
    e.identity = e'.identity ↔ e.SameName e' ∨ n = n' ∨ e.PosesAs e' ∨ e'.PosesAs e := by
  constructor
  · intro hidentity
    refine (Entry.identity_eq_iff.mp hidentity).imp_right (Or.imp_left fun hunnamed => ?_)
    have hid := hunnamed.2.2
    rw [id_of_made h, id_of_made h'] at hid
    exact Nat.add_left_cancel hid
  · rintro (hname | hsame | hposes)
    · exact Entry.identity_eq_iff.mpr (.inl hname)
    · exact congrArg Entry.identity ((eq_iff_of_made h h').mpr hsame)
    · exact Entry.identity_eq_iff.mpr (.inr (.inr hposes))

/-- An unnamed handler is taken for another if and only if the other was given its number. -/
theorem identity_eq_iff_of_made_unnamed (h : (p.made steps)[n]? = some e)
    (h' : (p.made steps)[n']? = some e') (hname : e'.about.name = none) :
    e.identity = e'.identity ↔ e = e' ∨ e.about.name = some ("#" ++ toString (p.nextId + n')) := by
  rw [identity_eq_iff_of_made h h', eq_iff_of_made h h', ← id_of_made h']
  simp [Entry.SameName, Entry.PosesAs, hname]

end Process

/-! ### Events -/

namespace Process

theorem registry_perform_change (p : Process κ) (k : Nat) (c : Change κ) :
    (p.perform (.change k c)).registry k = (p.registry k).change c := by
  simp only [registry, perform, Function.update_self]

theorem registry_perform_change_of_ne (p : Process κ) {k l : Nat} (h : k ≠ l) (c : Change κ) :
    (p.perform (.change k c)).registry l =
      { p.registry l with nextId := ((p.registry k).change c).nextId } := by
  simp only [registry, perform, Function.update_of_ne h.symm]

theorem registry_after_changes (p : Process κ) (k : Nat) (log : List (Change κ)) :
    (p.after (log.map (.change k))).registry k = (p.registry k).changes log := by
  induction log generalizing p with
  | nil => rfl
  | cons c log ih =>
      rw [Registry.changes, List.foldl_cons, ← registry_perform_change]
      exact ih _

section Worlds

variable {σ : Type} {number : Place → Nat}

/-- Whether the registries of a world are those of the process, which go by the numbers of their
places. -/
def Shows (p : Process κ) (number : Place → Nat) (w : World κ σ) : Prop :=
  ∀ place, w.registryOf place = p.registry (number place)

/-- The steps that are the changes of a log, each of which is made in a place. -/
def stepsOf (number : Place → Nat) (log : List (Place × Change κ)) : List (Step κ) :=
  log.map fun c => .change (number c.1) c.2

theorem Shows.change (hnumber : Function.Injective number) {p : Process κ} {w : World κ σ}
    (h : p.Shows number w) (place : Place) (c : Change κ) :
    (p.perform (.change (number place) c)).Shows number (w.change place c) := by
  intro other
  by_cases hother : place = other
  · subst hother
    rw [World.change, World.registryOf_withRegistry_self, registry_perform_change, h]
  · rw [World.change, World.registryOf_withRegistry_of_ne hother,
      registry_perform_change_of_ne p (hnumber.ne hother), h, h]

theorem course_shows (hnumber : Function.Injective number) :
    Course (σ := σ) fun s _ after => ∀ p : Process (Code σ), p.Shows number s.world →
      ∃ log, (p.after (stepsOf number log)).Shows number after.world where
  stays _ _ h := ⟨[], h⟩
  joins := by
    intro s s' after first second h h' p hp
    obtain ⟨log, hlog⟩ := h p hp
    obtain ⟨log', hlog'⟩ := h' _ hlog
    refine ⟨log ++ log', ?_⟩
    rwa [stepsOf, List.map_append, after_append]
  puts _ _ _ _ h := ⟨[], h⟩
  remembers _ _ _ h := ⟨[], h⟩
  changes _ place c _ h := ⟨[(place, c)], h.change hnumber place c⟩
  reports _ _ _ _ h := ⟨[], h⟩
  calls c p h := ⟨[], fun place => by rw [c.registryOf_begun]; exact h place⟩
  nests h := h

end Worlds

end Process

namespace Process

/-- A process that builds one table and starts one registry over it has the registry that starts
with the handlers of the table. -/
theorem registry_alone (mode : Mode) (fixed : List (Registration κ)) (log : List (Change κ))
    (k t : Nat) :
    (fresh.after (fixed.map (.add t) ++ .start k t mode :: log.map (.change k))).registry k =
      (Registry.ofFixed mode fixed).changes log := by
  have hfounded : Registry.ofFixed mode fixed =
      { fixed := (fresh.after (fixed.map (.add t))).tables t, mode := mode
        nextId := (fresh.after (fixed.map (.add t))).nextId } := by
    induction fixed using List.reverseRecOn with
    | nil => rfl
    | append_singleton fixed r ih =>
        rw [Registry.ofFixed_concat, ih, List.map_append, after_append]
        simp [after, perform]
  rw [after_append, after, List.foldl_cons, ← after, registry_after_changes, hfounded]
  simp only [registry, perform, Function.update_self]

section Told

variable {σ : Type}

/-- How the handlers of a process are told apart. -/
structure Identified (steps : List (Step (Code σ))) : Prop where
  /-- Every registration makes one handler, -/
  length : (fresh.made steps).length = (registrations steps).length
  /-- and the handler has the number that the registration has in the process. -/
  made {n : Nat} {e : Entry (Code σ)} : (fresh.made steps)[n]? = some e →
    ∃ r, (registrations steps)[n]? = some r ∧ ∃ position, e = .ofRegistration r position (n + 1)
  /-- Whatever the process has at any time is a copy of one of these. -/
  held_iff (e : Entry (Code σ)) :
    (∃ before, before <+: steps ∧ (fresh.after before).Holds e) ↔ e ∈ fresh.made steps
  /-- Steps that build one table, start a registry over it and change that one leave the registry
  that starts with the handlers of the table. -/
  alone (mode : Mode) (fixed : List (Registration (Code σ))) (log : List (Change (Code σ)))
    (k t : Nat) : steps = fixed.map (.add t) ++ .start k t mode :: log.map (.change k) →
      (fresh.after steps).registry k = (Registry.ofFixed mode fixed).changes log
  /-- What handlers change while an event runs, in whichever registries, is changed by steps as
  well. -/
  runs (number : Place → Nat) (depth : Nat) (c : Channel) (manner : Manner) (event : String)
    (s : Scene (Code σ) σ) :
    Function.Injective number → (fresh.after steps).Shows number s.world →
      ∃ log, (fresh.after (steps ++ stepsOf number log)).Shows number
        (dispatchWithin depth c manner event s).2.world
  /-- Two handlers have one identity if and only if they were given one name, they are copies of
  one handler, or one was given the number of the other, unnamed one as its name. -/
  identity_eq_iff {n n' : Nat} {e e' : Entry (Code σ)} :
    (fresh.made steps)[n]? = some e → (fresh.made steps)[n']? = some e' →
      (e.identity = e'.identity ↔ e.SameName e' ∨ n = n' ∨ e.PosesAs e' ∨ e'.PosesAs e)
  /-- So handlers are told apart as they should be if and only if no name is such a number. -/
  told_apart_iff :
    (∀ (n n' : Nat) (e e' : Entry (Code σ)),
      (fresh.made steps)[n]? = some e → (fresh.made steps)[n']? = some e' →
        (e.identity = e'.identity ↔ e.SameName e' ∨ n = n')) ↔
    ∀ e ∈ fresh.made steps, ∀ e' ∈ fresh.made steps, ¬e.PosesAs e'
  /-- The record of notices has an unnamed handler of an event if and only if a call before was due
  to be noticed, for the event, of a copy of it or of a handler with its number as a name. -/
  noticed_iff {n : Nat} {e : Entry (Code σ)} {event : String} {earlier : List (Call (Code σ) σ)} :
    (fresh.made steps)[n]? = some e → e.about.name = none →
      (∀ c ∈ earlier, c.entry ∈ fresh.made steps) →
        ((noticesOf earlier).mentions event e.identity = true ↔
          ∃ c ∈ earlier, c.due = true ∧ c.event = event ∧
            (c.entry = e ∨ c.entry.about.name = some ("#" ++ toString (n + 1))))

theorem fresh_identified (steps : List (Step (Code σ))) : Identified steps where
  length := length_made
  made h := by
    rw [Nat.add_comm]
    exact exists_registration_of_made h
  held_iff e := by rw [held_iff, or_iff_right not_holds_fresh]
  alone mode fixed log k t h := h ▸ registry_alone mode fixed log k t
  runs number depth c manner event s hnumber h := by
    obtain ⟨log, hlog⟩ := (course_shows hnumber).dispatchWithin depth c manner event s _ h
    exact ⟨log, by rwa [after_append]⟩
  identity_eq_iff := identity_eq_iff_of_made
  told_apart_iff := by
    constructor
    · intro htold e he e' he' hposes
      obtain ⟨n, h⟩ := List.mem_iff_getElem?.mp he
      obtain ⟨n', h'⟩ := List.mem_iff_getElem?.mp he'
      have hsame : e.identity = e'.identity :=
        (identity_eq_iff_of_made h h').mpr (.inr (.inr (.inl hposes)))
      rcases (htold n n' e e' h h').mp hsame with hname | rfl
      · exact hname.name_ne_none hposes.1
      · cases h.symm.trans h'
        exact hposes.irrefl
    · intro hnone n n' e e' h h'
      have he := List.mem_of_getElem? h
      have he' := List.mem_of_getElem? h'
      simp [identity_eq_iff_of_made h h', hnone e he e' he', hnone e' he' e he]
  noticed_iff {n _ _ _} h hname hearlier := by
    rw [Notices.mentions, List.contains_iff_mem, mem_given_noticesOf]
    refine exists_congr fun c => and_congr_right fun hc => and_congr_right fun _ => ?_
    obtain ⟨m, hm⟩ := List.mem_iff_getElem?.mp (hearlier c hc)
    rw [Call.pair, Prod.mk.injEq, identity_eq_iff_of_made_unnamed hm h hname, Nat.add_comm n 1]
    rfl

end Told

/-- Two handlers of an event, where the first has the number of the second as its name. -/
def taken : List (Step (Code Unit)) :=
  [.start 0 0 .test,
    .change 0 (.register { event := "Old", shape := .plain, body := .finish (.ok .proceed)
                           about := { name := some "#2", deprecatedSince := some "1.31" } }),
    .change 0 (.register { event := "Old", shape := .plain, body := .finish (.ok .proceed)
                           about := { deprecatedSince := some "1.31" } })]

/-- The two are taken for one, and nobody learns that the second is deprecated. -/
theorem identity_taken : ∃ e e', fresh.made taken = [e, e'] ∧ e.identity = e'.identity ∧
    ¬e.SameName e' ∧
    (Invoker.dispatch {} .stoppable "Old"
      ⟨.fresh ((fresh.after taken).registry 0) (fun k => (fresh.after taken).registry (k + 1)) (),
        []⟩).2.world.log =
        [.deprecated "Old" "#2" "1.31"] := by
  refine ⟨_, _, rfl, rfl, ?_, rfl⟩
  rintro ⟨name, -, hname⟩
  cases hname

end Process

end WikiEntry.Hook
