import Mathlib.Data.List.DropRight
import Mathlib.Data.List.Sort
import Mathlib.Data.String.Basic
import Mathlib.Logic.Equiv.Basic
import WikiEntry.Hook.Registry
import WikiEntry.Proofs.Entering

/-!
# What a registry tells of its history

A registry is changed by registering handlers and by taking those of an event away. Everything it
answers can be told from the log of these changes: the handlers of an event are those that were
registered for it since they were last taken away, and after them the fixed ones. Changes that
concern different events do not touch each other. The one thing they share is the counter from
which registrations get their numbers, so exchanging two of them exchanges two numbers.
-/

namespace WikiEntry.Hook

open Std

variable {κ : Type}

/-! ### Tables -/

namespace HandlerTable

variable {table : HandlerTable κ}

theorem of_append (r : Registration κ) (id : Nat) (event : String) :
    (table.append r id).of event =
      if r.event = event then
        table.of event ++ [.ofRegistration r ((table.of event).length + 1) id]
      else table.of event := by
  unfold append of
  rw [TreeMap.getD_insert]
  by_cases h : r.event = event
  · subst h
    simp
  · simp [h]

theorem of_erase (other event : String) :
    HandlerTable.of (table.erase other) event = if other = event then [] else table.of event := by
  unfold of
  rw [TreeMap.getD_erase]
  simp

theorem mem_events_iff {event : String} : event ∈ table.events ↔ table.of event ≠ [] := by
  have hkeys : table.of event ≠ [] → event ∈ table.keys := by
    intro hne
    rw [TreeMap.mem_keys]
    by_contra hnot
    exact hne (TreeMap.getD_eq_fallback hnot)
  rw [events, List.mem_filter]
  simpa using hkeys

end HandlerTable

/-- The entries that registrations for an event make, where each registration comes with its
number. -/
def entriesOf (event : String) (rs : List (Registration κ × Nat)) : List (Entry κ) :=
  (rs.filter fun r => r.1.event = event).mapIdx fun k r => .ofRegistration r.1 (k + 1) r.2

theorem entriesOf_concat (rs : List (Registration κ × Nat)) (r : Registration κ) (id : Nat)
    (event : String) :
    entriesOf event (rs ++ [(r, id)]) =
      if r.event = event then
        entriesOf event rs ++ [.ofRegistration r ((entriesOf event rs).length + 1) id]
      else entriesOf event rs := by
  unfold entriesOf
  by_cases h : r.event = event
  · simp [h, List.mapIdx_concat]
  · simp [h]

theorem exists_of_mem_entriesOf {event : String} {rs : List (Registration κ × Nat)} {e : Entry κ}
    (h : e ∈ entriesOf event rs) : ∃ r ∈ rs, e.id = r.2 := by
  obtain ⟨k, hk, rfl⟩ := List.mem_mapIdx.mp h
  exact ⟨_, (List.mem_filter.mp (List.getElem_mem hk)).1, rfl⟩

/-! ### Changes -/

/-- A change that is asked of a registry. -/
inductive Change (κ : Type) where
  | register (r : Registration κ)
  | clear (event : String)

namespace Change

def event : Change κ → String
  | register r => r.event
  | clear event => event

def clears (mode : Mode) (event : String) : Change κ → Bool
  | register _ => false
  | clear other => mode = .test ∧ other = event

def registered? (number : Nat) : Change κ → Option (Registration κ × Nat)
  | register r => some (r, number)
  | clear _ => none

/-- How many numbers the change uses up. -/
def cost : Change κ → Nat
  | register _ => 1
  | clear _ => 0

/-- What the change leaves of the registered handlers of an event. -/
def leaves (mode : Mode) (number : Nat) (event : String) (entries : List (Entry κ)) :
    Change κ → List (Entry κ)
  | register r =>
    if r.event = event then entries ++ [.ofRegistration r (entries.length + 1) number]
    else entries
  | clear other => if mode = .test ∧ other = event then [] else entries

theorem leaves_of_ne {mode : Mode} {number : Nat} {event : String} {entries : List (Entry κ)}
    {c : Change κ} (h : c.event ≠ event) : c.leaves mode number event entries = entries := by
  cases c with
  | register r => exact if_neg h
  | clear other => exact if_neg fun hclears => h hclears.2

theorem mem_leaves {mode : Mode} {number : Nat} {event : String} {entries : List (Entry κ)}
    {c : Change κ} {e : Entry κ} (h : e ∈ c.leaves mode number event entries) :
    e ∈ entries ∨ ∃ r, c = register r ∧ r.event = event ∧
      e = .ofRegistration r (entries.length + 1) number := by
  cases c with
  | register r =>
      rw [leaves] at h
      split at h
      · rename_i hevent
        exact (List.mem_append.mp h).imp_right fun hnew =>
          ⟨r, rfl, hevent, List.mem_singleton.mp hnew⟩
      · exact .inl h
  | clear other =>
      rw [leaves] at h
      split at h
      · cases h
      · exact .inl h

end Change

namespace Registry

variable {reg : Registry κ} {c d : Change κ}

/-- The registry after a change. A change that is refused leaves it as it was. -/
def change (reg : Registry κ) : Change κ → Registry κ
  | .register r => reg.register r
  | .clear event =>
    match reg.clear event with
    | .ok cleared => cleared
    | .error _ => reg

def changes (reg : Registry κ) (log : List (Change κ)) : Registry κ := log.foldl change reg

theorem changes_concat (log : List (Change κ)) (c : Change κ) :
    reg.changes (log ++ [c]) = (reg.changes log).change c := by
  simp [changes]

theorem clear_eq (reg : Registry κ) (event : String) :
    reg.clear event = match reg.mode with
      | .test => .ok { reg with registered := reg.registered.erase event }
      | .production => .error (.clearInOperation event) := rfl

@[simp] theorem change_mode : (reg.change c).mode = reg.mode := by
  cases c with
  | register r => rfl
  | clear event => cases hmode : reg.mode <;> simp [change, clear_eq, hmode]

@[simp] theorem change_fixed : (reg.change c).fixed = reg.fixed := by
  cases c with
  | register r => rfl
  | clear event => cases hmode : reg.mode <;> simp [change, clear_eq, hmode]

@[simp] theorem change_nextId : (reg.change c).nextId = reg.nextId + c.cost := by
  cases c with
  | register r => rfl
  | clear event => cases hmode : reg.mode <;> simp [change, clear_eq, hmode, Change.cost]

theorem of_change (c : Change κ) (event : String) :
    (reg.change c).registered.of event =
      c.leaves reg.mode reg.nextId event (reg.registered.of event) := by
  cases c with
  | register r => exact HandlerTable.of_append r reg.nextId event
  | clear other =>
      cases hmode : reg.mode with
      | test => simp [change, clear_eq, hmode, HandlerTable.of_erase, Change.leaves]
      | production => simp [change, clear_eq, hmode, Change.leaves]

/-! ### Logs -/

/-- A log whose changes come with the number that the next registration gets when each is made. -/
def numbered (first : Nat) : List (Change κ) → List (Change κ × Nat)
  | [] => []
  | c :: log => (c, first) :: numbered (first + c.cost) log

theorem numbered_concat (reg : Registry κ) (log : List (Change κ)) (c : Change κ) :
    numbered reg.nextId (log ++ [c]) =
      numbered reg.nextId log ++ [(c, (reg.changes log).nextId)] := by
  induction log generalizing reg with
  | nil => rfl
  | cons d log ih =>
      rw [List.cons_append, numbered, numbered, ← change_nextId, ih, List.cons_append]
      rfl

/-- The registrations that a log makes after the handlers of an event were last taken away. -/
def standing (mode : Mode) (event : String) (log : List (Change κ × Nat)) :
    List (Registration κ × Nat) :=
  (log.rtakeWhile fun c => !c.1.clears mode event).filterMap fun c => c.1.registered? c.2

theorem standing_concat (mode : Mode) (event : String) (log : List (Change κ × Nat))
    (c : Change κ) (number : Nat) :
    standing mode event (log ++ [(c, number)]) =
      if c.clears mode event then []
      else standing mode event log ++ (c.registered? number).toList := by
  unfold standing
  rw [List.rtakeWhile_concat]
  cases c.clears mode event with
  | true => rfl
  | false => cases hregistered : c.registered? number <;> simp [hregistered]

/-! ### Registries after logs -/

@[simp] theorem changes_mode (log : List (Change κ)) : (reg.changes log).mode = reg.mode := by
  induction log using List.reverseRecOn with
  | nil => rfl
  | append_singleton log c ih => rw [changes_concat, change_mode, ih]

@[simp] theorem changes_fixed (log : List (Change κ)) : (reg.changes log).fixed = reg.fixed := by
  induction log using List.reverseRecOn with
  | nil => rfl
  | append_singleton log c ih => rw [changes_concat, change_fixed, ih]

/-- The handlers that are registered after a log, if none were before it. -/
theorem of_changes (hnone : ∀ event, reg.registered.of event = []) (log : List (Change κ))
    (event : String) :
    (reg.changes log).registered.of event =
      entriesOf event (standing reg.mode event (numbered reg.nextId log)) := by
  induction log using List.reverseRecOn with
  | nil => exact hnone event
  | append_singleton log c ih =>
      rw [changes_concat, of_change, changes_mode, numbered_concat, standing_concat, ih]
      cases c with
      | register r => simp [Change.leaves, Change.clears, Change.registered?, entriesOf_concat]
      | clear other =>
          simp only [Change.leaves, Change.clears, Change.registered?, decide_eq_true_eq]
          split <;> simp [entriesOf]

theorem ofFixed_concat (mode : Mode) (fixed : List (Registration κ)) (r : Registration κ) :
    ofFixed mode (fixed ++ [r]) =
      { ofFixed mode fixed with
        fixed := (ofFixed mode fixed).fixed.append r (ofFixed mode fixed).nextId
        nextId := (ofFixed mode fixed).nextId + 1 } := by
  simp [ofFixed]

/-- A registry starts with the handlers of its table, numbered from one, and no others. -/
theorem ofFixed_eq (mode : Mode) (fixed : List (Registration κ)) :
    (ofFixed mode fixed).mode = mode ∧ (ofFixed mode fixed).registered = ∅ ∧
      (ofFixed mode fixed).nextId = fixed.length + 1 ∧
      ∀ event, (ofFixed mode fixed).fixed.of event = entriesOf event (fixed.zipIdx 1) := by
  induction fixed using List.reverseRecOn with
  | nil => exact ⟨rfl, rfl, rfl, fun _ => rfl⟩
  | append_singleton fixed r ih =>
      obtain ⟨hmode, hregistered, hnext, hfixed⟩ := ih
      rw [ofFixed_concat]
      refine ⟨hmode, hregistered, by simp [hnext], fun event => ?_⟩
      rw [HandlerTable.of_append, hfixed, hnext, List.zipIdx_append, Nat.add_comm 1]
      exact (entriesOf_concat _ _ _ _).symm

theorem mode_changes_ofFixed (mode : Mode) (fixed : List (Registration κ))
    (log : List (Change κ)) : ((ofFixed mode fixed).changes log).mode = mode := by
  rw [changes_mode, (ofFixed_eq mode fixed).1]

theorem handlers_changes (mode : Mode) (fixed : List (Registration κ)) (log : List (Change κ))
    (event : String) :
    ((ofFixed mode fixed).changes log).handlers event =
      entriesOf event (standing mode event (numbered (fixed.length + 1) log)) ++
        entriesOf event (fixed.zipIdx 1) := by
  obtain ⟨hmode, hregistered, hnext, hfixed⟩ := ofFixed_eq mode fixed
  have hnone : ∀ event, (ofFixed mode fixed).registered.of event = [] := by
    intro event
    rw [hregistered]
    rfl
  rw [handlers, of_changes hnone, changes_fixed, hfixed, hmode, hnext]

/-! ### Questions -/

theorem isRegistered_iff {event : String} :
    reg.isRegistered event = true ↔ reg.handlers event ≠ [] := by
  simp [isRegistered, handlers, or_iff_not_imp_left]

theorem mem_events_iff {event : String} : event ∈ reg.events ↔ reg.handlers event ≠ [] := by
  rw [events, TreeSet.mem_toList, mem_foldl_insert, List.mem_append,
    HandlerTable.mem_events_iff, HandlerTable.mem_events_iff, handlers]
  simp [or_iff_not_imp_left]

theorem events_ascending (reg : Registry κ) : reg.events.Pairwise (· < ·) := by
  refine List.Pairwise.imp ?_ TreeSet.ordered_toList
  exact fun h => compare_lt_iff_lt.mp h

theorem events_congr {reg' : Registry κ}
    (h : ∀ event, reg.handlers event = [] ↔ reg'.handlers event = []) :
    reg.events = reg'.events := by
  refine reg.events_ascending.eq_of_mem_iff reg'.events_ascending fun event => ?_
  rw [mem_events_iff, mem_events_iff, ne_eq, ne_eq, h]

/-! ### Changes about different events -/

theorem handlers_change (reg : Registry κ) (c : Change κ) (event : String) :
    (reg.change c).handlers event =
      c.leaves reg.mode reg.nextId event (reg.registered.of event) ++ reg.fixed.of event := by
  rw [handlers, of_change, change_fixed]

theorem handlers_change_of_ne {event : String} (h : c.event ≠ event) :
    (reg.change c).handlers event = reg.handlers event := by
  rw [handlers_change, Change.leaves_of_ne h, handlers]

/-- Whether the counter is beyond the numbers of all handlers. -/
def Counted (reg : Registry κ) : Prop :=
  ∀ event, ∀ e ∈ reg.handlers event, e.id < reg.nextId

theorem Counted.change (h : reg.Counted) (c : Change κ) : (reg.change c).Counted := by
  intro event e he
  rw [handlers_change, List.mem_append] at he
  rw [change_nextId]
  rcases he with he | he
  · rcases Change.mem_leaves he with hold | ⟨r, rfl, -, rfl⟩
    · exact Nat.lt_add_right _ (h event e (List.mem_append_left _ hold))
    · exact Nat.lt_succ_self reg.nextId
  · exact Nat.lt_add_right _ (h event e (List.mem_append_right _ he))

theorem ofFixed_counted (mode : Mode) (fixed : List (Registration κ)) :
    (ofFixed mode fixed).Counted := by
  obtain ⟨-, hregistered, hnext, hfixed⟩ := ofFixed_eq mode fixed
  intro event e he
  have hnone : (ofFixed mode fixed).registered.of event = [] := by
    rw [hregistered]
    rfl
  rw [handlers, hnone, hfixed, List.nil_append] at he
  obtain ⟨r, hr, hid⟩ := exists_of_mem_entriesOf he
  have hle := (List.mem_zipIdx hr).2.1
  omega

theorem changes_counted (mode : Mode) (fixed : List (Registration κ)) (log : List (Change κ)) :
    ((ofFixed mode fixed).changes log).Counted := by
  induction log using List.reverseRecOn with
  | nil => exact ofFixed_counted mode fixed
  | append_singleton log c ih =>
      rw [changes_concat]
      exact ih.change c

/-- How the numbers of handlers move if two changes are made in the other order: two registrations
exchange theirs. -/
def exchanged (reg : Registry κ) : Change κ → Change κ → Equiv.Perm Nat
  | .register _, .register _ => Equiv.swap reg.nextId (reg.nextId + 1)
  | _, _ => Equiv.refl Nat

theorem exchanged_of_lt (c d : Change κ) {n : Nat} (h : n < reg.nextId) :
    reg.exchanged c d n = n := by
  cases c <;> cases d <;> simp only [exchanged, Equiv.refl_apply]
  exact Equiv.swap_apply_of_ne_of_ne (by omega) (by omega)

theorem exchanged_of_le (c d : Change κ) {n : Nat} (h : reg.nextId + c.cost + d.cost ≤ n) :
    reg.exchanged c d n = n := by
  cases c <;> cases d <;> simp only [exchanged, Equiv.refl_apply]
  simp only [Change.cost] at h
  exact Equiv.swap_apply_of_ne_of_ne (by omega) (by omega)

theorem exchanged_later (r : Registration κ) (d : Change κ) :
    reg.exchanged (.register r) d (reg.nextId + d.cost) = reg.nextId := by
  cases d with
  | register s => exact Equiv.swap_apply_right reg.nextId (reg.nextId + 1)
  | clear event => rfl

theorem exchanged_earlier (c : Change κ) (r : Registration κ) :
    reg.exchanged c (.register r) reg.nextId = reg.nextId + c.cost := by
  cases c with
  | register s => exact Equiv.swap_apply_left reg.nextId (reg.nextId + 1)
  | clear event => rfl

end Registry

/-- The handler with another number. -/
def Entry.renumber (f : Nat → Nat) (e : Entry κ) : Entry κ := { e with id := f e.id }

theorem map_renumber_of_forall {f : Nat → Nat} {entries : List (Entry κ)}
    (h : ∀ e ∈ entries, f e.id = e.id) : entries.map (Entry.renumber f) = entries := by
  conv => rhs; rw [← List.map_id entries]
  refine List.map_congr_left fun e he => ?_
  rw [Entry.renumber, h e he]
  rfl

theorem Change.map_leaves (f : Nat → Nat) (mode : Mode) (number : Nat) (event : String)
    (entries : List (Entry κ)) (c : Change κ) :
    (c.leaves mode number event entries).map (Entry.renumber f) =
      c.leaves mode (f number) event (entries.map (Entry.renumber f)) := by
  cases c with
  | register r =>
      rw [leaves, leaves]
      split
      · rw [List.map_append, List.length_map]
        rfl
      · rfl
  | clear other =>
      rw [leaves, leaves]
      split <;> rfl

namespace Registry

variable {reg : Registry κ} {c d : Change κ}

/-- Whether one registry is the other but for the numbers of its handlers. -/
structure Renumbers (f : Nat → Nat) (reg reg' : Registry κ) : Prop where
  mode : reg.mode = reg'.mode
  nextId : reg.nextId = reg'.nextId
  registered (event : String) :
    reg.registered.of event = (reg'.registered.of event).map (Entry.renumber f)
  fixed (event : String) : reg.fixed.of event = (reg'.fixed.of event).map (Entry.renumber f)
  later (n : Nat) : reg'.nextId ≤ n → f n = n

namespace Renumbers

variable {f : Nat → Nat} {reg' : Registry κ}

theorem change (h : reg.Renumbers f reg') (c : Change κ) :
    (reg.change c).Renumbers f (reg'.change c) where
  mode := by rw [change_mode, change_mode, h.mode]
  nextId := by rw [change_nextId, change_nextId, h.nextId]
  registered event := by
    rw [of_change, of_change, Change.map_leaves, h.later _ le_rfl, h.mode, h.nextId, h.registered]
  fixed event := by rw [change_fixed, change_fixed, h.fixed]
  later n hn := by
    rw [change_nextId] at hn
    exact h.later n (by omega)

theorem changes (h : reg.Renumbers f reg') (log : List (Change κ)) :
    (reg.changes log).Renumbers f (reg'.changes log) := by
  induction log using List.reverseRecOn with
  | nil => exact h
  | append_singleton log c ih =>
      rw [changes_concat, changes_concat]
      exact ih.change c

theorem handlers (h : reg.Renumbers f reg') (event : String) :
    reg.handlers event = (reg'.handlers event).map (Entry.renumber f) := by
  rw [Registry.handlers, Registry.handlers, List.map_append, h.registered, h.fixed]

theorem events (h : reg.Renumbers f reg') : reg.events = reg'.events :=
  events_congr fun event => by rw [h.handlers, List.map_eq_nil_iff]

end Renumbers

/-- Two changes about different events may be made in either order, but two registrations exchange
their numbers. -/
theorem change_change_renumbers (hcounted : reg.Counted) (hne : c.event ≠ d.event) :
    ((reg.change c).change d).Renumbers (reg.exchanged c d) ((reg.change d).change c) := by
  have hold : ∀ event entries, entries ⊆ reg.handlers event →
      entries.map (Entry.renumber (reg.exchanged c d)) = entries := fun event entries hsub =>
    map_renumber_of_forall fun e he => exchanged_of_lt c d (hcounted event e (hsub he))
  refine ⟨by simp, by simp [Nat.add_right_comm], fun event => ?_, fun event => ?_, fun n hn => ?_⟩
  · have hregistered := hold event _ (List.subset_append_left (reg.registered.of event) _)
    simp only [of_change, change_mode, change_nextId]
    -- At most one of the changes is about the event; the number it gives depends on the other.
    by_cases hc : c.event = event
    · have hd : d.event ≠ event := fun heq => hne (hc.trans heq.symm)
      rw [Change.leaves_of_ne hd, Change.leaves_of_ne hd, Change.map_leaves, hregistered]
      cases c with
      | register r => rw [exchanged_later]
      | clear other => rfl
    · rw [Change.leaves_of_ne hc, Change.leaves_of_ne hc, Change.map_leaves, hregistered]
      cases d with
      | register r => rw [exchanged_earlier]
      | clear other => rfl
  · rw [change_fixed, change_fixed, change_fixed, change_fixed]
    exact (hold event _ (List.subset_append_right _ _)).symm
  · rw [change_nextId, change_nextId] at hn
    exact exchanged_of_le c d (by omega)

/-! ### The registry after a log -/

/-- What a registry tells of the log of changes that made it from a table of fixed handlers. -/
structure Tells (mode : Mode) (fixed : List (Registration κ)) (log : List (Change κ))
    (reg : Registry κ) : Prop where
  handlers (event : String) :
    reg.handlers event =
      entriesOf event (standing mode event (numbered (fixed.length + 1) log)) ++
        entriesOf event (fixed.zipIdx 1)
  /-- An unnamed handler is called after its shape and its place among the registered ones. -/
  unnamed (event : String) (k : Nat) (e : Entry κ) :
    (entriesOf event (standing mode event (numbered (fixed.length + 1) log)))[k]? = some e →
      e.about.name = none → e.name = e.shape.label ++ "#" ++ toString (k + 1)
  isRegistered_iff (event : String) : reg.isRegistered event = true ↔ reg.handlers event ≠ []
  mem_events_iff (event : String) : event ∈ reg.events ↔ reg.handlers event ≠ []
  events_ascending : reg.events.Pairwise (· < ·)
  fixed : reg.fixed = (ofFixed mode fixed).fixed
  /-- A change does not touch the other events. -/
  apart (c : Change κ) (event : String) : c.event ≠ event →
    (reg.change c).handlers event = reg.handlers event ∧
      (reg.change c).isRegistered event = reg.isRegistered event ∧
      (event ∈ (reg.change c).events ↔ event ∈ reg.events)
  /-- Changes of different events may be made in either order, whatever comes after them. -/
  commute (c d : Change κ) (later : List (Change κ)) : c.event ≠ d.event →
    (∀ event, (reg.changes (c :: d :: later)).handlers event =
      ((reg.changes (d :: c :: later)).handlers event).map
        (Entry.renumber (reg.exchanged c d))) ∧
      (reg.changes (c :: d :: later)).events = (reg.changes (d :: c :: later)).events
  clear_of_test (event : String) : mode = .test →
    reg.clear event = .ok (reg.change (.clear event))
  clear_of_production (event : String) : mode = .production →
    reg.clear event = .error (.clearInOperation event) ∧ reg.change (.clear event) = reg

theorem name_of_mem_entriesOf {event : String} {rs : List (Registration κ × Nat)} {k : Nat}
    {e : Entry κ} (h : (entriesOf event rs)[k]? = some e) (hname : e.about.name = none) :
    e.name = e.shape.label ++ "#" ++ toString (k + 1) := by
  rw [entriesOf, List.getElem?_mapIdx, Option.map_eq_some_iff] at h
  obtain ⟨r, -, rfl⟩ := h
  have hnone : r.1.about.name = none := hname
  simp [Entry.ofRegistration, hnone]

theorem changes_tells (mode : Mode) (fixed : List (Registration κ)) (log : List (Change κ)) :
    Tells mode fixed log ((ofFixed mode fixed).changes log) where
  handlers := handlers_changes mode fixed log
  unnamed _ _ _ := name_of_mem_entriesOf
  isRegistered_iff _ := isRegistered_iff
  mem_events_iff _ := mem_events_iff
  events_ascending := events_ascending _
  fixed := changes_fixed log
  apart c event hne := by
    have hhandlers : (((ofFixed mode fixed).changes log).change c).handlers event =
        ((ofFixed mode fixed).changes log).handlers event := handlers_change_of_ne hne
    refine ⟨hhandlers, Bool.eq_iff_iff.mpr ?_, ?_⟩
    · rw [isRegistered_iff, isRegistered_iff, hhandlers]
    · rw [mem_events_iff, mem_events_iff, hhandlers]
  commute c d later hne := by
    have hpair := change_change_renumbers (changes_counted mode fixed log) hne
    exact ⟨(hpair.changes later).handlers, (hpair.changes later).events⟩
  clear_of_test event hmode := by
    rw [change, clear_eq, mode_changes_ofFixed, hmode]
  clear_of_production event hmode := by
    rw [change, clear_eq, mode_changes_ofFixed, hmode]
    exact ⟨rfl, rfl⟩

end Registry

end WikiEntry.Hook
