import WikiEntry.Proofs.Wiki.Steady

/-!
# Making tables on demand

What a request for a table or a look-up does, told from how the event goes in which handlers
contribute to the table: the answer and the state after it.
-/

namespace WikiEntry.Wiki.OnDemand

open Hook (Code DispatchError Invoker Scene)

variable {σ α : Type}

variable {t : OnDemand σ α} {i : Invoker} {st : Running σ} {table : α}
  {error : DispatchError}

/-- How the event goes in which handlers contribute to the table. -/
def ask (t : OnDemand σ α) (i : Invoker) (st : Running σ) :
    Except DispatchError Bool × Scene (Code σ) σ :=
  i.dispatch .stoppable t.event.name ⟨st.world, [⟨t.kind, t.source⟩]⟩

/-- The table that comes of the event. -/
def attempt (t : OnDemand σ α) (i : Invoker) (st : Running σ) : Except DispatchError α :=
  (t.ask i st).1.map fun _ => t.make ((t.ask i st).2.args.getD t.kind 0 t.source)

/-- The state in which the event leaves the wiki. -/
def asked (t : OnDemand σ α) (i : Invoker) (st : Running σ) : Running σ :=
  { st with world := (t.ask i st).2.world }

/-- The state after the event in which the table that came of it is kept. -/
def made (t : OnDemand σ α) (i : Invoker) (st : Running σ) : Running σ :=
  match t.attempt i st with
  | .ok table => t.keep (some table) (t.asked i st)
  | .error _ => t.asked i st

theorem made_of_ok (h : t.attempt i st = .ok table) :
    t.made i st = t.keep (some table) (t.asked i st) := by
  rw [made, h]

theorem rebuild_run (t : OnDemand σ α) (i : Invoker) (st : Running σ) :
    (t.rebuild i).run st = (t.attempt i st, t.made i st) := by
  have hrun : Live.run i t.event.name [⟨t.kind, t.source⟩] st =
      (((t.ask i st).1, (t.ask i st).2.args), t.asked i st) := rfl
  unfold rebuild made attempt
  rw [ExceptT.run_bind, bind_apply, liftM_apply, hrun]
  cases (t.ask i st).1 with
  | ok agreed => rfl
  | error error => rfl

theorem lookUp_of_kept (h : t.kept st = some table) : t.lookUp i st = (table, st) := by
  have hkept : t.kept ((get : Live σ (Running σ)) st).1 = some table := h
  unfold lookUp
  rw [bind_apply, hkept]
  rfl

theorem lookUp_of_ok (hempty : t.kept st = none) (h : t.attempt i st = .ok table) :
    t.lookUp i st = (table, t.made i st) := by
  have hkept : t.kept ((get : Live σ (Running σ)) st).1 = none := hempty
  unfold lookUp
  rw [bind_apply, hkept]
  change ((t.rebuild i).run >>= _ : Live σ α) st = _
  rw [bind_apply, rebuild_run, h]
  rfl

end WikiEntry.Wiki.OnDemand
