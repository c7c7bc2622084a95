import WikiEntry.Proofs.Hook.History
import WikiEntry.Proofs.Namespace.Table
import WikiEntry.Proofs.SpecialPage.Table
import WikiEntry.Proofs.Wiki.OnDemand

/-!
# Tables are kept as a whole or not at all

A table on demand is made from what the handlers of its event leave of its source. It is kept if
the event does not fail, also if a handler stops it, and until it is forgotten or another is kept.
A failed event leaves the table that is kept, and nothing of what its handlers contributed.
-/

namespace WikiEntry.Wiki

open Hook (Argument Code DispatchError Invoker Scene World)

variable {σ α : Type}

namespace OnDemand

variable {t : OnDemand σ α} {i : Invoker} {st : Running σ} {table : α}

/-- What can be done with a table, and anything else that leaves it alone. -/
inductive Use (t : OnDemand σ α) where
  | lookUp
  | request (force : Bool)
  | invalidate
  | elsewhere (change : Running σ → Running σ)
      (hkept : ∀ st, t.kept (change st) = t.kept st)

/-- What can happen to a table. -/
inductive Happening (α : Type) where
  | built (table : α)
  | failed (error : DispatchError)
  | forgotten

/-- What comes of an attempt. -/
def Happening.of : Except DispatchError α → Happening α
  | .ok table => built table
  | .error error => failed error

/-- The table that is kept after something happened. -/
def Happening.leaves (kept : Option α) : Happening α → Option α
  | built table => some table
  | failed _ => kept
  | forgotten => none

namespace Use

def after (i : Invoker) (st : Running σ) : Use t → Running σ
  | lookUp => (t.lookUp i st).2
  | request force => ((t.request i force).run st).2
  | invalidate => (t.invalidate st).2
  | elsewhere change _ => change st

end Use

end OnDemand

end WikiEntry.Wiki
