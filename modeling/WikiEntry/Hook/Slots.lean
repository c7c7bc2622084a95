/-!
# Lists of values of various kinds

A slot holds a value together with its kind. Whoever asks for the value in a slot names the kind
that it should have, and learns if it is of another kind, if there is no such slot, or if one slot
was asked for twice at once. Writing keeps the kind of a slot, so the kinds of a list of slots never
change.

Which kinds there are does not matter here, as long as two of them can be compared: they are any
type `τ`, where `V k` are the values of kind `k`.
-/

namespace WikiEntry.Hook

variable {τ : Type} {V : τ → Type}

structure Slot (V : τ → Type) where
  kind : τ
  value : V kind

/-- Why the slots that are asked for cannot be had. -/
inductive SlotError (τ : Type) where
  /-- There is another number of slots than expected. -/
  | arity (expected actual : Nat)
  | missing (index : Nat)
  | mistyped (index : Nat) (expected : τ)
  /-- One slot was asked for as two. -/
  | aliased (index : Nat)
  /-- A value that is in no slot is of another kind. -/
  | data (expected : τ)
  deriving DecidableEq, Repr

/-- The cause in words, where kinds go by the names that `label` gives them. -/
def SlotError.message (label : τ → String) : SlotError τ → String
  | arity expected actual =>
    "expected " ++ toString expected ++ " argument(s), got " ++ toString actual
  | missing index => "argument " ++ toString index ++ " is missing"
  | mistyped index expected =>
    "argument " ++ toString index ++ " is not a \x60" ++ label expected ++ "\x60"
  | aliased index => "argument " ++ toString index ++ " was borrowed twice"
  | data expected => "bound data is not a \x60" ++ label expected ++ "\x60"

abbrev Slots (V : τ → Type) := List (Slot V)

variable [DecidableEq τ]

/-- The value in a slot if it is of kind `k`. -/
def Slot.as? (a : Slot V) (k : τ) : Option (V k) :=
  if h : a.kind = k then some (h ▸ a.value) else none

@[simp] theorem Slot.as?_mk (k : τ) (v : V k) : Slot.as? ⟨k, v⟩ k = some v := dif_pos rfl

namespace Slots

def expectArity (slots : Slots V) (expected : Nat) : Except (SlotError τ) Unit :=
  if slots.length = expected then .ok () else .error (.arity expected slots.length)

def get (slots : Slots V) (k : τ) (index : Nat) : Except (SlotError τ) (V k) :=
  match slots[index]? with
  | none => .error (.missing index)
  | some a =>
    match a.as? k with
    | some v => .ok v
    | none => .error (.mistyped index k)

/-- Writes a slot over one of the same kind. Any other list stays as it is. -/
def put (slots : Slots V) (index : Nat) (a : Slot V) : Slots V :=
  match slots[index]? with
  | some old => if old.kind = a.kind then slots.set index a else slots
  | none => slots

/-- The values of two slots at once, and what the list becomes when both are written. -/
structure Pair (V : τ → Type) (k l : τ) where
  first : V k
  second : V l
  write : V k → V l → Slots V

def Pair.modify {k l : τ} (both : Pair V k l) (change : V k → V l → V k × V l) : Slots V :=
  let (v, w) := change both.first both.second
  both.write v w

/-- Two slots `a` and `b` as values of kinds, where `replace` puts others into their places. The
first is looked at before the second. -/
def Pair.ofSlots (k l : τ) (first second : Nat) (a b : Slot V)
    (replace : Slot V → Slot V → Slots V) : Except (SlotError τ) (Pair V k l) :=
  match a.as? k with
  | none => .error (.mistyped first k)
  | some v =>
    match b.as? l with
    | none => .error (.mistyped second l)
    | some w => .ok ⟨v, w, fun v w => replace ⟨k, v⟩ ⟨l, w⟩⟩

/-- Two different slots at once. The list is split before the later one, so each part holds one of
them. Positions are looked at before kinds, and the first slot before the second. -/
def pair (slots : Slots V) (k l : τ) (first second : Nat) : Except (SlotError τ) (Pair V k l) :=
  if hsame : first = second then .error (.aliased second)
  else if hfirst : slots.length ≤ first then .error (.missing first)
  else if hsecond : slots.length ≤ second then .error (.missing second)
  else if hbefore : first < second then
    Pair.ofSlots k l first second
      ((slots.take second).get ⟨first, by rw [List.length_take]; omega⟩)
      ((slots.drop second).get ⟨0, by rw [List.length_drop]; omega⟩)
      fun a b => (slots.take second).set first a ++ (slots.drop second).set 0 b
  else
    Pair.ofSlots k l first second
      ((slots.drop first).get ⟨0, by rw [List.length_drop]; omega⟩)
      ((slots.take first).get ⟨second, by rw [List.length_take]; omega⟩)
      fun a b => (slots.take first).set second b ++ (slots.drop first).set 0 a

theorem map_kind_put (slots : Slots V) (index : Nat) (a : Slot V) :
    (slots.put index a).map (·.kind) = slots.map (·.kind) := by
  unfold put
  split
  · rename_i old hold
    split
    · rename_i hkind
      rw [List.map_set, ← hkind]
      apply List.ext_getElem?
      intro i
      rw [List.getElem?_set]
      split
      · rename_i hi
        subst hi
        split <;> simp_all
      · rfl
    · rfl
  · rfl

@[simp] theorem length_put (slots : Slots V) (index : Nat) (a : Slot V) :
    (slots.put index a).length = slots.length := by
  simpa using congrArg List.length (map_kind_put slots index a)

end Slots

end WikiEntry.Hook
