import WikiEntry.Hook.Code

/-!
# Two arguments at once

A handler that asks for two arguments at once gets what it would get by asking for one and then for
the other, and writing both is writing one and then the other. The list is split between the two for
that, at another place and with the parts the other way round if the second comes first, but none of
this can be seen. If the two cannot be had, the arguments stay as they are, and the reason is the
first of those that there are: the two are one, a position is beyond the end, a kind is another.
-/

namespace WikiEntry.Hook

/-- Writing on either side of a split is writing to the whole list. -/
theorem set_take_append_set_drop {α : Type} {xs : List α} {i j : Nat} (hbefore : i < j)
    (hend : j < xs.length) (a b : α) :
    (xs.take j).set i a ++ (xs.drop j).set 0 b = (xs.set i a).set j b := by
  have hleft : i < (xs.take j).length := by
    rw [List.length_take]
    omega
  have hright : ((xs.take j).set i a).length = j := by
    rw [List.length_set, List.length_take]
    omega
  conv => rhs; rw [← List.take_append_drop j xs]
  rw [List.set_append_left _ _ hleft, List.set_append_right _ _ (Nat.le_of_eq hright), hright,
    Nat.sub_self]

section

variable {τ : Type} [DecidableEq τ] {V : τ → Type} {k l : τ} {i j first second : Nat} {a b : Slot V}
  {v : V k} {w : V l}

/-! ### One slot -/

theorem Slot.as?_eq_some_iff : a.as? k = some v ↔ a = ⟨k, v⟩ := by
  obtain ⟨kind, value⟩ := a
  constructor
  · intro h
    obtain ⟨hkind, heq⟩ := Option.dite_none_right_eq_some.mp h
    dsimp only at hkind
    subst hkind
    rw [Option.some_inj.mp heq.symm]
  · rintro ⟨⟩
    exact as?_mk k v

theorem Slot.as?_eq_none_iff : a.as? k = none ↔ a.kind ≠ k := by
  rw [as?, dite_eq_right_iff]
  simp

namespace Slots

variable {slots : Slots V} {both : Pair V k l} {error : SlotError τ}

theorem get_eq_ok_iff : slots.get k i = .ok v ↔ slots[i]? = some ⟨k, v⟩ := by
  unfold get
  cases hslot : slots[i]? with
  | none => simp
  | some a =>
      dsimp only
      rw [Option.some_inj, ← Slot.as?_eq_some_iff]
      cases a.as? k <;> simp

theorem put_of_getElem? (h : slots[i]? = some a) (hkind : a.kind = b.kind) :
    slots.put i b = slots.set i b := by
  rw [put, h]
  exact if_pos hkind

/-! ### Two slots -/

/-- Wherever the list is split, it is the same two arguments that are looked at and written. -/
theorem pair_of_getElem? (hne : i ≠ j) (hfirst : slots[i]? = some a)
    (hsecond : slots[j]? = some b) :
    slots.pair k l i j =
      Pair.ofSlots k l i j a b fun a b => (slots.set i a).set j b := by
  obtain ⟨hi, rfl⟩ := List.getElem?_eq_some_iff.mp hfirst
  obtain ⟨hj, rfl⟩ := List.getElem?_eq_some_iff.mp hsecond
  rw [pair, dif_neg hne, dif_neg (Nat.not_le.mpr hi), dif_neg (Nat.not_le.mpr hj)]
  split
  · rename_i hbefore
    congr 1
    · simp
    · simp
    · funext a b
      exact set_take_append_set_drop hbefore hj a b
  · rename_i hafter
    have hbefore : j < i := by omega
    congr 1
    · simp
    · simp
    · funext a b
      rw [set_take_append_set_drop hbefore hi, List.set_comm _ _ hne]

theorem Pair.ofSlots_eq_ok_iff {replace : Slot V → Slot V → Slots V} :
    Pair.ofSlots k l first second a b replace = .ok both ↔
      a = ⟨k, both.first⟩ ∧ b = ⟨l, both.second⟩ ∧
        both.write = fun v w => replace ⟨k, v⟩ ⟨l, w⟩ := by
  obtain ⟨v, w, write⟩ := both
  rw [Pair.ofSlots, ← Slot.as?_eq_some_iff, ← Slot.as?_eq_some_iff]
  cases a.as? k with
  | none => simp
  | some v' =>
      cases b.as? l with
      | none => simp
      | some w' => simp [eq_comm]

theorem Pair.ofSlots_eq_error_iff {replace : Slot V → Slot V → Slots V} :
    Pair.ofSlots k l first second a b replace = .error error ↔
      (a.kind ≠ k ∧ error = .mistyped first k) ∨
        (a.kind = k ∧ b.kind ≠ l ∧ error = .mistyped second l) := by
  rw [Pair.ofSlots]
  cases hfirst : a.as? k with
  | none => simp [Slot.as?_eq_none_iff.mp hfirst, eq_comm]
  | some v =>
      obtain rfl := Slot.as?_eq_some_iff.mp hfirst
      dsimp only
      cases hsecond : b.as? l with
      | none => simp [Slot.as?_eq_none_iff.mp hsecond, eq_comm]
      | some w =>
          obtain rfl := Slot.as?_eq_some_iff.mp hsecond
          simp

theorem pair_eq_ok_iff : slots.pair k l i j = .ok both ↔
    i ≠ j ∧ slots[i]? = some ⟨k, both.first⟩ ∧ slots[j]? = some ⟨l, both.second⟩ ∧
      both.write = fun v w => (slots.set i ⟨k, v⟩).set j ⟨l, w⟩ := by
  by_cases hne : i = j
  · simp [pair, hne]
  · cases hfirst : slots[i]? with
    | none => simp [pair, hne, List.getElem?_eq_none_iff.mp hfirst]
    | some a =>
        cases hsecond : slots[j]? with
        | none =>
            obtain ⟨hi, -⟩ := List.getElem?_eq_some_iff.mp hfirst
            simp [pair, hne, Nat.not_le.mpr hi, List.getElem?_eq_none_iff.mp hsecond]
        | some b =>
            rw [pair_of_getElem? hne hfirst hsecond, Pair.ofSlots_eq_ok_iff]
            simp [hne]

/-- Why two arguments cannot be had at once: they are one, or one of them is not there, or one is of
another kind. -/
def pairError? (slots : Slots V) (k l : τ) (first second : Nat) : Option (SlotError τ) :=
  if first = second then some (.aliased second)
  else
    (([first, second].find? fun index => slots.length ≤ index).map SlotError.missing).or
      (([(first, k), (second, l)].find? fun slot => (slots.map (·.kind))[slot.1]? ≠ some slot.2).map
        fun slot => .mistyped slot.1 slot.2)

theorem pair_eq_error_iff :
    slots.pair k l i j = .error error ↔ slots.pairError? k l i j = some error := by
  by_cases hne : i = j
  · rw [pair, dif_pos hne, pairError?, if_pos hne, Except.error.injEq, Option.some_inj]
  · rw [pairError?, if_neg hne]
    cases hfirst : slots[i]? with
    | none =>
        have hi := List.getElem?_eq_none_iff.mp hfirst
        simp [pair, hne, hi]
    | some a =>
        obtain ⟨hi, -⟩ := List.getElem?_eq_some_iff.mp hfirst
        cases hsecond : slots[j]? with
        | none =>
            have hj := List.getElem?_eq_none_iff.mp hsecond
            simp [pair, hne, Nat.not_le.mpr hi, hj]
        | some b =>
            obtain ⟨hj, -⟩ := List.getElem?_eq_some_iff.mp hsecond
            rw [pair_of_getElem? hne hfirst hsecond, Pair.ofSlots_eq_error_iff]
            by_cases hk : a.kind = k <;> by_cases hl : b.kind = l <;>
              simp [Nat.not_le.mpr hi, Nat.not_le.mpr hj, hfirst, hsecond, hk, hl,
                eq_comm (a := error)]

/-- Whether two arguments at once are what the arguments at `i` and at `j` are one by one: the
values are theirs, and writing both is writing one and then the other. Nothing else is written. -/
structure Pair.Agrees (both : Pair V k l) (slots : Slots V) (i j : Nat) : Prop where
  first : slots.get k i = .ok both.first
  second : slots.get l j = .ok both.second
  write (v : V k) (w : V l) :
    both.write v w = (slots.put i ⟨k, v⟩).put j ⟨l, w⟩
  written_first (v : V k) (w : V l) : (both.write v w).get k i = .ok v
  written_second (v : V k) (w : V l) : (both.write v w).get l j = .ok w
  other (v : V k) (w : V l) (n : Nat) :
    n ≠ i → n ≠ j → (both.write v w)[n]? = slots[n]?
  kinds (v : V k) (w : V l) : (both.write v w).map (·.kind) = slots.map (·.kind)

theorem Pair.agrees (h : slots.pair k l i j = .ok both) : both.Agrees slots i j := by
  obtain ⟨hne, hfirst, hsecond, hwrite⟩ := pair_eq_ok_iff.mp h
  obtain ⟨hi, -⟩ := List.getElem?_eq_some_iff.mp hfirst
  obtain ⟨hj, -⟩ := List.getElem?_eq_some_iff.mp hsecond
  have hput (v : V k) (w : V l) :
      both.write v w = (slots.put i ⟨k, v⟩).put j ⟨l, w⟩ := by
    have hstill : (slots.set i ⟨k, v⟩)[j]? = some ⟨l, both.second⟩ := by
      rw [List.getElem?_set_ne hne, hsecond]
    have hone : slots.put i ⟨k, v⟩ = slots.set i ⟨k, v⟩ := put_of_getElem? hfirst rfl
    have hother : put (slots.set i ⟨k, v⟩) j ⟨l, w⟩ = (slots.set i ⟨k, v⟩).set j ⟨l, w⟩ :=
      put_of_getElem? hstill rfl
    rw [hwrite, hone, hother]
  refine ⟨get_eq_ok_iff.mpr hfirst, get_eq_ok_iff.mpr hsecond, hput, ?_, ?_, ?_, ?_⟩
  · intro v w
    rw [get_eq_ok_iff, hwrite, List.getElem?_set_ne (Ne.symm hne), List.getElem?_set_self hi]
  · intro v w
    rw [get_eq_ok_iff, hwrite, List.getElem?_set_self (by rwa [List.length_set])]
  · intro v w n hni hnj
    rw [hwrite, List.getElem?_set_ne (Ne.symm hnj), List.getElem?_set_ne (Ne.symm hni)]
  · intro v w
    rw [hput, map_kind_put, map_kind_put]

end Slots

end

/-! ### Handlers that ask for two -/

namespace Code

variable {σ : Type} {dispatch : Dispatch σ} {k l : Kind} {i j : Nat}

/-- Writing arguments one after another leaves these arguments, if they are of the kinds of those
that were there. -/
theorem perform_putAll (next : Code σ) {world : World (Code σ) σ} (before : Arguments)
    {old after : Arguments} (hkinds : old.map (·.kind) = after.map (·.kind)) :
    perform dispatch (putAll before.length after next) ⟨world, before ++ old⟩ =
      perform dispatch next ⟨world, before ++ after⟩ := by
  induction after generalizing before old with
  | nil =>
      obtain rfl : old = [] := List.map_eq_nil_iff.mp hkinds
      rfl
  | cons b after ih =>
      cases old with
      | nil => simp at hkinds
      | cons a old =>
          obtain ⟨hkind, hkinds⟩ := List.cons.inj hkinds
          have hslot : (before ++ a :: old)[before.length]? = some a := by simp
          have hput : (before ++ a :: old).put before.length b = (before ++ [b]) ++ old := by
            rw [Slots.put_of_getElem? hslot hkind]
            simp
          have hlength : before.length + 1 = (before ++ [b]).length := by simp
          rw [putAll, perform, hput, hlength, ih _ hkinds, List.append_assoc, List.singleton_append]

variable {s : Scene (Code σ) σ} {both : Slots.Pair Kind.Value k l}

/-- Changing two arguments leaves what writing them leaves. -/
theorem perform_modifyPair (h : s.args.pair k l i j = .ok both)
    (change : k.Value → l.Value → k.Value × l.Value) (next : Code σ) :
    perform dispatch (modifyPair k l i j change next) s =
      perform dispatch next { s with args := both.modify change } := by
  have hkinds : s.args.map (·.kind) = (both.modify change).map (·.kind) :=
    ((Slots.Pair.agrees h).kinds _ _).symm
  have hwritten : perform dispatch (putAll 0 (both.modify change) next) s =
      perform dispatch next { s with args := both.modify change } :=
    perform_putAll next [] hkinds
  rw [modifyPair, readPair, perform, h]
  exact hwritten

theorem perform_readPair_of_error {error : ArgumentError} (h : s.args.pair k l i j = .error error)
    (next : Slots.Pair Kind.Value k l → Code σ) :
    perform dispatch (readPair k l i j next) s = (.error (.argument error), s) := by
  rw [readPair, perform, h]
  rfl

end Code

/-- Asking for two slots at once is asking for one and for the other, whatever kinds there are. It
succeeds exactly if the positions differ and each of the two can be had alone; the values and what
writing leaves are the same; and otherwise the first reason there is comes back. A handler that
changes two arguments goes on with the list that is written, and one that cannot have them ends with
everything as it was. -/
theorem Slots.pair_as_two {τ : Type} [DecidableEq τ] {V : τ → Type} (slots : Slots V) (k l : τ)
    (i j : Nat) :
    ((∃ both, slots.pair k l i j = .ok both) ↔
      i ≠ j ∧ (∃ v, slots.get k i = .ok v) ∧ ∃ w, slots.get l j = .ok w) ∧
    (∀ both, slots.pair k l i j = .ok both → both.Agrees slots i j) ∧
    (∀ error, slots.pair k l i j = .error error ↔ slots.pairError? k l i j = some error) ∧
    ∀ {σ : Type} (dispatch : Dispatch σ) (s : Scene (Code σ) σ) (k l : Kind),
      (∀ both, s.args.pair k l i j = .ok both →
        ∀ change next, Code.perform dispatch (.modifyPair k l i j change next) s =
          Code.perform dispatch next { s with args := both.modify change }) ∧
      ∀ error, s.args.pair k l i j = .error error →
        ∀ next,
          Code.perform dispatch (.readPair k l i j next) s = (.error (.argument error), s) := by
  refine ⟨⟨?_, ?_⟩, fun both => Pair.agrees, fun error => pair_eq_error_iff, ?_⟩
  · rintro ⟨both, h⟩
    exact ⟨(pair_eq_ok_iff.mp h).1, ⟨_, (Pair.agrees h).first⟩, ⟨_, (Pair.agrees h).second⟩⟩
  · rintro ⟨hne, ⟨v, hfirst⟩, ⟨w, hsecond⟩⟩
    exact ⟨⟨v, w, _⟩,
      pair_eq_ok_iff.mpr ⟨hne, get_eq_ok_iff.mp hfirst, get_eq_ok_iff.mp hsecond, rfl⟩⟩
  · intro σ dispatch s k l
    exact ⟨fun both h change next => Code.perform_modifyPair h change next,
      fun error h next => Code.perform_readPair_of_error h next⟩

/-- In a list of texts and numbers the first of the two stands behind the second. -/
example : (Slots.pair
      ([⟨true, "x"⟩, ⟨false, (1 : Int32)⟩] : Slots fun isText : Bool => cond isText String Int32)
      false true 1 0).map (fun both => both.write (2 : Int32) "y") =
    .ok [⟨true, "y"⟩, ⟨false, (2 : Int32)⟩] := rfl

end WikiEntry.Hook
