import WikiEntry.Config.Moment

/-!
# Settings

The values a configuration can hold. A table keeps its entries in ascending order of their names,
whatever the order in which they were written.
-/

namespace WikiEntry.Config

inductive Setting where
  | text (value : String)
  | integer (value : Int)
  | real (value : Float)
  | flag (value : Bool)
  | moment (value : Moment)
  | list (items : List Setting)
  | table (entries : List (String × Setting))

/-- A list of named values in ascending order of the names. -/
abbrev Entries (α : Type) := List (String × α)

namespace Entries

variable {α : Type}

def find? (entries : Entries α) (name : String) : Option α := entries.lookup name

/-- The entries with a value under a name, in place of any value it had. -/
def put (name : String) (value : α) : Entries α → Entries α
  | [] => [(name, value)]
  | (other, kept) :: rest =>
    if name < other then (name, value) :: (other, kept) :: rest
    else if name = other then (name, value) :: rest
    else (other, kept) :: put name value rest

theorem find?_put_self (entries : Entries α) (name : String) (value : α) :
    find? (put name value entries) name = some value := by
  induction entries with
  | nil => simp [put, find?]
  | cons entry rest ih =>
    obtain ⟨other, kept⟩ := entry
    unfold put
    split
    · simp [find?]
    · split
      · simp [find?]
      · rename_i hne
        have hbeq : (name == other) = false := by simpa using hne
        simpa [find?, List.lookup_cons, hbeq] using ih

theorem find?_put_of_ne (entries : Entries α) {name other : String} (h : other ≠ name)
    (value : α) : find? (put name value entries) other = find? entries other := by
  have hbeq : (other == name) = false := by simpa using h
  induction entries with
  | nil => simp [put, find?, List.lookup_cons, hbeq]
  | cons entry rest ih =>
    obtain ⟨first, kept⟩ := entry
    unfold put
    split
    · simp [find?, List.lookup_cons, hbeq]
    · split
      · rename_i heq
        subst heq
        simp [find?, List.lookup_cons, hbeq]
      · simp only [find?, List.lookup_cons] at ih ⊢
        cases other == first <;> simp [ih]

end Entries

end WikiEntry.Config
