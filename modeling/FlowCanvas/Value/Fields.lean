/-!
# Ordered records

A record of named entries that remembers the order in which its names first appeared. Writing an
entry that is present changes it in place; writing a new one appends it. Every operation here keeps
the names distinct if they were distinct before.
-/

namespace FlowCanvas

/-- A record of named entries, in order of first appearance. -/
abbrev Fields (α : Type) := List (String × α)

namespace Fields

variable {α β : Type}

/-- The entry of a name. -/
def get? : Fields α → String → Option α
  | [], _ => none
  | (k, v) :: rest, key => if k = key then some v else get? rest key

/-- Whether a name is present. -/
def has (fields : Fields α) (key : String) : Bool := (get? fields key).isSome

/-- The names, in order. -/
def keys (fields : Fields α) : List String := fields.map Prod.fst

/-- Writes an entry: in place if its name is present, else at the end. -/
def set : Fields α → String → α → Fields α
  | [], key, value => [(key, value)]
  | (k, v) :: rest, key, value =>
    if k = key then (k, value) :: rest else (k, v) :: set rest key value

/-- Removes an entry. -/
def erase (fields : Fields α) (key : String) : Fields α :=
  fields.filter fun entry ↦ entry.1 != key

/-- Writes the entries of a second record over a first, one after the other. -/
def merge (fields patch : Fields α) : Fields α :=
  patch.foldl (fun acc entry ↦ set acc entry.1 entry.2) fields

/-- The record of a list of entries: of two entries with one name the later value counts, at the
place of the earlier. -/
def ofList (entries : List (String × α)) : Fields α := merge [] entries

/-- Applies a function to every entry. -/
def mapValues (f : α → β) (fields : Fields α) : Fields β :=
  List.map (fun e ↦ (e.1, f e.2)) fields

@[simp]
theorem get?_nil (key : String) : get? ([] : Fields α) key = none := rfl

theorem get?_set_self (fields : Fields α) (key : String) (value : α) :
    get? (set fields key value) key = some value := by
  induction fields with
  | nil => simp [set, get?]
  | cons entry rest ih =>
    obtain ⟨k, v⟩ := entry
    by_cases h : k = key <;> simp [set, get?, h, ih]

theorem get?_set_of_ne (fields : Fields α) {key other : String} (value : α) (h : key ≠ other) :
    get? (set fields key value) other = get? fields other := by
  induction fields with
  | nil => simp [set, get?, h]
  | cons entry rest ih =>
    obtain ⟨k, v⟩ := entry
    by_cases hk : k = key
    · subst hk
      simp [set, get?, h]
    · rw [set, if_neg hk]
      by_cases ho : k = other <;> simp [get?, ho, ih]

end Fields

end FlowCanvas
