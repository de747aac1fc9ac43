import FlowCanvas.Value.Display
import FlowCanvas.Value.Equal
import FlowCanvas.Value.Portable

/-!
# Stray entries

The entries of a record have texts for names. A block type may nevertheless declare a property under
a number, a truth value or null, and its blocks then hold an entry that no text names. Such an entry
is *stray*: it is kept beside the record, with the number of entries that stand before it. Entries
are only ever added at the end, so that number does not change.

Two names are one if they are the same in the domain, where numbers compare by value.
-/

namespace FlowCanvas

/-- An entry whose name is no text. -/
structure Stray where
  /-- How many entries stand before it, stray or not. -/
  place : Nat
  name : Value
  value : Value
deriving DecidableEq

namespace Stray

variable {α : Type}

/-- Writes an entry under any name: in place if the name is present, else at the end. -/
def put (name : Value) (value : α) : List (Value × α) → List (Value × α)
  | [] => [(name, value)]
  | (k, v) :: rest =>
    if Value.same k name then (k, value) :: rest else (k, v) :: put name value rest

/-- The entries of a list under distinct names: the last value of a name counts, at the place of the
first. -/
def distinct (entries : List (Value × α)) : List (Value × α) :=
  entries.foldl (fun acc e ↦ put e.1 e.2 acc) []

/-- The stray ones of some entries, `place` of which stand before. -/
def ofEntries : (place : Nat) → List (Value × Value) → List Stray
  | _, [] => []
  | place, (.text _, _) :: rest => ofEntries (place + 1) rest
  | place, (name, value) :: rest => ⟨place, name, value⟩ :: ofEntries (place + 1) rest

/-- All entries of a record and of the stray ones beside it, in order. -/
def weave (fields : Fields Value) (strays : List Stray) : List (Value × Value) :=
  strays.foldl (fun acc s ↦ acc.take s.place ++ (s.name, s.value) :: acc.drop s.place)
    (fields.map fun e ↦ (.text e.1, e.2))

/-- The text that stands for a name where only texts are names; a float that is not finite stands
for nothing, as null does. -/
def nameText : Value → String
  | .bool b => if b then "true" else "false"
  | .float x => if x.isFinite then (Value.float x).display else Value.null.display
  | name => name.display

/-- A record with the stray entries in it, their names spelled as texts. -/
def shown (fields : Fields Value) (strays : List Stray) : Fields Value :=
  Fields.ofList ((weave fields strays).map fun
    | (.text name, value) => (name, value)
    | (name, value) => (nameText name, value))

/-- An entry as it is sent in JSON. What JSON cannot carry cannot be a name either: an entry under
such a name holds the name itself, so that it is noticed among what cannot be sent. -/
def sentEntry : Value × Value → String × Value
  | (.text name, value) => (name, value)
  | (.null, value) => ("null", value)
  | (name, value) => (nameText name, if name.obstacle?.isSome then name else value)

/-- A record with the stray entries in it, as it is sent in JSON. -/
def sent (fields : Fields Value) (strays : List Stray) : Fields Value :=
  Fields.ofList ((weave fields strays).map sentEntry)

/-- Writes an entry under a name that is no text: in place if it is present, else at the end of all
entries, of which there are `count`. -/
def write (count : Nat) (name value : Value) : List Stray → List Stray
  | [] => [⟨count, name, value⟩]
  | s :: rest =>
    if Value.same s.name name then { s with value := value } :: rest
    else s :: write count name value rest

end Stray

end FlowCanvas
