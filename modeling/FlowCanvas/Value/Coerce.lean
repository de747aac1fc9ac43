import FlowCanvas.Number.Binary
import FlowCanvas.Number.Numeral
import FlowCanvas.Value.Stray

/-!
# Values as numbers, lists and records

The readings of a value that can fail: as a float, as a list of items, and as a record.
-/

namespace FlowCanvas

/-- Why a value is not a number, or cannot be reckoned with. -/
inductive NumberFault where
  /-- The value is of a kind that has no number. -/
  | notNumeric
  /-- The value is a text that spells no number. -/
  | malformed
  /-- The value is an integer beyond the range of floats. -/
  | tooLarge
  /-- The value meets a point and is none. -/
  | notPoint
deriving DecidableEq, Repr

namespace Value

/-- The float a value stands for: a number is rounded to the nearest float, a text is read
leniently. -/
def toFloat : Value → Except NumberFault Float
  | bool b => .ok (if b then 1 else 0)
  | int n =>
    match Number.floatOfInt? n with
    | some x => .ok x
    | none => .error .tooLarge
  | float x => .ok x
  | text s =>
    match Number.lenientFloat? s with
    | some x => .ok x
    | none => .error .malformed
  | _ => .error .notNumeric

/-- The items of a value that can be walked through: a list has its items, a text its characters,
an object its names. -/
def items? : Value → Option (List Value)
  | list items => some items
  | text s => some (s.toList.map fun c ↦ text (String.singleton c))
  | object fields => some (fields.map fun entry ↦ text entry.1)
  | _ => none

/-- The integer a value is, where `true` counts as one and `false` as zero. -/
def integer? : Value → Option Int
  | bool b => some (if b then 1 else 0)
  | int n => some n
  | _ => none

end Value

/-- Why a value is not a record. -/
inductive RecordFault where
  /-- The value, or one of its items, has no items of its own. -/
  | noItems
  /-- An item is not a pair. -/
  | notPair
  /-- The name in a pair can name nothing. -/
  | badName
deriving DecidableEq, Repr

namespace Value

/-- The entry that a pair of a name and a value stands for. -/
def entry (v : Value) : Except RecordFault (Value × Value) :=
  match v.items? with
  | none => .error .noItems
  | some [name, value] => if name.isName then .ok (name, value) else .error .badName
  | some _ => .error .notPair

/-- The entries of pairs; the first that is none is the fault. -/
def entries : List Value → Except RecordFault (List (Value × Value))
  | [] => .ok []
  | v :: rest =>
    match v.entry with
    | .error why => .error why
    | .ok e => (entries rest).map (e :: ·)

/-- The entries that a value stands for: those of an object, or of a list of pairs of a name and a
value. -/
def record : Value → Except RecordFault (List (Value × Value))
  | object fields => .ok (fields.map fun e ↦ (text e.1, e.2))
  | v =>
    match v.items? with
    | none => .error .noItems
    | some items => (entries items).map Stray.distinct

end Value

end FlowCanvas
