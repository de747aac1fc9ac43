import FlowCanvas.Number.Numeral
import FlowCanvas.Value.Basic

/-!
# Portable values

JSON has no text for infinities and NaN, and none for live values. `portable` puts null in the place
of the former and a record in the place of an argument or a point; `obstacle?` finds what there is
to replace. A callback has no record, so `portable` leaves it where it is, and a value that holds
one cannot be handed over at all.

Values are not nested without limit: `fitsDepth` holds of those that can be handed over, and
`isCopyable` of those that can be copied. Nor are integers written out without limit: a value goes
into a text only if `isWritable` holds of it. Whoever hands a value over, shows it or sends it walks
through it and stops at the first thing that will not do, which is what `firstFault?` finds.
-/

namespace FlowCanvas.Value

mutual

/-- A value as JSON can carry it: a float that is not finite becomes null, an argument or a point
becomes the record of its parts. A callback is left as it is. -/
def portable : Value → Value
  | float x => if x.isFinite then float x else null
  | list items => list (portableItems items)
  | object fields => object (portableFields fields)
  | argument name type => object [("name", text name), ("type", text type)]
  | point x y => object [("x", portable x), ("y", portable y)]
  | v => v

/-- Items as JSON can carry them. -/
def portableItems : List Value → List Value
  | [] => []
  | v :: rest => portable v :: portableItems rest

/-- Entries as JSON can carry them. -/
def portableFields : List (String × Value) → List (String × Value)
  | [] => []
  | (k, v) :: rest => (k, portable v) :: portableFields rest

end

/-- What keeps a value from being written in JSON. -/
inductive Obstacle where
  /-- A float that is not finite. -/
  | notFinite
  /-- A live value. -/
  | live
deriving DecidableEq, Repr

mutual

/-- The first thing in a value that JSON cannot carry. -/
def obstacle? : Value → Option Obstacle
  | float x => if x.isFinite then none else some .notFinite
  | list items => itemObstacle? items
  | object fields => fieldObstacle? fields
  | argument _ _ | point _ _ | callback => some .live
  | _ => none

/-- The first thing in some items that JSON cannot carry. -/
def itemObstacle? : List Value → Option Obstacle
  | [] => none
  | v :: rest => (obstacle? v).or (itemObstacle? rest)

/-- The first thing in some entries that JSON cannot carry. -/
def fieldObstacle? : List (String × Value) → Option Obstacle
  | [] => none
  | (_, v) :: rest => (obstacle? v).or (fieldObstacle? rest)

end

mutual

/-- How many values stand inside one another, the value itself counted. -/
def depth : Value → Nat
  | list items => itemDepth items + 1
  | object fields => fieldDepth fields + 1
  | point x y => max (depth x) (depth y) + 1
  | argument _ _ => 2
  | _ => 1

/-- The greatest depth of some items. -/
def itemDepth : List Value → Nat
  | [] => 0
  | v :: rest => max (depth v) (itemDepth rest)

/-- The greatest depth of some entries. -/
def fieldDepth : List (String × Value) → Nat
  | [] => 0
  | (_, v) :: rest => max (depth v) (fieldDepth rest)

end

/-- The greatest depth of a value that can be handed over. -/
def greatestDepth : Nat := 255

/-- Whether a value is not nested too deeply to be handed over. -/
def fitsDepth (v : Value) : Bool := v.depth ≤ greatestDepth

/-- The greatest depth of a value that can be copied. It idealises the limit on the stack of calls,
which is shared with whoever asks for the copy: from the top level some 500 lists inside one another
are copied when a block is created, and two fewer when a program is made. Here the limit is the same
at every copy. -/
def greatestCopy : Nat := 480

/-- Whether a value is not nested too deeply to be copied. -/
def isCopyable (v : Value) : Bool := v.depth ≤ greatestCopy

/-- The greatest depth of a value that can be spelled out. As with `greatestCopy`, it stands for a
limit on the stack of calls, which leaves room for a little under 1000 lists inside one another. -/
def greatestText : Nat := 960

/-! ### What stands inside a value -/

mutual

/-- Whether a value, or one that stands inside it, passes a test. -/
def holds (test : Value → Bool) : Value → Bool
  | list items => test (list items) || itemsHold test items
  | object fields => test (object fields) || fieldsHold test fields
  | point x y => test (point x y) || (holds test x || holds test y)
  | v => test v

/-- Whether one of some items holds what passes a test. -/
def itemsHold (test : Value → Bool) : List Value → Bool
  | [] => false
  | v :: rest => holds test v || itemsHold test rest

/-- Whether one of some entries holds what passes a test. -/
def fieldsHold (test : Value → Bool) : List (String × Value) → Bool
  | [] => false
  | (_, v) :: rest => holds test v || fieldsHold test rest

end

/-- Whether a value is a callback. -/
def isCallback : Value → Bool
  | callback => true
  | _ => false

/-- Whether a value is an integer that is too long to be written out. -/
def isOverlong : Value → Bool
  | int n => !Number.isWritable n
  | _ => false

/-- Whether no integer in a value is too long to be written out. -/
def isWritable (v : Value) : Bool := !v.holds isOverlong

section Faults

variable {α : Type} (own : Value → Option α) (deep : α)

mutual

/-- The first fault that a walk through a value meets: `own` tells the fault of a single value, and
one for which there is no `room` left is too `deep`. -/
def firstFault? : (room : Nat) → Value → Option α
  | 0, _ => some deep
  | room + 1, list items => (own (list items)).or (itemFault? room items)
  | room + 1, object fields => (own (object fields)).or (fieldFault? room fields)
  | room + 1, point x y =>
    (own (point x y)).or ((firstFault? room x).or (firstFault? room y))
  | room + 1, argument name type =>
    (own (argument name type)).or (if room = 0 then some deep else none)
  | _ + 1, v => own v

/-- The first fault that a walk through some items meets. -/
def itemFault? (room : Nat) : List Value → Option α
  | [] => none
  | v :: rest => (firstFault? room v).or (itemFault? room rest)

/-- The first fault that a walk through some entries meets. -/
def fieldFault? (room : Nat) : List (String × Value) → Option α
  | [] => none
  | (_, v) :: rest => (firstFault? room v).or (fieldFault? room rest)

end

end Faults

end FlowCanvas.Value
