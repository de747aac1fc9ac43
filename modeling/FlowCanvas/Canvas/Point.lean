import FlowCanvas.Value.Arithmetic

/-!
# Points

Points of the canvas, with the component-wise sum and difference. A point is accepted in several
forms: as a live point, as an object with `x` and `y`, or as a pair. Its coordinates are floats.
Only those of a live point stay as they were given: whole ones have a whole sum, and others may have
no sum at all.
-/

namespace FlowCanvas

/-- A point of the canvas, or the offset between two. -/
structure Point where
  x : Value := .float 0
  y : Value := .float 0
deriving DecidableEq

namespace Point

/-- The point of two floats. -/
def ofFloats (x y : Float) : Point := ⟨.float x, .float y⟩

/-- The origin of the canvas. -/
def origin : Point := ofFloats 0 0

/-- Why a value is not a point, or two points have no sum. -/
inductive Fault where
  /-- A coordinate is not a number. -/
  | coordinate (why : NumberFault)
  /-- The value has not exactly two items. -/
  | notTwo
  /-- The value has no items at all. -/
  | notPair
deriving DecidableEq, Repr

/-- The point of two coordinates given as values, which must be numbers. -/
def ofCoordinates (x y : Value) : Except Fault Point :=
  match x.toFloat with
  | .error why => .error (.coordinate why)
  | .ok x =>
    match y.toFloat with
    | .error why => .error (.coordinate why)
    | .ok y => .ok (ofFloats x y)

/-- Reads a point: null is the origin, a coordinate that an object lacks is zero. -/
def ofValue : Value → Except Fault Point
  | .point x y => .ok ⟨x, y⟩
  | .null => .ok origin
  | .object fields =>
    ofCoordinates ((Fields.get? fields "x").getD (.int 0)) ((Fields.get? fields "y").getD (.int 0))
  | v =>
    match v.items? with
    | some [x, y] => ofCoordinates x y
    | some _ => .error .notTwo
    | none => .error .notPair

/-- Combines two points coordinate by coordinate. -/
def combine (f : Value → Value → Except NumberFault Value) (p q : Point) : Except Fault Point :=
  match f p.x q.x with
  | .error why => .error (.coordinate why)
  | .ok x =>
    match f p.y q.y with
    | .error why => .error (.coordinate why)
    | .ok y => .ok ⟨x, y⟩

/-- The sum of two points. -/
def add : Point → Point → Except Fault Point := combine Value.plus

/-- The difference of two points. -/
def sub : Point → Point → Except Fault Point := combine Value.minus

@[simp]
theorem add_ofFloats (a b c d : Float) :
    (ofFloats a b).add (ofFloats c d) = .ok (ofFloats (a + c) (b + d)) := by
  simp [add, combine, ofFloats]

@[simp]
theorem sub_ofFloats (a b c d : Float) :
    (ofFloats a b).sub (ofFloats c d) = .ok (ofFloats (a - c) (b - d)) := by
  simp [sub, combine, ofFloats]

/-- Whether two points are the same in the domain, where numbers compare by value. -/
def same (p q : Point) : Bool := p.x.same q.x && p.y.same q.y

/-- A point as an object. -/
def toValue (p : Point) : Value := .object [("x", p.x), ("y", p.y)]

end Point

end FlowCanvas
