import FlowCanvas.Canvas.Basic

/-!
# Containment

Where blocks are. The place of a block is stored relative to its parent; `absolute` sums the places
along the chain of parents. A container covers the half-open box from its absolute place over its
width and height, and `containerAt` finds the first container, in document order, whose box holds a
point. Overlapping containers are not told apart further.

Coordinates that are no numbers are noticed when they are to be added or compared.
-/

namespace FlowCanvas

/-- A box on the canvas. It holds its left and upper edge and not its right and lower one. -/
structure Box where
  corner : Point
  width : Float
  height : Float
deriving DecidableEq

/-- The sum of two points, on behalf of a canvas. -/
def Point.plus (p q : Point) : Except FlowCanvas.Fault Point := (p.add q).mapError .badPoint

/-- The difference of two points, on behalf of a canvas. -/
def Point.minus (p q : Point) : Except FlowCanvas.Fault Point := (p.sub q).mapError .badPoint

/-- Whether a coordinate lies in the half-open interval from `start` over a length. -/
def Box.spans (start : Value) (length : Float) (coordinate : Value) : Except NumberFault Bool := do
  if ← Value.atMost start coordinate then
    Value.less coordinate (← Value.plus start (.float length))
  else return false

/-- Whether a point lies in a box. -/
def Box.contains (b : Box) (p : Point) : Except NumberFault Bool := do
  if ← Box.spans b.corner.x b.width p.x then Box.spans b.corner.y b.height p.y else return false

/-- A coordinate that is a float lies in an interval of floats as one expects. -/
theorem Box.spans_float (start length x : Float) :
    Box.spans (.float start) length (.float x) =
      .ok (decide (start ≤ x) && decide (x < start + length)) := by
  by_cases h : start ≤ x <;> simp [Box.spans, bind, Except.bind, pure, Except.pure, h]

/-- A point of floats lies in a box of floats if it lies between all its edges. -/
theorem Box.contains_ofFloats (x y w h a b : Float) :
    Box.contains ⟨.ofFloats x y, w, h⟩ (.ofFloats a b) =
      .ok (decide (x ≤ a) && decide (a < x + w) && (decide (y ≤ b) && decide (b < y + h))) := by
  simp only [Box.contains, Point.ofFloats, Box.spans_float, bind, Except.bind, pure, Except.pure]
  split <;> simp_all

namespace Canvas

/-! ### Places -/

/-- Adds the places of the ancestors from `parent` on to a point. `seen` holds the ids passed
already; meeting one again is a cycle. Every step passes a new block of the canvas, so the number of
blocks bounds the steps. -/
def sumParents (c : Canvas) : (fuel : Nat) → (seen : List String) → Point → Option String →
    Except Fault Point
  | _, _, point, none => .ok point
  | 0, _, _, some id => .error (.parentCycle id)
  | fuel + 1, seen, point, some id =>
    if seen.contains id then .error (.parentCycle id)
    else
      match c.block? id with
      | none => .error (.unknownBlock id)
      | some b =>
        match point.plus b.position with
        | .error fault => .error fault
        | .ok sum => sumParents c fuel (id :: seen) sum b.parent

/-- The place of a block on the canvas. -/
def absolute (c : Canvas) (id : String) : Except Fault Point :=
  match c.block? id with
  | none => .error (.unknownBlock id)
  | some b => sumParents c (c.blocks.length + 1) [id] b.position b.parent

/-- A place on the canvas as seen from a container. -/
def toRelative (c : Canvas) (point : Point) (parent : String) : Except Fault Point :=
  (c.absolute parent).bind fun corner ↦ point.minus corner

/-- A place as seen from a container, if there is one, as a place on the canvas. -/
def toAbsolute (c : Canvas) (point : Point) (parent : Option String) : Except Fault Point :=
  match parent with
  | none => .ok point
  | some id => (c.absolute id).bind fun corner ↦ point.plus corner

/-! ### Boxes -/

/-- The width of a container that states none. -/
def defaultWidth : Int := 400

/-- The height of a container that states none. -/
def defaultHeight : Int := 300

/-- Reads the two sides of a container. -/
def sidesOf (id : String) (width height : Value) : Except Fault (Float × Float) :=
  let fault : NumberFault → Fault
    | .tooLarge => .oversized id
    | .notNumeric | .malformed | .notPoint => .badSize id width height
  match width.toFloat with
  | .error why => .error (fault why)
  | .ok w =>
    match height.toFloat with
    | .error why => .error (fault why)
    | .ok h => .ok (w, h)

/-- The box of a container. -/
def boxOf (c : Canvas) (id : String) : Except Fault Box := do
  let b ← c.block id
  let width := (Fields.get? b.properties "width").getD (.int defaultWidth)
  let height := (Fields.get? b.properties "height").getD (.int defaultHeight)
  let (w, h) ← sidesOf id width height
  let corner ← c.absolute id
  return ⟨corner, w, h⟩

/-- Whether the box of a container holds a point. -/
def boxContains (c : Canvas) (id : String) (point : Point) : Except Fault Bool :=
  (c.boxOf id).bind fun box ↦ (box.contains point).mapError fun why ↦ .badPoint (.coordinate why)

/-- The first of some blocks that is a container other than `exclude` and whose box holds a
point. -/
def containerAmong (p : Palette) (c : Canvas) (point : Point) (exclude : Option String) :
    List Block → Except Fault (Option Block)
  | [] => .ok none
  | b :: rest =>
    if exclude = some b.id || !c.isContainer p b.id then containerAmong p c point exclude rest
    else
      match c.boxContains b.id point with
      | .error fault => .error fault
      | .ok true => .ok (some b)
      | .ok false => containerAmong p c point exclude rest

/-- The first container in document order whose box holds a point. -/
def containerAt (p : Palette) (c : Canvas) (point : Point) (exclude : Option String) :
    Except Fault (Option Block) :=
  containerAmong p c point exclude c.blocks

/-- Looks up the container under a block that is about to be moved, or to be dropped, so that a
container without a proper box is noticed before anything is written. Containers are not looked up
for, as they are never nested. -/
def hitTest (p : Palette) (c : Canvas) (id : Option String) (point : Point) : Except Fault Unit :=
  let nests : Bool :=
    match id with
    | some id => !c.isContainer p id
    | none => true
  if nests then (c.containerAt p point id).map fun _ ↦ () else .ok ()

end Canvas

end FlowCanvas
