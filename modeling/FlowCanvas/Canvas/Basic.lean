import FlowCanvas.Canvas.Drawing
import FlowCanvas.Canvas.Event
import FlowCanvas.Canvas.Fault
import FlowCanvas.Canvas.Ids
import FlowCanvas.Palette.Basic

/-!
# The canvas

The canvas is the authoritative set of blocks and wires of an open flow, in document order, with
what is selected, the numbers of the next ids, and the creation stamp of the document it was loaded
from. The palette is not part of it; the questions that depend on block types take it as an
argument.

An operation gives an `Outcome`: a result or a fault, the canvas afterwards, and the events fired.
-/

namespace FlowCanvas

/-- What is selected: at most one block or one wire. -/
inductive Selection where
  | nothing
  | block (id : String)
  | wire (id : String)
deriving DecidableEq, Repr

namespace Selection

/-- The selected block. -/
def block? : Selection → Option String
  | block id => some id
  | _ => none

/-- The selected wire. -/
def wire? : Selection → Option String
  | wire id => some id
  | _ => none

end Selection

/-- The state of an open flow. -/
structure Canvas where
  blocks : List Block := []
  wires : List Wire := []
  selection : Selection := .nothing
  ids : IdSource := {}
  created : Option String := none
deriving DecidableEq

/-- What an operation gives: a result or a fault, the canvas afterwards, and the events fired. -/
structure Outcome (α : Type) where
  result : Except Fault α
  canvas : Canvas
  events : List Event := []

namespace Outcome

variable {α β : Type}

/-- A refusal that leaves a canvas and fires nothing. -/
def fail (c : Canvas) (fault : Fault) : Outcome α := ⟨.error fault, c, []⟩

/-- A result that leaves a canvas and fires nothing. -/
def ok (c : Canvas) (a : α) : Outcome α := ⟨.ok a, c, []⟩

/-- Changes the result. -/
def map (f : α → β) (o : Outcome α) : Outcome β := ⟨o.result.map f, o.canvas, o.events⟩

/-- Puts events in front of those fired. -/
def after (events : List Event) (o : Outcome α) : Outcome α :=
  { o with events := events ++ o.events }

/-- Goes on from a result with a second operation; a fault ends the whole. -/
def andThen (o : Outcome α) (f : α → Canvas → Outcome β) : Outcome β :=
  match o.result with
  | .error fault => ⟨.error fault, o.canvas, o.events⟩
  | .ok a => (f a o.canvas).after o.events

/-- Goes on from a check; a fault leaves the canvas as it is. -/
def given (c : Canvas) (check : Except Fault α) (f : α → Outcome β) : Outcome β :=
  match check with
  | .error fault => fail c fault
  | .ok a => f a

end Outcome

namespace Canvas

/-- The canvas without anything on it. -/
def empty : Canvas := {}

/-! ### Lists with keys -/

/-- Puts an item into a list: in the place of the item with its key, or at the end. -/
def putBy {α : Type} (key : α → String) (x : α) : List α → List α
  | [] => [x]
  | y :: ys => if key y = key x then x :: ys else y :: putBy key x ys

/-- The list in which of several items with one key the last counts, in the place of the first. -/
def keyedBy {α : Type} (key : α → String) (xs : List α) : List α :=
  xs.foldl (fun acc x ↦ putBy key x acc) []

/-! ### Queries -/

/-- The block of an id. -/
def block? (c : Canvas) (id : String) : Option Block := c.blocks.find? fun b ↦ b.id == id

/-- The wire of an id. -/
def wire? (c : Canvas) (id : String) : Option Wire := c.wires.find? fun w ↦ w.id == id

/-- The block of an id that must exist. -/
def block (c : Canvas) (id : String) : Except Fault Block :=
  match c.block? id with
  | some b => .ok b
  | none => .error (.unknownBlock id)

/-- The wire of an id that must exist. -/
def wire (c : Canvas) (id : String) : Except Fault Wire :=
  match c.wire? id with
  | some w => .ok w
  | none => .error (.unknownWire id)

/-- Whether an id is that of a container. -/
def isContainer (p : Palette) (c : Canvas) (id : String) : Bool :=
  match c.block? id with
  | some b => p.isContainer b.type
  | none => false

/-- Whether an id is that of the entry point, which cannot be deleted. -/
def isProtected (p : Palette) (c : Canvas) (id : String) : Bool :=
  match c.block? id with
  | some b => p.isEntryPoint b.type
  | none => false

/-- The entry point, if there is one. -/
def entryBlock? (p : Palette) (c : Canvas) : Option Block :=
  c.blocks.find? fun b ↦ p.isEntryPoint b.type

/-- The blocks inside a container. -/
def childrenOf (c : Canvas) (id : String) : List Block :=
  c.blocks.filter fun b ↦ b.parent == some id

/-- Whether a wire begins or ends at a block. -/
def touches (id : String) (w : Wire) : Bool := w.source == id || w.target == id

/-- The wires that begin or end at a block. -/
def wiresOf (c : Canvas) (id : String) : List Wire := c.wires.filter (touches id)

/-- What the canvas shows, under a name. -/
def drawing (c : Canvas) (name : Option String) : Drawing :=
  ⟨c.blocks, c.wires, name, c.created⟩

/-- A copy of what the canvas shows, unless a property is nested too deeply to be copied. -/
def snapshot (c : Canvas) (name : Option String) : Option Drawing :=
  if c.blocks.all Block.isCopyable then some (c.drawing name) else none

/-! ### Writing -/

/-- Puts a block on the canvas. -/
def putBlock (c : Canvas) (b : Block) : Canvas := { c with blocks := putBy Block.id b c.blocks }

/-- Puts a wire on the canvas. -/
def putWire (c : Canvas) (w : Wire) : Canvas := { c with wires := putBy Wire.id w c.wires }

/-- Changes the block of an id. -/
def modifyBlock (c : Canvas) (id : String) (f : Block → Block) : Canvas :=
  { c with blocks := c.blocks.map fun b ↦ if b.id = id then f b else b }

/-- Changes the wire of an id. -/
def modifyWire (c : Canvas) (id : String) (f : Wire → Wire) : Canvas :=
  { c with wires := c.wires.map fun w ↦ if w.id = id then f w else w }

end Canvas

end FlowCanvas
