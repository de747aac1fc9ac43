import FlowCanvas.Canvas.Connection
import FlowCanvas.Canvas.Point
import FlowCanvas.Value.Stray

/-!
# Drawings

A drawing is what a canvas shows at a moment: its blocks and wires in document order, with the name
and the creation stamp of the document it belongs to. Nothing is checked here: a drawing may have
dangling wires, missing parents or repeated ids.
-/

namespace FlowCanvas

/-- A block. Its place is relative to its parent. -/
structure Block where
  id : String
  type : String
  position : Point := Point.origin
  parent : Option String := none
  properties : Fields Value := []
  label : Value := .null
  /-- The properties whose names are no texts. -/
  strays : List Stray := []
deriving DecidableEq

/-- A wire from one block to another. Its kind may be unstated. -/
structure Wire where
  id : String
  source : String
  target : String
  kind : Option ConnectionKind := some .simple
  mapping : Fields Value := []
deriving DecidableEq

/-- Blocks and wires in document order. -/
structure Drawing where
  blocks : List Block := []
  wires : List Wire := []
  name : Option String := none
  created : Option String := none
deriving DecidableEq

namespace Block

/-- The type that stands for one that is not stated. -/
def unstatedType : String := "legacy_code"

/-- A block in a word. -/
def summary (b : Block) : String := s!"FlowNode({b.id}:{b.type})"

/-- All properties in order, whatever their names. -/
def entries (b : Block) : List (Value × Value) := Stray.weave b.properties b.strays

/-- The properties with texts for all names. -/
def shownProperties (b : Block) : Fields Value := Stray.shown b.properties b.strays

/-- Whether no property is nested too deeply to be copied. -/
def isCopyable (b : Block) : Bool := b.entries.all fun e ↦ e.2.isCopyable

/-- Whether two blocks are the same in the domain, where numbers compare by value. -/
def same (a b : Block) : Bool :=
  a.id == b.id && a.type == b.type && a.position.same b.position && a.parent == b.parent &&
    Value.same (.object a.properties) (.object b.properties) && Value.same a.label b.label

end Block

namespace Wire

/-- A wire in a word. -/
def summary (w : Wire) : String := s!"FlowEdge({w.source} -> {w.target})"

/-- Whether two wires are the same in the domain. -/
def same (a b : Wire) : Bool :=
  a.id == b.id && a.source == b.source && a.target == b.target && a.kind == b.kind &&
    Value.same (.object a.mapping) (.object b.mapping)

end Wire

namespace Drawing

/-- The first block with an id. -/
def block? (d : Drawing) (id : String) : Option Block := d.blocks.find? fun b ↦ b.id == id

/-- The first wire with an id. -/
def wire? (d : Drawing) (id : String) : Option Wire := d.wires.find? fun w ↦ w.id == id

/-- Whether two lists agree item by item. -/
def sameList {α : Type} (same : α → α → Bool) : List α → List α → Bool
  | [], [] => true
  | a :: as, b :: bs => same a b && sameList same as bs
  | _, _ => false

end Drawing

end FlowCanvas
