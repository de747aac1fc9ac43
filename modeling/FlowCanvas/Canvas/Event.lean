import FlowCanvas.Canvas.Connection
import FlowCanvas.Canvas.Point

/-!
# Events

What a canvas reports of each change. `Event.toValue` is the record in which an event is pushed to
the editors that watch a canvas.
-/

namespace FlowCanvas

/-- A report of a change. -/
inductive Event where
  | blockCreated (id type : String)
  | blockDeleted (id : String) (wires : List String)
  /-- The names of the changed properties are in order. -/
  | blockUpdated (id : String) (keys : List Value)
  | blockMoved (id : String) (position : Point)
  | blockReparented (id : String) (parent previous : Option String) (position : Point)
  | wireCreated (id source target : String)
  | wireDeleted (id : String)
  | wireUpdated (id : String) (kind : ConnectionKind)
  | selectionChanged (block wire : Option String)
  | loaded (blocks wires : Nat)
deriving DecidableEq

namespace Event

/-- The layer in which a block is drawn: blocks inside a container stand above it. -/
def layer : (parent : Option String) → Int
  | some _ => 1
  | none => 0

/-- A list of ids. -/
def idList (ids : List String) : Value := .list (ids.map .text)

/-- The record of an event. -/
def toValue : Event → Value
  | blockCreated id type =>
    .object [("type", .text "NODE_CREATED"), ("nodeId", .text id), ("pluginId", .text type)]
  | blockDeleted id wires =>
    .object [("type", .text "NODE_DELETED"), ("nodeId", .text id), ("edgeIds", idList wires)]
  | blockUpdated id keys =>
    .object [("type", .text "NODE_UPDATED"), ("nodeId", .text id), ("keys", .list keys)]
  | blockMoved id position =>
    .object [("type", .text "NODE_MOVED"), ("nodeId", .text id), ("position", position.toValue)]
  | blockReparented id parent previous position =>
    .object [("type", .text "NODE_REPARENTED"), ("nodeId", .text id),
      ("parentId", .ofText? parent), ("previousParentId", .ofText? previous),
      ("position", position.toValue), ("zIndex", .int (layer parent))]
  | wireCreated id source target =>
    .object [("type", .text "EDGE_CREATED"), ("edgeId", .text id), ("source", .text source),
      ("target", .text target)]
  | wireDeleted id => .object [("type", .text "EDGE_DELETED"), ("edgeId", .text id)]
  | wireUpdated id kind =>
    .object [("type", .text "EDGE_UPDATED"), ("edgeId", .text id),
      ("connectionType", .text kind.name)]
  | selectionChanged block wire =>
    .object [("type", .text "SELECTION_CHANGED"), ("nodeId", .ofText? block),
      ("edgeId", .ofText? wire)]
  | loaded blocks wires =>
    .object [("type", .text "GRAPH_LOADED"), ("nodeCount", .int blocks), ("edgeCount", .int wires)]

end Event

end FlowCanvas
