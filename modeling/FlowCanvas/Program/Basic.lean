import FlowCanvas.Canvas.Drawing

/-!
# Programs

A program is what a drawing means once the canvas is forgotten: nodes with their properties, and the
connections between them. It is the payload that the code generator takes.
-/

namespace FlowCanvas

/-- A node of a program. -/
structure Program.Node where
  id : String
  type : String
  label : Value
  properties : Fields Value
  parent : Option String
  /-- The properties whose names are no texts. -/
  strays : List Stray := []
deriving DecidableEq

/-- A connection of a program. Only a call maps variables. -/
structure Program.Connection where
  source : String
  target : String
  kind : ConnectionKind
  mapping : Option (Fields Value)
deriving DecidableEq

/-- A program, in document order. -/
structure Program where
  nodes : List Program.Node := []
  connections : List Program.Connection := []
deriving DecidableEq

namespace Program

/-- The first node of an id. -/
def node? (p : Program) (id : String) : Option Node := p.nodes.find? fun n ↦ n.id == id

/-- The connections that leave a node. -/
def outgoing (p : Program) (id : String) : List Connection :=
  p.connections.filter fun k ↦ k.source == id

/-- The connections that reach a node. -/
def incoming (p : Program) (id : String) : List Connection :=
  p.connections.filter fun k ↦ k.target == id

/-- The nodes inside a node, or those inside none. -/
def childrenOf (p : Program) (id : Option String) : List Node :=
  p.nodes.filter fun n ↦ n.parent == id

/-- All properties of a node in order, whatever their names. -/
def Node.entries (n : Node) : List (Value × Value) := Stray.weave n.properties n.strays

/-- The record of a node with a record of its properties. -/
def Node.toValueWith (properties : Fields Value) (n : Node) : Value :=
  .object [("id", .text n.id), ("plugin_type", .text n.type), ("label", n.label),
    ("properties", .object properties), ("parent_id", .ofText? n.parent)]

/-- The record of a node. -/
def Node.toValue (n : Node) : Value := n.toValueWith (Stray.shown n.properties n.strays)

/-- The record of a node as it is sent to a code generator. -/
def Node.toSent (n : Node) : Value := n.toValueWith (Stray.sent n.properties n.strays)

/-- The record of a connection. -/
def Connection.toValue (k : Connection) : Value :=
  .object ([("from", .text k.source), ("to", .text k.target),
    ("connection_type", .text k.kind.name)] ++
    match k.mapping with
    | some mapping => [("variable_mapping", .object mapping)]
    | none => [])

/-- The record of a program. -/
def toValue (p : Program) : Value :=
  .object [("nodes", .list (p.nodes.map Node.toValue)),
    ("connections", .list (p.connections.map Connection.toValue))]

/-- The record of a program as it is sent to a code generator. -/
def payload (p : Program) : Fields Value :=
  [("nodes", .list (p.nodes.map Node.toSent)),
    ("connections", .list (p.connections.map Connection.toValue))]

end Program

end FlowCanvas
