import FlowCanvas.Canvas.Drawing
import FlowCanvas.Document.Basic
import FlowCanvas.Palette.Basic

/-!
# References in documents

That the parts of a document fit together: ids are distinct, parents are blocks that have no parent
themselves, wires join blocks. With a palette, parents are containers, containers are not nested,
and one block at most is an entry point.
-/

namespace FlowCanvas

/-- Why the parts of a document do not fit together; most faults name the index of the record. -/
inductive ReferenceFault where
  | duplicateBlock (index : Nat) (id : String)
  | ownParent (index : Nat) (id : String)
  | missingParent (index : Nat) (parent : String)
  | nestedParent (index : Nat) (parent : String)
  | parentNotContainer (index : Nat) (parent : String)
  | containerNested (index : Nat) (id : String)
  | duplicateWire (index : Nat) (id : String)
  | missingSource (index : Nat) (id : String)
  | missingTarget (index : Nat) (id : String)
  | entryPoints (ids : List String)
deriving DecidableEq, Repr

/-- The wording of a fault. -/
def ReferenceFault.message : ReferenceFault → String
  | duplicateBlock i id => s!"nodes[{i}]: duplicate node id '{id}'"
  | ownParent i id => s!"nodes[{i}]: node '{id}' is its own parent"
  | missingParent i parent => s!"nodes[{i}]: parentNode '{parent}' not found in nodes"
  | nestedParent i parent => s!"nodes[{i}]: parent '{parent}' is itself nested"
  | parentNotContainer i parent => s!"nodes[{i}]: parent '{parent}' is not a container"
  | containerNested i id => s!"nodes[{i}]: container '{id}' cannot be nested"
  | duplicateWire i id => s!"edges[{i}]: duplicate edge id '{id}'"
  | missingSource i id => s!"edges[{i}]: source '{id}' not found in nodes"
  | missingTarget i id => s!"edges[{i}]: target '{id}' not found in nodes"
  | entryPoints ids => "more than one entry point: " ++ ", ".intercalate ids

namespace Document

/-- The text of a data entry that is not empty. -/
def BlockRecord.stated? (b : BlockRecord) (key : String) : Option String :=
  match Fields.get? b.data key with
  | some (.text s) => if s != "" then some s else none
  | _ => none

/-- The type of a block: as stated, or as old files kept it among the data. -/
def BlockRecord.typeId (b : BlockRecord) : String :=
  let own : Option String :=
    match b.type with
    | some s => if s != "" then some s else none
    | none => none
  ((own.or (b.stated? "pluginId")).or (b.stated? "nodeType")).getD Block.unstatedType

/-- The record of the block of an id. -/
def block? (d : Document) (id : String) : Option BlockRecord :=
  d.blocks.find? fun b ↦ b.id == id

/-- Checks that no block id is repeated; `seen` holds the ids before the record of index `i`. -/
def checkBlockIds (seen : List String) : (i : Nat) → List BlockRecord → Except ReferenceFault Unit
  | _, [] => .ok ()
  | i, b :: rest =>
    if seen.contains b.id then .error (.duplicateBlock i b.id)
    else checkBlockIds (b.id :: seen) (i + 1) rest

/-- Checks the parent of the block of index `i`. -/
def checkParent (palette : Option Palette) (d : Document) (i : Nat) (b : BlockRecord) :
    Except ReferenceFault Unit :=
  match b.parent with
  | none => .ok ()
  | some parent =>
    if parent = b.id then .error (.ownParent i b.id)
    else
      match d.block? parent with
      | none => .error (.missingParent i parent)
      | some q =>
        if q.parent.isSome then .error (.nestedParent i parent)
        else
          match palette with
          | none => .ok ()
          | some p =>
            if !p.isContainer q.typeId then .error (.parentNotContainer i parent)
            else if p.isContainer b.typeId then .error (.containerNested i b.id)
            else .ok ()

/-- Checks the parents of blocks from index `i` on. -/
def checkParents (palette : Option Palette) (d : Document) : (i : Nat) → List BlockRecord →
    Except ReferenceFault Unit
  | _, [] => .ok ()
  | i, b :: rest =>
    match checkParent palette d i b with
    | .error fault => .error fault
    | .ok () => checkParents palette d (i + 1) rest

/-- Checks wires from index `i` on; `seen` holds the ids before. -/
def checkWires (d : Document) (seen : List String) : (i : Nat) → List WireRecord →
    Except ReferenceFault Unit
  | _, [] => .ok ()
  | i, w :: rest =>
    if seen.contains w.id then .error (.duplicateWire i w.id)
    else if (d.block? w.source).isNone then .error (.missingSource i w.source)
    else if (d.block? w.target).isNone then .error (.missingTarget i w.target)
    else checkWires d (w.id :: seen) (i + 1) rest

/-- Checks that there is one entry point at most. -/
def checkEntryPoints (palette : Option Palette) (d : Document) : Except ReferenceFault Unit :=
  match palette with
  | none => .ok ()
  | some p =>
    let entries := (d.blocks.filter fun b ↦ p.isEntryPoint b.typeId).map BlockRecord.id
    if 1 < entries.length then .error (.entryPoints entries) else .ok ()

/-- Checks that the parts of a document fit together. -/
def checkReferences (palette : Option Palette) (d : Document) : Except ReferenceFault Unit := do
  checkBlockIds [] 0 d.blocks
  checkParents palette d 0 d.blocks
  checkWires d [] 0 d.wires
  checkEntryPoints palette d

end Document

end FlowCanvas
