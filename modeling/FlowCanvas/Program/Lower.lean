import FlowCanvas.Palette.Basic
import FlowCanvas.Program.Basic

/-!
# From drawings to programs

Lowering is structural: it checks that a drawing holds together and leaves out what only describes
the canvas. With a palette it also checks the rules that depend on block types: parents are
containers, containers are not nested, and there is one entry point at most. What goes into the
program is copied, which a value that is nested too deeply cannot be.
-/

namespace FlowCanvas

/-- Why a drawing does not hold together. -/
inductive IntegrityFault where
  | duplicateBlock (id : String)
  | ownParent (id : String)
  | unknownParent (id parent : String)
  | nestedParent (id parent : String)
  | parentNotContainer (parent id : String)
  | containerNested (id parent : String)
  | unknownEnd (wire id : String)
  | entryPoints (ids : List String)
deriving DecidableEq, Repr

/-- The wording of a fault. -/
def IntegrityFault.message : IntegrityFault → String
  | duplicateBlock id => s!"duplicate node id '{id}'"
  | ownParent id => s!"node '{id}' is its own parent"
  | unknownParent id parent => s!"node '{id}' has unknown parent '{parent}'"
  | nestedParent id parent => s!"node '{id}' sits in nested parent '{parent}'"
  | parentNotContainer parent id => s!"parent '{parent}' of '{id}' is not a container"
  | containerNested id parent => s!"container '{id}' is nested in '{parent}'"
  | unknownEnd wire id => s!"edge '{wire}' references unknown node '{id}'"
  | entryPoints ids => "more than one entry point: " ++ ", ".intercalate ids

/-- Why a drawing is not lowered. -/
inductive LoweringFault where
  /-- The drawing does not hold together. -/
  | integrity (fault : IntegrityFault)
  /-- A property is nested too deeply to be copied. -/
  | tooDeep
deriving DecidableEq, Repr

namespace Drawing

/-! ### Integrity -/

/-- Checks that no id is repeated; `seen` holds the ids so far. -/
def checkIds (seen : List String) : List Block → Except IntegrityFault Unit
  | [] => .ok ()
  | b :: rest =>
    if seen.contains b.id then .error (.duplicateBlock b.id) else checkIds (b.id :: seen) rest

/-- Checks the parent of a block. One level of nesting is all there is, which also rules out
cycles. -/
def checkParent (palette : Option Palette) (d : Drawing) (b : Block) : Except IntegrityFault Unit :=
  match b.parent with
  | none => .ok ()
  | some parent =>
    if parent = b.id then .error (.ownParent b.id)
    else
      match d.block? parent with
      | none => .error (.unknownParent b.id parent)
      | some q =>
        if q.parent.isSome then .error (.nestedParent b.id q.id)
        else
          match palette with
          | none => .ok ()
          | some p =>
            if !p.isContainer q.type then .error (.parentNotContainer q.id b.id)
            else if p.isContainer b.type then .error (.containerNested b.id q.id)
            else .ok ()

/-- Checks that the ends of a wire are blocks. -/
def checkWire (d : Drawing) (w : Wire) : Except IntegrityFault Unit :=
  if (d.block? w.source).isNone then .error (.unknownEnd w.id w.source)
  else if (d.block? w.target).isNone then .error (.unknownEnd w.id w.target)
  else .ok ()

/-- Checks every item of a list; the first fault counts. -/
def checkEach {α ε : Type} (check : α → Except ε Unit) : List α → Except ε Unit
  | [] => .ok ()
  | a :: rest =>
    match check a with
    | .error fault => .error fault
    | .ok () => checkEach check rest

/-- Checks that there is one entry point at most. -/
def checkEntryPoints (palette : Option Palette) (d : Drawing) : Except IntegrityFault Unit :=
  match palette with
  | none => .ok ()
  | some p =>
    let entries := (d.blocks.filter fun b ↦ p.isEntryPoint b.type).map Block.id
    if 1 < entries.length then .error (.entryPoints entries) else .ok ()

/-- Checks that a drawing holds together. -/
def check (palette : Option Palette) (d : Drawing) : Except IntegrityFault Unit := do
  checkIds [] d.blocks
  checkEach (d.checkParent palette) d.blocks
  checkEach d.checkWire d.wires
  d.checkEntryPoints palette

end Drawing

namespace Program

/-! ### Lowering -/

/-- The names of properties that describe the canvas and not the program. -/
def canvasNames : List String := ["label", "id", "pluginId", "nodeType", "onDelete"]

/-- The type of a block; old drawings keep it among the properties. -/
def typeOf (b : Block) : String :=
  if b.type != "" then b.type
  else
    match Fields.get? b.properties "nodeType" with
    | some (.text s) => if s != "" then s else Block.unstatedType
    | _ => Block.unstatedType

/-- Whether a property belongs to the program: not a name of the canvas, and nothing to call. -/
def keeps (entry : String × Value) : Bool :=
  !canvasNames.contains entry.1 &&
    match entry.2 with
    | .callback => false
    | _ => true

/-- Whether a property under any name belongs to the program. -/
def keepsEntry : Value × Value → Bool
  | (.text name, value) => keeps (name, value)
  | (_, .callback) => false
  | _ => true

/-- The node of a block. -/
def Node.ofBlock (b : Block) : Node where
  id := b.id
  type := typeOf b
  label := b.label
  properties := b.properties.filter keeps
  parent := b.parent
  strays := Stray.ofEntries 0 (b.entries.filter keepsEntry)

/-- The connection of a wire. -/
def Connection.ofWire (w : Wire) : Connection :=
  let kind := w.kind.getD .simple
  ⟨w.source, w.target, kind, if kind = .functionCall then some w.mapping else none⟩

/-- Whether no property of a node is nested too deeply to be copied. -/
def Node.isCopyable (n : Node) : Bool := n.entries.all fun e ↦ e.2.isCopyable

/-- Lowers a drawing that holds together. -/
def ofDrawing (palette : Option Palette) (d : Drawing) : Except LoweringFault Program :=
  match d.check palette with
  | .error fault => .error (.integrity fault)
  | .ok () =>
    let nodes := d.blocks.map Node.ofBlock
    if nodes.all Node.isCopyable then .ok ⟨nodes, d.wires.map Connection.ofWire⟩
    else .error .tooDeep

end Program

end FlowCanvas
