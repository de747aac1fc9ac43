import FlowCanvas.Canvas.Calls
import FlowCanvas.Canvas.Entries

/-!
# Instructions

An `Edit` is an operation whose arguments are what they should be. A caller from outside may name a
block by any value and hand over any value for a record: an `Instruction` is an operation in its
words. `Instruction.read` turns it into a `Reading`, in most cases an edit, and finds what is wrong
with an argument at the moment the operation would come to it.

A value that is no text names nothing, and reports show it as they show any value. A list or an
object cannot even be looked up.
-/

namespace FlowCanvas

/-! ### Looking up values -/

/-- The text of a value that is to be looked up; `none` if it can name nothing. -/
def Value.lookupText? (v : Value) : Except Fault (Option String) :=
  if v.isName then .ok v.text? else .error .unusableId

/-- The type that a value names. -/
def Palette.named? (p : Palette) (id : Value) : Except FlowCanvas.Fault (Option BlockType) :=
  id.lookupText?.map fun s ↦ s.bind p.get?

/-- The type that a value must name. -/
def Palette.named (p : Palette) (id : Value) : Except FlowCanvas.Fault BlockType := do
  match ← p.named? id with
  | some t => return t
  | none => throw (.unknownType id.display)

namespace Canvas

/-- The block that a value names. -/
def blockNamed? (c : Canvas) (id : Value) : Except Fault (Option Block) :=
  id.lookupText?.map fun s ↦ s.bind c.block?

/-- The block that a value must name. -/
def blockNamed (c : Canvas) (id : Value) : Except Fault Block := do
  match ← c.blockNamed? id with
  | some b => return b
  | none => throw (.unknownBlock id.display)

/-- The wire that a value must name. -/
def wireNamed (c : Canvas) (id : Value) : Except Fault Wire := do
  match (← id.lookupText?).bind c.wire? with
  | some w => return w
  | none => throw (.unknownWire id.display)

/-- The blocks whose parent is a value; those without a parent have null for one. -/
def childrenNamed (c : Canvas) (parent : Value) : List Block :=
  c.blocks.filter fun b ↦ Value.same (.ofText? b.parent) parent

/-- The wires that begin or end at a value. -/
def wiresNamed (c : Canvas) (id : Value) : List Wire :=
  c.wires.filter fun w ↦ Value.same (.text w.source) id || Value.same (.text w.target) id

/-- The end of a wire that a value must name. -/
def endpoint (c : Canvas) (id : Value) : Except Fault String := do
  match ← c.blockNamed? id with
  | some b => return b.id
  | none => throw (.unknownEndpoint id.display)

/-- Writes a property of a block under any name, without any check and without an event. -/
def overwrite (c : Canvas) (id name value : Value) : Except Fault Canvas := do
  let b ← c.blockNamed id
  if !name.isName then throw .unusableId
  return c.writeEntries b.id [(name, value)]

end Canvas

/-! ### Instructions -/

/-- A new block in the words of a caller. -/
structure BlockRequest where
  type : Value
  position : Value := .null
  properties : Value := .null
  label : Value := .null

/-- An operation in the words of a caller. -/
inductive Instruction where
  | create (block : BlockRequest)
  | drop (block : BlockRequest)
  | delete (id : Value)
  | update (id patch : Value)
  | move (id position : Value)
  | reparent (id parent position : Value)
  | resolve (id : Value)
  | connect (source target data : Value)
  | disconnect (id : Value)
  | rewire (id patch : Value)
  | selectBlock (id : Value)
  | selectWire (id : Value)
  | deselect
  | bindCall (id name : Value)
  | load (drawing : Drawing)

/-- What an instruction comes to. -/
inductive Reading where
  | edit (edit : Edit)
  /-- An edit that makes a block, which then has checked entries written to it. -/
  | furnish (edit : Edit) (entries : List (Value × Value))
  /-- Entries to be checked and written to a block. -/
  | write (id : String) (entries : List (Value × Value))

namespace Instruction

/-- The entries that a value stands for. -/
def recordOf (v : Value) : Except Fault (List (Value × Value)) := v.record.mapError .badRecord

/-- The fields of a value that must be an object. -/
def fieldsOf (v : Value) : Except Fault (Fields Value) :=
  match v with
  | .object fields => .ok fields
  | _ => .error .notRecord

/-- Reads what a new block is to be, for an edit that makes one; properties that do not count as
given are none. -/
def readBlock (p : Palette) (c : Canvas) (make : NewBlock → Edit) (n : BlockRequest) :
    Except Fault Reading := do
  let t ← p.named n.type
  let _ ← c.checkType p t.id
  let entries ← if n.properties.truthy then recordOf n.properties else .ok []
  match textFields? entries with
  | some properties => return .edit (make ⟨t.id, n.position, properties, n.label⟩)
  | none =>
    Canvas.checkDefaults t
    let (label, others) := takeLabel entries
    let others ← Canvas.checkedEntries p t.id others
    return .furnish (make ⟨t.id, n.position, [], label.getD n.label⟩) others

/-- Reads an instruction. -/
def read (p : Palette) (c : Canvas) : Instruction → Except Fault Reading
  | create n => readBlock p c .create n
  | drop n => do
    let spot ← (Point.ofValue n.position).mapError .badPoint
    c.hitTest p none spot
    readBlock p c .drop n
  | delete id => (c.blockNamed id).map fun b ↦ .edit (.delete b.id)
  | update id patch => do
    let b ← c.blockNamed id
    let entries ← recordOf patch
    match textFields? entries with
    | some patch => return .edit (.update b.id patch)
    | none => return .write b.id entries
  | move id position => (c.blockNamed id).map fun b ↦ .edit (.move b.id position)
  | reparent id parent position => do
    let b ← c.blockNamed id
    if parent.isNull then return .edit (.reparent b.id none position)
    let q ← c.blockNamed parent
    return .edit (.reparent b.id (some q.id) position)
  | resolve id => (c.blockNamed id).map fun b ↦ .edit (.resolve b.id)
  | connect source target data => do
    let source ← c.endpoint source
    let target ← c.endpoint target
    let joined := c.wires.any fun w ↦ w.source == source && w.target == target
    let fields ← if joined || !data.truthy then .ok [] else fieldsOf data
    return .edit (.connect source target fields)
  | disconnect id => (c.wireNamed id).map fun w ↦ .edit (.disconnect w.id)
  | rewire id patch => do
    let w ← c.wireNamed id
    return .edit (.rewire w.id (← fieldsOf patch))
  | selectBlock id => (c.blockNamed id).map fun b ↦ .edit (.select (.block b.id))
  | selectWire id => (c.wireNamed id).map fun w ↦ .edit (.select (.wire w.id))
  | deselect => .ok (.edit (.select .nothing))
  | bindCall id name => (c.blockNamed id).map fun b ↦ .edit (.bindCall b.id name)
  | load drawing => .ok (.edit (.load drawing))

end Instruction

/-- Carries out what an instruction comes to. -/
def Canvas.carryOut (p : Palette) (c : Canvas) : Reading → Outcome Reply
  | .edit edit => c.apply p edit
  | .furnish edit entries =>
    (c.apply p edit).andThen fun reply after ↦
      match reply with
      | .id id => .ok (after.writeEntries id entries) reply
      | _ => .ok after reply
  | .write id entries => (c.updateEntries p id entries).map fun _ ↦ .done

/-- Carries out an instruction. -/
def Canvas.follow (p : Palette) (c : Canvas) (instruction : Instruction) : Outcome Reply :=
  .given c (instruction.read p c) (c.carryOut p)

end FlowCanvas
