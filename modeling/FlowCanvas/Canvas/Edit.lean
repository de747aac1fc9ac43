import FlowCanvas.Canvas.Containment

/-!
# Editing

The operations on a canvas. Each checks everything it can before it writes, and reports what it did
by events. `Edit` lists the operations as data, and `Canvas.apply` carries one out.
-/

namespace FlowCanvas

/-- What a new block is to be. A value under the property `label` takes the place of the label. -/
structure NewBlock where
  type : String
  position : Value := .null
  properties : Fields Value := []
  label : Value := .null

namespace Canvas

/-! ### Properties -/

/-- The names that belong to the record of a block and cannot be properties. -/
def reservedNames : List String := ["label", "pluginId", "onDelete"]

/-- Brings one property of a block of some type to its declared form; of what is not declared a copy
is kept. -/
def validatedEntry (p : Palette) (type : String) (entry : String × Value) :
    Except Fault (String × Value) :=
  if reservedNames.contains entry.1 then .error (.reservedProperty type entry.1)
  else
    match (p.get? type).bind fun t ↦ t.property? entry.1 with
    | none => if entry.2.isCopyable then .ok entry else .error .tooDeep
    | some spec =>
      match spec.kind.coerce entry.2 with
      | .ok v => .ok (entry.1, v)
      | .error why => .error (.propertyMismatch type entry.1 why)

/-- Brings the properties of a patch to their declared form; the first that does not fit is the
fault. -/
def validated (p : Palette) (type : String) : Fields Value → Except Fault (Fields Value)
  | [] => .ok []
  | entry :: rest =>
    match validatedEntry p type entry with
    | .error fault => .error fault
    | .ok e =>
      match validated p type rest with
      | .error fault => .error fault
      | .ok es => .ok (e :: es)

/-! ### Blocks -/

/-- The block that a canvas makes next. -/
def newBlock (c : Canvas) (t : BlockType) (properties : Fields Value) (position : Point)
    (label : Value) : Block where
  id := c.ids.blockId
  type := t.id
  position := position
  properties := Fields.merge t.defaults properties
  label := if label.isNull then t.name else label
  strays := t.strayDefaults

/-- Checks that a block of a type may be made. -/
def checkType (p : Palette) (c : Canvas) (type : String) : Except Fault BlockType :=
  match p.get? type with
  | none => .error (.unknownType type)
  | some t =>
    match if t.entryPoint then c.entryBlock? p else none with
    | some b => .error (.entryPointExists b.id)
    | none => .ok t

/-- Checks that the defaults of a type can be given out. -/
def checkDefaults (t : BlockType) : Except Fault Unit :=
  match t.defaultsFault? with
  | none => .ok ()
  | some .tooDeep => .error .tooDeep
  | some .unusableName => .error (.unusableName t.id)

/-- Makes a block. The id is taken before the position is read, so a bad position uses one up. -/
def createBlock (p : Palette) (n : NewBlock) (c : Canvas) : Outcome String :=
  .given c (c.checkType p n.type) fun t ↦
    .given c (checkDefaults t) fun _ ↦
      let label := (Fields.get? n.properties "label").getD n.label
      .given c (validated p n.type (Fields.erase n.properties "label")) fun properties ↦
        if !c.ids.namesBlock then .fail c .overlongId
        else
          let numbered := { c with ids := c.ids.afterBlock }
          match Point.ofValue n.position with
          | .error why => .fail numbered (.badPoint why)
          | .ok position =>
            let b := c.newBlock t properties position label
            ⟨.ok b.id, numbered.putBlock b, [.blockCreated b.id n.type]⟩

/-- Sets those of some blocks free that are inside a container at `corner`, one after the other. A
place without a sum ends it. -/
def freed (id : String) (corner : Point) : List Block → List Block × Except Fault Unit
  | [] => ([], .ok ())
  | b :: rest =>
    if b.parent = some id then
      match b.position.plus corner with
      | .error fault => (b :: rest, .error fault)
      | .ok spot =>
        let (others, result) := freed id corner rest
        ({ b with position := spot, parent := none } :: others, result)
    else
      let (others, result) := freed id corner rest
      (b :: others, result)

/-- Sets the blocks inside a container free at their place on the canvas. -/
def freeChildren (id : String) (c : Canvas) : Outcome Unit :=
  if (c.childrenOf id).isEmpty then .ok c ()
  else
    .given c (c.absolute id) fun corner ↦
      let (blocks, result) := freed id corner c.blocks
      ⟨result, { c with blocks := blocks }, []⟩

/-- Sets the selection; a change is reported. -/
def selecting (c : Canvas) (s : Selection) : Canvas × List Event :=
  if s = c.selection then (c, [])
  else ({ c with selection := s }, [.selectionChanged s.block? s.wire?])

/-- Whether what is selected goes when a block and some wires go. -/
def losesSelection (c : Canvas) (id : String) (wires : List String) : Bool :=
  match c.selection with
  | .nothing => false
  | .block s => s == id
  | .wire s => wires.contains s

/-- Deletes a block and the wires at it. The blocks inside it keep their place on the canvas. -/
def deleteBlock (p : Palette) (id : String) (c : Canvas) : Outcome Unit :=
  .given c (c.block id) fun b ↦
    if p.isEntryPoint b.type then .fail c (.entryPointProtected id)
    else
      (c.freeChildren id).andThen fun _ free ↦
        let wires := (c.wiresOf id).map Wire.id
        let rest := { c with
          blocks := free.blocks.filter fun b ↦ b.id != id
          wires := c.wires.filter fun w ↦ !touches id w }
        let (after, events) :=
          if c.losesSelection id wires then rest.selecting .nothing else (rest, [])
        ⟨.ok (), after, events ++ [.blockDeleted id wires]⟩

/-- Writes properties of a block; a value under the name `label` becomes its label. -/
def updateBlock (p : Palette) (id : String) (patch : Fields Value) (c : Canvas) : Outcome Unit :=
  .given c (c.block id) fun b ↦
    let label := (Fields.get? patch "label").getD b.label
    .given c (validated p b.type (Fields.erase patch "label")) fun properties ↦
      let after := c.modifyBlock id fun b ↦
        { b with properties := Fields.merge b.properties properties, label := label }
      let keys := (Fields.keys properties).mergeSort fun a b ↦ decide (a ≤ b)
      ⟨.ok (), after, [.blockUpdated id (keys.map .text)]⟩

/-! ### Parents -/

/-- Checks that one block may be the parent of another. -/
def checkParent (p : Palette) (c : Canvas) (id parent : String) : Except Fault Unit := do
  let q ← c.block parent
  if parent = id then throw (.containsItself id)
  if !p.isContainer q.type then throw (.notContainer parent)
  if q.parent.isSome then throw (.nestedContainer parent)
  if c.isContainer p id then throw (.containerInside id)

/-- The place of a block in the frame of a new parent: the one given, or the one that keeps it where
it is on the canvas. -/
def placeUnder (c : Canvas) (id : String) (parent : Option String) (position : Value) :
    Except Fault Point :=
  if position.isNull then
    match c.absolute id with
    | .error fault => .error fault
    | .ok spot =>
      match parent with
      | none => .ok spot
      | some q => c.toRelative spot q
  else
    match Point.ofValue position with
    | .error why => .error (.badPoint why)
    | .ok point => .ok point

/-- Gives a block a new parent, or none. -/
def reparent (p : Palette) (id : String) (parent : Option String) (position : Value)
    (c : Canvas) : Outcome Unit :=
  .given c (c.block id) fun b ↦
    let allowed : Except Fault Unit :=
      match parent with
      | none => .ok ()
      | some q => c.checkParent p id q
    .given c allowed fun _ ↦
      .given c (c.placeUnder id parent position) fun place ↦
        ⟨.ok (), c.modifyBlock id fun b ↦ { b with parent := parent, position := place },
          [.blockReparented id parent b.parent place]⟩

/-- Brings the parent of a block in line with where it is on the canvas. Tells whether the parent
changed. -/
def resolve (p : Palette) (id : String) (c : Canvas) : Outcome Bool :=
  .given c (c.block id) fun b ↦
    if p.isContainer b.type then .ok c false
    else
      .given c (c.absolute id) fun spot ↦
        .given c (c.containerAt p spot (some id)) fun found ↦
          match found with
          | some k =>
            if b.parent = some k.id then .ok c false
            else (c.reparent p id (some k.id) .null).map fun _ ↦ true
          | none =>
            if b.parent.isSome then (c.reparent p id none .null).map fun _ ↦ true
            else .ok c false

/-- Ends the drag of a block at a place in its present frame, and resolves its parent. -/
def moveBlock (p : Palette) (id : String) (position : Value) (c : Canvas) : Outcome Bool :=
  .given c (c.block id) fun b ↦
    match Point.ofValue position with
    | .error why => .fail c (.badPoint why)
    | .ok place =>
      .given c (c.toAbsolute place b.parent) fun spot ↦
        .given c (c.hitTest p (some id) spot) fun _ ↦
          ((c.modifyBlock id fun b ↦ { b with position := place }).resolve p id).after
            [.blockMoved id place]

/-- Drops a new block from the palette at a place on the canvas, into the container under it. -/
def dropBlock (p : Palette) (n : NewBlock) (c : Canvas) : Outcome String :=
  match Point.ofValue n.position with
  | .error why => .fail c (.badPoint why)
  | .ok spot =>
    .given c (c.hitTest p none spot) fun _ ↦
      (c.createBlock p n).andThen fun id after ↦ (after.resolve p id).map fun _ ↦ id

/-! ### Wires -/

/-- The first entry that an object has under one of two names. -/
def either? (fields : Fields Value) (first second : String) : Option Value :=
  (Fields.get? fields first).or (Fields.get? fields second)

/-- The kind of a wire after a patch. -/
def patchedKind (kind : Option ConnectionKind) (patch : Fields Value) :
    Except Fault ConnectionKind :=
  match either? patch "connectionType" "connection_type" with
  | none => .ok (kind.getD .simple)
  | some v =>
    match ConnectionKind.ofValue? v with
    | some k => .ok k
    | none => .error (.unknownConnection v)

/-- What keeps a value from being shown as a text: an integer in it, or its depth. -/
def showFault? (v : Value) : Option Fault :=
  let own (u : Value) : Option Fault := if u.isOverlong then some .overlongNumber else none
  v.firstFault? own .tooDeep Value.greatestText

/-- The kind and the mapping of a wire after a patch. A simple wire maps nothing; a wire that
changes its kind forgets its mapping unless the patch gives one, whose values are shown as texts. -/
def patchedWire (kind : Option ConnectionKind) (mapping : Fields Value) (patch : Fields Value) :
    Except Fault (ConnectionKind × Fields Value) :=
  match patchedKind kind patch with
  | .error fault => .error fault
  | .ok after =>
    match (either? patch "variableMapping" "variable_mapping").getD .null with
    | .object fields =>
      if after = .simple then .ok (after, [])
      else
        match fields.findSome? fun e ↦ showFault? e.2 with
        | some fault => .error fault
        | none => .ok (after, Fields.mapValues (fun v ↦ .text v.display) fields)
    | .null =>
      .ok (after, if after = .simple || kind != some after then [] else mapping)
    | _ => .error .mappingNotObject

/-- Checks that both ends of a wire exist. -/
def checkEndpoints (c : Canvas) (source target : String) : Except Fault Unit :=
  if (c.block? source).isNone then .error (.unknownEndpoint source)
  else if (c.block? target).isNone then .error (.unknownEndpoint target)
  else .ok ()

/-- Joins two blocks. Blocks that are joined already keep their wire as it is. -/
def createWire (source target : String) (data : Fields Value) (c : Canvas) : Outcome String :=
  .given c (c.checkEndpoints source target) fun _ ↦
    match c.wires.find? fun w ↦ w.source == source && w.target == target with
    | some w => .ok c w.id
    | none =>
      .given c (patchedWire (some .simple) [] data) fun (kind, mapping) ↦
        if !c.ids.namesWire then .fail c .overlongId
        else
          let w : Wire := ⟨c.ids.wireId, source, target, some kind, mapping⟩
          ⟨.ok w.id, { c with ids := c.ids.afterWire }.putWire w,
            [.wireCreated w.id source target]⟩

/-- Deletes a wire. -/
def deleteWire (id : String) (c : Canvas) : Outcome Unit :=
  .given c (c.wire id) fun _ ↦
    let rest := { c with wires := c.wires.filter fun w ↦ w.id != id }
    let (after, events) :=
      if c.selection = .wire id then rest.selecting .nothing else (rest, [])
    ⟨.ok (), after, events ++ [.wireDeleted id]⟩

/-- Changes the kind and the mapping of a wire. -/
def updateWire (id : String) (patch : Fields Value) (c : Canvas) : Outcome Unit :=
  .given c (c.wire id) fun w ↦
    .given c (patchedWire w.kind w.mapping patch) fun (kind, mapping) ↦
      ⟨.ok (), c.modifyWire id fun w ↦ { w with kind := some kind, mapping := mapping },
        [.wireUpdated id kind]⟩

/-! ### Selection -/

/-- Selects a block, a wire or nothing. -/
def select (s : Selection) (c : Canvas) : Outcome Unit :=
  let known : Except Fault Unit :=
    match s with
    | .nothing => .ok ()
    | .block id => (c.block id).map fun _ ↦ ()
    | .wire id => (c.wire id).map fun _ ↦ ()
  .given c known fun _ ↦
    let (after, events) := c.selecting s
    ⟨.ok (), after, events⟩

/-! ### Loading -/

/-- Replaces everything on the canvas by a copy of a drawing. An id with an overlong number is
noticed only when the numbers of the next ids are moved past it: the drawing is there by then, but
what comes after is left undone. -/
def load (d : Drawing) (c : Canvas) : Outcome Unit :=
  let blocks := keyedBy Block.id d.blocks
  let wires := keyedBy Wire.id d.wires
  let laid := { c with blocks := blocks, wires := wires, created := d.created }
  if !d.blocks.all Block.isCopyable then .fail c .tooDeep
  else if blocks.any fun b ↦ isOverlongId b.id then .fail laid .overlongId
  else if wires.any fun w ↦ isOverlongId w.id then
    .fail { laid with ids := c.ids.reseed (blocks.map Block.id) [] } .overlongId
  else
    ⟨.ok (),
      { laid with
        selection := .nothing
        ids := c.ids.reseed (blocks.map Block.id) (wires.map Wire.id) },
      [.loaded blocks.length wires.length]⟩

end Canvas

end FlowCanvas
