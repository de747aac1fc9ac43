import FlowCanvas.Canvas.Edit
import FlowCanvas.Document.References
import FlowCanvas.Document.Stamp

/-!
# Drawings and documents

`Document.ofDrawing` writes a drawing down, `Document.toDrawing` reads it back. Reading brings the
declared properties of a block to their form, as editing does, and takes the kind and mapping of a
wire from the older place where the data has none.
-/

namespace FlowCanvas

/-- Why a document is refused. -/
inductive DocumentFault where
  | shape (complaints : List Shape.Complaint)
  | reference (fault : ReferenceFault)
  /-- A declared property of a block does not fit. -/
  | property (id type key : String) (why : Kind.Mismatch)
  /-- A file does not hold JSON. -/
  | notJson (file : String) (refusal : Json.Refusal)
  /-- The type of a block declares a property under something that cannot be a name. -/
  | unusableName (type : String)
deriving DecidableEq

/-- The wording of a fault. -/
def DocumentFault.message : DocumentFault → String
  | shape complaints =>
    let n := complaints.length
    let noun := if n = 1 then "error" else "errors"
    s!"invalid flow document: {n} validation {noun} for FlowDocument"
  | reference fault => fault.message
  | property id type key why => s!"node '{id}': {type}.{key}: {why.message}"
  | notJson file refusal => s!"{file} is not valid JSON: {refusal.message}"
  | unusableName type => s!"'{type}' declares a property without a name"

/-- Whether the fault lies with the document, and not with the palette or with a limit of the
reader. -/
def DocumentFault.isMalformed : DocumentFault → Bool
  | unusableName _ => false
  | notJson _ refusal => refusal.complaint.isSyntax
  | _ => true

/-- Why a drawing cannot be written down. -/
inductive WritingFault where
  /-- A wire has no kind. -/
  | unstatedKind (wire : String)
  /-- The heading, the name of a property or the mapping of a wire is no text, or a coordinate is no
  number. -/
  | shape (complaints : List Shape.Complaint)
  /-- A value in the document is nested too deeply. -/
  | tooDeep
  /-- A value in the document is a callback. -/
  | callback
  /-- An integer in the document is too long to be written out. -/
  | overlong
  /-- A property is nested too deeply for the canvas to be copied. -/
  | uncopied
deriving DecidableEq

namespace Document

/-! ### Writing a drawing down -/

/-- The name of a flow that has none. -/
def defaultName : String := "my_flow"

/-- The first value that says something: neither nothing nor an empty text. -/
def firstGiven : List Value → (default : Value) → Value
  | [], default => default
  | v :: rest, default => if v.truthy then v else firstGiven rest default

/-- Whether an integer can be an index: it fits into 64 bits. -/
def fitsIndex (n : Int) : Bool := -(Nat.pow 2 63 : Int) ≤ n && n < (Nat.pow 2 63 : Int)

/-- The step to an entry under a name that is no text. -/
def strayStep : Value → Shape.Step
  | .int n => if fitsIndex n then .index n else .key (toString n)
  | .bool b => .index (if b then 1 else 0)
  | name => .key name.inspect

/-- Checks that there is no property without a text for its name. -/
def checkNames (strays : List Stray) : Checked Unit :=
  match strays.map fun s ↦ (⟨[strayStep s.name, .key "[key]"], .notText⟩ : Shape.Complaint) with
  | [] => .ok ()
  | complaints => .error complaints

/-- The record of a block. -/
def BlockRecord.ofBlock (b : Block) : Checked BlockRecord :=
  (Checked.pair (Checked.within (.key "position") (pointOf .value b.position.toValue))
    (Checked.within (.key "data") (checkNames b.strays))).map fun (position, _) ↦
    { id := b.id
      type := some b.type
      position := position
      data := Fields.merge [("label", b.label), ("pluginId", .text b.type)] b.properties
      parent := b.parent }

/-- The records of blocks, counted from `i`. -/
def blockRecords : (i : Nat) → List Block → Checked (List BlockRecord)
  | _, [] => .ok []
  | i, b :: rest =>
    (Checked.pair (Checked.within (.index i) (BlockRecord.ofBlock b))
      (blockRecords (i + 1) rest)).map fun (r, rs) ↦ r :: rs

/-- The record of a wire. -/
def WireRecord.ofWire (w : Wire) (kind : ConnectionKind) : Checked WireRecord :=
  (Checked.within (.key "data")
    (Checked.within (.key "variableMapping") (Checked.entries Checked.text w.mapping))).map
    fun mapping ↦
      { id := w.id
        source := w.source
        target := w.target
        kind := none
        mapping := none
        data := some ⟨some kind, some mapping, []⟩ }

/-- The wires with their kinds; the first wire without one is the fault. -/
def statedKinds : List Wire → Except WritingFault (List (Wire × ConnectionKind))
  | [] => .ok []
  | w :: rest =>
    match w.kind with
    | none => .error (.unstatedKind w.id)
    | some kind => (statedKinds rest).map fun wires ↦ (w, kind) :: wires

/-- The records of wires, counted from `i`. -/
def wireRecords : (i : Nat) → List (Wire × ConnectionKind) → Checked (List WireRecord)
  | _, [] => .ok []
  | i, (w, kind) :: rest =>
    (Checked.pair (Checked.within (.index i) (WireRecord.ofWire w kind))
      (wireRecords (i + 1) rest)).map fun (r, rs) ↦ r :: rs

/-- What is said of a drawing when it is written down; what is not given comes from the drawing and
the clock. -/
structure Heading where
  name : Value := .null
  created : Value := .null
  now : Value := .null

/-- The metadata of a drawing as a value, before its shape is checked. -/
def metadataValue (clock : Clock) (heading : Heading) (d : Drawing) : Value :=
  let stamp := firstGiven [heading.now] (.text clock.stamp)
  .object [("name", firstGiven [heading.name, .ofText? d.name] (.text defaultName)),
    ("created", firstGiven [heading.created, .ofText? d.created] stamp),
    ("modified", stamp)]

/-- Writes a drawing down. -/
def ofDrawing (clock : Clock) (heading : Heading) (d : Drawing) : Except WritingFault Document :=
  match statedKinds d.wires with
  | .error fault => .error fault
  | .ok wires =>
    let metadata := metadataOf .value (metadataValue clock heading d)
    match Checked.pair (Checked.within (.key "metadata") metadata)
      (Checked.pair (Checked.within (.key "nodes") (blockRecords 0 d.blocks))
        (Checked.within (.key "edges") (wireRecords 0 wires)))
    with
    | .error complaints => .error (.shape complaints)
    | .ok (metadata, blocks, wires) =>
      .ok {
        version := currentVersion
        metadata := metadata
        blocks := blocks
        wires := wires }

/-- What keeps a value from being handed over: a callback in it, or its depth. -/
def hindrance? (v : Value) : Option WritingFault :=
  let own (u : Value) : Option WritingFault := if u.isCallback then some .callback else none
  v.firstFault? own .tooDeep Value.greatestDepth

/-- A document as a value, if all of its values can be handed over. -/
def handedOver (d : Document) : Except WritingFault Value :=
  let first? (fields : Fields Value) : Option WritingFault :=
    fields.findSome? fun e ↦ hindrance? e.2
  let inBlocks := d.blocks.findSome? fun b ↦ first? b.data
  let inWires := d.wires.findSome? fun w ↦ w.data.bind fun data ↦ first? data.extras
  match inBlocks.or inWires with
  | some fault => .error fault
  | none => .ok d.toValue

/-! ### Reading a document -/

/-- Brings the declared properties that are present to their form, in the order of their
declaration. `id` and `type` are those of the block. -/
def coerceDeclared (id type : String) : List PropertySpec → Fields Value →
    Except DocumentFault (Fields Value)
  | [], properties => .ok properties
  | spec :: rest, properties =>
    if !spec.name.isName then .error (.unusableName type)
    else
      match spec.name.text?.bind fun key ↦ (Fields.get? properties key).map fun v ↦ (key, v) with
      | none => coerceDeclared id type rest properties
      | some (key, v) =>
        match spec.kind.coerce v with
        | .error why => .error (.property id type key why)
        | .ok v => coerceDeclared id type rest (Fields.set properties key v)

/-- The block of a record. -/
def BlockRecord.toBlock (palette : Option Palette) (b : BlockRecord) : Except DocumentFault Block :=
  let type := b.typeId
  let specs := ((palette.bind fun p ↦ p.get? type).map BlockType.properties).getD []
  let data := b.data.filter fun e ↦ !Canvas.reservedNames.contains e.1
  match coerceDeclared b.id type specs data with
  | .error fault => .error fault
  | .ok properties =>
    .ok {
      id := b.id
      type := type
      position := b.position
      parent := b.parent
      properties := properties
      label :=
        match Fields.get? b.data "label" with
        | some (.text s) => .text s
        | _ => .null }

/-- The kind of the wire of a record. -/
def WireRecord.kindStated (w : WireRecord) : ConnectionKind :=
  ((w.data.bind WireData.kind).or w.kind).getD .simple

/-- The mapping of the wire of a record; an empty one counts as unstated. -/
def WireRecord.mappingStated (w : WireRecord) : Fields String :=
  match w.data.bind WireData.mapping with
  | some (e :: es) => e :: es
  | _ => w.mapping.getD []

/-- The wire of a record. -/
def WireRecord.toWire (w : WireRecord) : Wire where
  id := w.id
  source := w.source
  target := w.target
  kind := some w.kindStated
  mapping := if w.kindStated = .functionCall then Fields.mapValues .text w.mappingStated else []

/-- The blocks of records; the first that does not fit is the fault. -/
def toBlocks (palette : Option Palette) : List BlockRecord → Except DocumentFault (List Block)
  | [] => .ok []
  | r :: rest =>
    match r.toBlock palette with
    | .error fault => .error fault
    | .ok b =>
      match toBlocks palette rest with
      | .error fault => .error fault
      | .ok bs => .ok (b :: bs)

/-- The drawing of a document whose parts fit together. -/
def toDrawing (palette : Option Palette) (d : Document) : Except DocumentFault Drawing :=
  match d.checkReferences palette with
  | .error fault => .error (.reference fault)
  | .ok () =>
    (toBlocks palette d.blocks).map fun blocks ↦
      { blocks := blocks
        wires := d.wires.map WireRecord.toWire
        name := some d.metadata.name
        created := some d.metadata.created }

/-- Reads a drawing from a checked document. -/
def open? (palette : Option Palette) : Checked Document → Except DocumentFault Drawing
  | .error complaints => .error (.shape complaints)
  | .ok d => d.toDrawing palette

end Document

/-- Writes down what a canvas shows. It is copied first. -/
def Canvas.document (clock : Clock) (heading : Document.Heading) (name : Option String)
    (c : Canvas) : Except WritingFault Document :=
  match c.snapshot name with
  | none => .error .uncopied
  | some d => Document.ofDrawing clock heading d

/-- Reads a drawing from a value; a text is taken for JSON. -/
def Drawing.ofValue (palette : Option Palette) (v : Value) : Except DocumentFault Drawing :=
  Document.open? palette (Document.ofInput v)

/-- Reads a drawing from a text in JSON. -/
def Drawing.ofText (palette : Option Palette) (s : String) : Except DocumentFault Drawing :=
  Document.open? palette (Document.ofText s)

end FlowCanvas
