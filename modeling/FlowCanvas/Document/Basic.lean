import FlowCanvas.Canvas.Connection
import FlowCanvas.Canvas.Point
import FlowCanvas.Document.Shape
import FlowCanvas.Json.Reader
import FlowCanvas.Value.Portable

/-!
# Documents

The document in which a flow is kept: a version, metadata, and the blocks and wires as records. A
`Document` has the right shape by its type; that its parts fit together is a matter of references.
Fields of a record that the format does not know are dropped, except beside the data of a wire.
-/

namespace FlowCanvas

namespace Document

/-- The version that is written. -/
def currentVersion : String := "1.0"

/-- The ending of the files in which documents are kept. -/
def fileSuffix : String := ".flow.json"

/-- The record of a block. Old files state its type among the data. -/
structure BlockRecord where
  id : String
  type : Option String
  position : Point
  data : Fields Value
  parent : Option String

/-- The data of a wire; entries the format does not know are kept. -/
structure WireData where
  kind : Option ConnectionKind
  mapping : Option (Fields String)
  extras : Fields Value

/-- The record of a wire. Old files state its kind and mapping beside the data. -/
structure WireRecord where
  id : String
  source : String
  target : String
  kind : Option ConnectionKind
  mapping : Option (Fields String)
  data : Option WireData

/-- What a document says about itself. -/
structure Metadata where
  name : String
  created : String
  modified : String

end Document

/-- A document of the right shape. -/
structure Document where
  version : String
  metadata : Document.Metadata
  blocks : List Document.BlockRecord
  wires : List Document.WireRecord

namespace Document

open Shape

/-! ### Reading -/

/-- Checks the kind of a wire. -/
def kindOf : Value → Checked ConnectionKind
  | .text s =>
    match ConnectionKind.ofName? s with
    | some k => .ok k
    | none => Checked.flawed .notChoice
  | _ => Checked.flawed .notChoice

/-- Checks a point. -/
def pointOf (source : Source) (v : Value) : Checked Point := do
  let fs ← Checked.record source v
  (Checked.pair (Checked.required fs "x" (Checked.float source))
    (Checked.required fs "y" (Checked.float source))).map fun (x, y) ↦ .ofFloats x y

/-- Checks what a document says about itself. -/
def metadataOf (source : Source) (v : Value) : Checked Metadata := do
  let fs ← Checked.record source v
  (Checked.pair (Checked.required fs "name" Checked.text)
    (Checked.pair (Checked.required fs "created" Checked.text)
      (Checked.required fs "modified" Checked.text))).map
    fun (name, created, modified) ↦ ⟨name, created, modified⟩

/-- Checks the data of a block, which may be absent and then is empty. -/
def dataOf (source : Source) (fs : Fields Value) : Checked (Fields Value) :=
  match Fields.get? fs "data" with
  | none => .ok []
  | some v => Checked.within (.key "data") (Checked.fields source v)

/-- Checks the record of a block. -/
def blockOf (source : Source) (v : Value) : Checked BlockRecord := do
  let fs ← Checked.record source v
  (Checked.pair (Checked.required fs "id" Checked.text)
    (Checked.pair (Checked.optional fs "pluginId" Checked.text)
      (Checked.pair (Checked.required fs "position" (pointOf source))
        (Checked.pair (dataOf source fs) (Checked.optional fs "parentNode" Checked.text))))).map
    fun (id, type, position, data, parent) ↦ ⟨id, type, position, data, parent⟩

/-- The fields of a wire's data that the format knows. -/
def wireDataNames : List String := ["connectionType", "variableMapping"]

/-- Checks a mapping of variables. -/
def mappingOf (source : Source) (v : Value) : Checked (Fields String) :=
  Checked.mapping source Checked.text v

/-- Checks the data of a wire. -/
def wireDataOf (source : Source) (v : Value) : Checked WireData := do
  let fs ← Checked.record source v
  let others := fs.filter fun entry ↦ !wireDataNames.contains entry.1
  (Checked.pair (Checked.optional fs "connectionType" kindOf)
    (Checked.optional fs "variableMapping" (mappingOf source))).map
    fun (kind, mapping) ↦
      ⟨kind, mapping, if source.written then Value.settledFields others else others⟩

/-- Checks the record of a wire. -/
def wireOf (source : Source) (v : Value) : Checked WireRecord := do
  let fs ← Checked.record source v
  (Checked.pair (Checked.required fs "id" Checked.text)
    (Checked.pair (Checked.required fs "source" Checked.text)
      (Checked.pair (Checked.required fs "target" Checked.text)
        (Checked.pair (Checked.optional fs "connectionType" kindOf)
          (Checked.pair (Checked.optional fs "variableMapping" (mappingOf source))
            (Checked.optional fs "data" (wireDataOf source))))))).map
    fun (id, start, stop, kind, mapping, data) ↦ ⟨id, start, stop, kind, mapping, data⟩

/-- Checks the shape of a document. -/
def ofValue (source : Source) (v : Value) : Checked Document := do
  let fs ← Checked.record source v
  (Checked.pair (Checked.required fs "version" Checked.text)
    (Checked.pair (Checked.required fs "metadata" (metadataOf source))
      (Checked.pair (Checked.required fs "nodes" (Checked.list (blockOf source)))
        (Checked.required fs "edges" (Checked.list (wireOf source)))))).map
    fun (version, metadata, blocks, wires) ↦ ⟨version, metadata, blocks, wires⟩

/-- Checks the shape of a document that is a text in JSON. -/
def ofText (s : String) : Checked Document :=
  match Json.read .document s with
  | .error _ => Checked.flawed .notJson
  | .ok v => ofValue .text v

/-- Checks the shape of a document given as a value; a text is taken for JSON. -/
def ofInput : Value → Checked Document
  | .text s => ofText s
  | v => ofValue .value v

/-! ### Writing -/

/-- The field of a value that may be absent; absent, it is left out. -/
def fieldIf {α : Type} (key : String) (toValue : α → Value) : Option α → Fields Value
  | some a => [(key, toValue a)]
  | none => []

/-- A mapping as a value. -/
def mappingValue (mapping : Fields String) : Value := .object (Fields.mapValues .text mapping)

/-- A kind as a value. -/
def kindValue (kind : ConnectionKind) : Value := .text kind.name

/-- The record of a block as a value. -/
def BlockRecord.toValue (b : BlockRecord) : Value :=
  .object ([("id", .text b.id)] ++ fieldIf "pluginId" .text b.type ++
    [("position", b.position.toValue), ("data", (Value.object b.data).portable)] ++
    fieldIf "parentNode" .text b.parent)

/-- The data of a wire as a value; what is unstated is null. -/
def WireData.toValue (d : WireData) : Value :=
  .object ([("connectionType", (d.kind.map kindValue).getD .null),
    ("variableMapping", (d.mapping.map mappingValue).getD .null)] ++ Value.portableFields d.extras)

/-- The record of a wire as a value. -/
def WireRecord.toValue (w : WireRecord) : Value :=
  .object ([("id", .text w.id), ("source", .text w.source), ("target", .text w.target)] ++
    fieldIf "connectionType" kindValue w.kind ++
    fieldIf "variableMapping" mappingValue w.mapping ++
    fieldIf "data" WireData.toValue w.data)

/-- What a document says about itself, as a value. -/
def Metadata.toValue (m : Metadata) : Value :=
  .object [("name", .text m.name), ("created", .text m.created), ("modified", .text m.modified)]

/-- A document as a value. -/
def toValue (d : Document) : Value :=
  .object [("version", .text d.version), ("metadata", d.metadata.toValue),
    ("nodes", .list (d.blocks.map BlockRecord.toValue)),
    ("edges", .list (d.wires.map WireRecord.toValue))]

end Document

end FlowCanvas
