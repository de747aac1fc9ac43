import FlowCanvas.Palette.Kind
import FlowCanvas.Value.Coerce
import FlowCanvas.Value.Stray

/-!
# Block types

A block type declares what blocks of it are: its name, how it is shown in the palette, its
properties, whether its blocks are containers, and whether it is the entry point of a program. Types
are described by records (`BlockType.ofFields`); what a record says about appearance is kept as
given, and so are the names of the properties, which need not be texts.
-/

namespace FlowCanvas

/-- A declared property of a block type. -/
structure PropertySpec where
  name : Value
  kind : Kind
  label : Value := .text ""
  default : Value := .null
  required : Bool := false
  multiline : Bool := false
deriving DecidableEq

/-- A type of block. -/
structure BlockType where
  id : String
  name : Value
  category : Value := .text ""
  icon : Value := .text ""
  description : Value := .text ""
  properties : List PropertySpec := []
  container : Bool := false
  entryPoint : Bool := false
  template : Value := .null
deriving DecidableEq

/-- Why a description is not a block type. -/
inductive DescriptionFault where
  /-- A field that must be a text is not. -/
  | missingField (key : String)
  /-- The kind of a property is none of the known kinds. -/
  | unknownKind (name kind : Value)
  /-- A property lacks a field. -/
  | missingPropertyField (key : String)
  /-- The properties are no list of records. -/
  | malformedProperties
deriving DecidableEq

/-- The wording of a fault in a description. -/
def DescriptionFault.message : DescriptionFault → String
  | missingField key => s!"plugin schema: missing required field '{key}'"
  | unknownKind name kind => s!"property '{name.display}': unknown type '{kind.display}'"
  | missingPropertyField key => s!"property without a field '{key}'"
  | malformedProperties => "properties are not a list of records"

namespace PropertySpec

/-- Whether the property is declared under a name. -/
def isNamed (p : PropertySpec) (name : String) : Bool :=
  match p.name with
  | .text s => s == name
  | _ => false

/-- Reads the description of a property. -/
def ofValue (v : Value) : Except DescriptionFault PropertySpec :=
  match v with
  | .object fields =>
    match Fields.get? fields "type" with
    | none => .error (.missingPropertyField "type")
    | some type =>
      match type.text?.bind Kind.ofName? with
      | none => .error (.unknownKind ((Fields.get? fields "name").getD .null) type)
      | some kind =>
        match Fields.get? fields "name" with
        | none => .error (.missingPropertyField "name")
        | some name =>
          .ok {
            name := name
            kind := kind
            label := (Fields.get? fields "label").getD name
            default := (Fields.get? fields "default").getD .null
            required := ((Fields.get? fields "required").getD (.bool false)).truthy
            multiline := ((Fields.get? fields "multiline").getD (.bool false)).truthy }
  | _ => .error .malformedProperties

/-- The description of a property. -/
def toValue (p : PropertySpec) : Value :=
  .object ([("name", p.name), ("type", .text p.kind.name), ("label", p.label),
    ("default", p.default), ("required", .bool p.required)] ++
    if p.multiline then [("multiline", .bool true)] else [])

end PropertySpec

namespace BlockType

/-- Reads the description of a block type. -/
def ofFields (fields : Fields Value) : Except DescriptionFault BlockType := do
  let text (key : String) : Except DescriptionFault String :=
    match Fields.get? fields key with
    | some (.text s) => .ok s
    | _ => .error (.missingField key)
  let given (key : String) (default : Value) : Value := (Fields.get? fields key).getD default
  let id ← text "id"
  let name ← text "name"
  let entries ←
    match (given "properties" (.list [])).items? with
    | some items => .ok items
    | none => .error .malformedProperties
  let properties ← entries.mapM PropertySpec.ofValue
  return {
    id := id
    name := .text name
    category := given "category" (.text "")
    icon := given "icon" (.text "")
    description := given "description" (.text "")
    properties := properties
    container := (given "container" (.bool false)).truthy
    entryPoint := (given "entry_point" (.bool false)).truthy
    template := given "template" .null }

/-- The description of a block type. -/
def toValue (t : BlockType) : Value :=
  .object [("id", .text t.id), ("name", t.name), ("category", t.category), ("icon", t.icon),
    ("description", t.description), ("properties", .list (t.properties.map PropertySpec.toValue)),
    ("container", .bool t.container), ("entry_point", .bool t.entryPoint),
    ("template", t.template)]

/-- The first property declared under a name. -/
def property? (t : BlockType) (name : String) : Option PropertySpec :=
  t.properties.find? fun p ↦ p.isNamed name

/-- The first property declared under a name that may be any value. -/
def propertyNamed? (t : BlockType) (name : Value) : Option PropertySpec :=
  t.properties.find? fun p ↦ Value.same p.name name

/-- Whether every declared name can stand as one. -/
def isNamed (t : BlockType) : Bool := t.properties.all fun p ↦ p.name.isName

/-- What is declared of each property, by name; a list or an object cannot stand as a name. -/
def declared? {α : Type} (f : PropertySpec → α) (t : BlockType) : Option (List (Value × α)) :=
  if t.isNamed then some (Stray.distinct (t.properties.map fun p ↦ (p.name, f p))) else none

/-- Why the defaults of a type cannot be given out. -/
inductive DefaultsFault where
  /-- A default is nested too deeply to be copied. -/
  | tooDeep
  /-- A property is declared under something that cannot be a name. -/
  | unusableName
deriving DecidableEq, Repr

/-- What keeps the defaults of a type from being given out; the first property that does counts. -/
def defaultsFault? (t : BlockType) : Option DefaultsFault :=
  t.properties.findSome? fun p ↦
    if !p.default.isCopyable then some .tooDeep
    else if !p.name.isName then some .unusableName
    else none

/-- The default values of the properties whose names are texts. -/
def defaults (t : BlockType) : Fields Value :=
  Fields.ofList (t.properties.filterMap fun p ↦ p.name.text?.map fun name ↦ (name, p.default))

/-- The default values of the properties whose names are no texts. -/
def strayDefaults (t : BlockType) : List Stray :=
  Stray.ofEntries 0 ((t.declared? PropertySpec.default).getD [])

end BlockType

end FlowCanvas
