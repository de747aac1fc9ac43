import FlowCanvas.Palette.BlockType

/-!
# Palettes

A palette is the catalog of block types that a canvas draws from, in the order of their
registration. An id is registered once.
-/

namespace FlowCanvas

/-- A catalog of block types. -/
structure Palette where
  types : List BlockType := []
deriving DecidableEq

namespace Palette

/-- The palette without any type. -/
def empty : Palette := ⟨[]⟩

/-- The type of an id. -/
def get? (p : Palette) (id : String) : Option BlockType := p.types.find? fun t ↦ t.id == id

/-- Whether an id is registered. -/
def has (p : Palette) (id : String) : Bool := (p.get? id).isSome

/-- Whether blocks of a type contain other blocks. -/
def isContainer (p : Palette) (id : String) : Bool :=
  match p.get? id with
  | some t => t.container
  | none => false

/-- Whether a type is the entry point of programs. -/
def isEntryPoint (p : Palette) (id : String) : Bool :=
  match p.get? id with
  | some t => t.entryPoint
  | none => false

/-- The ids, in order of registration. -/
def ids (p : Palette) : List String := p.types.map BlockType.id

/-- Why a block type is not registered. -/
inductive Fault where
  /-- What should describe a type is no record. -/
  | notRecord
  | description (fault : DescriptionFault)
  | alreadyRegistered (id : String)
deriving DecidableEq

/-- The wording of a refused registration. -/
def Fault.message : Fault → String
  | notRecord => "a block type is described by a record"
  | description fault => fault.message
  | alreadyRegistered id => s!"Plugin '{id}' is already registered."

/-- Adds a block type at the end of the palette. -/
def add (p : Palette) (t : BlockType) : Except Fault Palette :=
  if p.has t.id then .error (.alreadyRegistered t.id) else .ok ⟨p.types ++ [t]⟩

/-- Adds the block type of a description. -/
def register (p : Palette) (description : Value) : Except Fault (BlockType × Palette) :=
  match description with
  | .object fields =>
    match BlockType.ofFields fields with
    | .error fault => .error (.description fault)
    | .ok t => (p.add t).map fun q ↦ (t, q)
  | _ => .error .notRecord

end Palette

end FlowCanvas
