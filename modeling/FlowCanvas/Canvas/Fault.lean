import FlowCanvas.Canvas.Connection
import FlowCanvas.Canvas.Point
import FlowCanvas.Palette.Kind
import FlowCanvas.Value.Display
import FlowCanvas.Value.Equal

/-!
# Faults

Why an operation on a canvas is refused. The causes fall into families; a caller that only wants to
know what sort of mistake was made asks for the family.
-/

namespace FlowCanvas

/-- Why an operation on a canvas is refused. -/
inductive Fault where
  | unknownType (type : String)
  | unknownBlock (id : String)
  | unknownWire (id : String)
  | unknownEndpoint (id : String)
  | parentCycle (id : String)
  | notCall (id : String)
  | unknownFunction (name : Value)
  | entryPointExists (id : String)
  | entryPointProtected (id : String)
  | reservedProperty (type key : String)
  | propertyMismatch (type key : String) (why : Kind.Mismatch)
  | unknownConnection (value : Value)
  | mappingNotObject
  /-- The size of a container is no pair of numbers. -/
  | badSize (id : String) (width height : Value)
  | containsItself (id : String)
  | notContainer (id : String)
  /-- The container is itself inside another. -/
  | nestedContainer (id : String)
  /-- The block to be nested is a container. -/
  | containerInside (id : String)
  | badPoint (why : Point.Fault)
  /-- A side of a container is an integer beyond the range of floats. -/
  | oversized (id : String)
  /-- The arguments of a function definition are nothing that has items. -/
  | argumentsNotListed (id : String)
  /-- A type declares a property under something that cannot be a name. -/
  | unusableName (type : String)
  /-- An id ends in a number that is too long to be read, or a number is too long for an id. -/
  | overlongId
  /-- A value is nested too deeply to be copied or to be shown. -/
  | tooDeep
  /-- An integer is too long to be shown. -/
  | overlongNumber
  /-- What is given as an id cannot be looked up. -/
  | unusableId
  /-- What should be a record is none. -/
  | notRecord
  /-- What should be a record cannot be read as one. -/
  | badRecord (why : RecordFault)
  /-- The names of changed properties have no common order. -/
  | unorderedNames
deriving DecidableEq

namespace Fault

/-- The sort of mistake behind a fault. -/
inductive Family where
  /-- A name that does not resolve. -/
  | reference
  /-- An attempt on the one entry point. -/
  | protection
  /-- A value that does not fit the property or the wire. -/
  | property
  /-- A parent that would break the nesting rules. -/
  | containment
  /-- A value of the wrong form altogether. -/
  | form
deriving DecidableEq, Repr

/-- The family of a fault. -/
def family : Fault → Family
  | unknownType _ | unknownBlock _ | unknownWire _ | unknownEndpoint _ | parentCycle _ | notCall _
  | unknownFunction _ => .reference
  | entryPointExists _ | entryPointProtected _ => .protection
  | reservedProperty _ _ | propertyMismatch _ _ _ | unknownConnection _ | mappingNotObject
  | badSize _ _ _ => .property
  | containsItself _ | notContainer _ | nestedContainer _ | containerInside _ => .containment
  | badPoint _ | oversized _ | argumentsNotListed _ | unusableName _ | overlongId | tooDeep
  | overlongNumber | unusableId | notRecord | badRecord _ | unorderedNames => .form

/-- The wording of a fault. -/
def message : Fault → String
  | unknownType type => s!"Unknown plugin '{type}'"
  | unknownBlock id => s!"Node with id '{id}' does not exist"
  | unknownWire id => s!"Edge with id '{id}' does not exist"
  | unknownEndpoint id => s!"Edge endpoint '{id}' does not exist"
  | parentCycle id => s!"Parent cycle through node '{id}'"
  | notCall id => s!"Node '{id}' is not a call-function block"
  | unknownFunction name => s!"No function named '{name.display}'"
  | entryPointExists id => s!"An entry point '{id}' already exists"
  | entryPointProtected id => s!"Node '{id}' is the program entry point and cannot be deleted"
  | reservedProperty type key => s!"{type}.{key}: reserved name"
  | propertyMismatch type key why => s!"{type}.{key}: {why.message}"
  | unknownConnection value => ConnectionKind.unknownMessage value.display
  | mappingNotObject => "variableMapping must be an object"
  | badSize id width height =>
    s!"Container '{id}' has an invalid size {width.inspect} x {height.inspect}"
  | containsItself id => s!"Node '{id}' cannot contain itself"
  | notContainer id => s!"Node '{id}' is not a container"
  | nestedContainer id => s!"Container '{id}' is itself nested"
  | containerInside id => s!"Container '{id}' cannot be nested"
  | badPoint _ => "not a position"
  | oversized id => s!"Container '{id}' is too large"
  | argumentsNotListed id => s!"Node '{id}' has no list of arguments"
  | unusableName type => s!"'{type}' declares a property without a name"
  | overlongId => "an id ends in a number that is too long"
  | tooDeep => "nested too deeply"
  | overlongNumber => "an integer is too long"
  | unusableId => "not an id"
  | notRecord | badRecord _ => "not a record"
  | unorderedNames => "names without an order"

end Fault

end FlowCanvas
