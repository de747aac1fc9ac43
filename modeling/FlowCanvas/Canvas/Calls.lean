import FlowCanvas.Canvas.Edit
import FlowCanvas.Canvas.Variables
import FlowCanvas.Palette.Bundled

/-!
# Calls

Wiring calls to functions: which blocks define functions, how a call takes over the arguments of the
function it calls, and what can be passed along a wire.
-/

namespace FlowCanvas

/-- The variables that the code of a block binds. -/
def Block.boundVariables (b : Block) : List String :=
  match Fields.get? b.properties "code" with
  | some (.text code) => Variables.boundIn code
  | _ => []

/-- What can be passed along a wire: the arguments that the target takes, and the variables that the
source binds. -/
structure Candidates where
  arguments : List Value
  bindings : List String
  targetIsCall : Bool

/-- The mark that stands for an argument being typed in. -/
def Candidates.literal : String := "__custom__"

/-- The record of the candidates. -/
def Candidates.toValue (k : Candidates) : Value :=
  .object [("arguments", .list k.arguments), ("variables", .list (k.bindings.map .text)),
    ("literal", .text literal), ("targetIsCall", .bool k.targetIsCall)]

namespace Canvas

/-- The blocks that define a function. -/
def functionDefinitions (c : Canvas) : List Block :=
  c.blocks.filter fun b ↦ b.type == Palette.functionDefinitionId

/-- The first block that defines a function of a name. -/
def definitionOf? (c : Canvas) (name : Value) : Option Block :=
  c.functionDefinitions.find? fun b ↦
    Value.same ((Fields.get? b.properties "function_name").getD .null) name

/-- Points a call at a function and copies the function's arguments onto it. -/
def bindCall (p : Palette) (id : String) (name : Value) (c : Canvas) : Outcome Unit :=
  .given c (c.block id) fun b ↦
    if b.type != Palette.callFunctionId then .fail c (.notCall id)
    else
      match c.definitionOf? name with
      | none => .fail c (.unknownFunction name)
      | some d =>
        match ((Fields.get? d.properties "arguments").getD (.list [])).items? with
        | none => .fail c (.argumentsNotListed d.id)
        | some arguments =>
          c.updateBlock p id [("target_function", name), ("arguments", .list arguments)]

/-- What can be passed along a wire. -/
def candidates (c : Canvas) (id : String) : Except Fault Candidates :=
  (c.wire id).map fun w ↦
    let target := c.block? w.target
    let arguments : List Value :=
      match target.bind fun b ↦ Fields.get? b.properties "arguments" with
      | some (.list items) => items
      | _ => []
    { arguments := arguments
      bindings := ((c.block? w.source).map Block.boundVariables).getD []
      targetIsCall := target.any fun b ↦ b.type == Palette.callFunctionId }

end Canvas

/-! ### Operations as data -/

/-- An operation on a canvas. -/
inductive Edit where
  | create (block : NewBlock)
  | drop (block : NewBlock)
  | delete (id : String)
  | update (id : String) (patch : Fields Value)
  | move (id : String) (position : Value)
  | reparent (id : String) (parent : Option String) (position : Value)
  | resolve (id : String)
  | connect (source target : String) (data : Fields Value)
  | disconnect (id : String)
  | rewire (id : String) (patch : Fields Value)
  | select (selection : Selection)
  | bindCall (id : String) (name : Value)
  | load (drawing : Drawing)

/-- What an operation answers. -/
inductive Reply where
  | done
  | id (id : String)
  | changed (flag : Bool)
deriving DecidableEq, Repr

/-- Carries out an operation. -/
def Canvas.apply (p : Palette) (c : Canvas) : Edit → Outcome Reply
  | .create block => (c.createBlock p block).map .id
  | .drop block => (c.dropBlock p block).map .id
  | .delete id => (c.deleteBlock p id).map fun _ ↦ .done
  | .update id patch => (c.updateBlock p id patch).map fun _ ↦ .done
  | .move id position => (c.moveBlock p id position).map .changed
  | .reparent id parent position => (c.reparent p id parent position).map fun _ ↦ .done
  | .resolve id => (c.resolve p id).map .changed
  | .connect source target data => (c.createWire source target data).map .id
  | .disconnect id => (c.deleteWire id).map fun _ ↦ .done
  | .rewire id patch => (c.updateWire id patch).map fun _ ↦ .done
  | .select selection => (c.select selection).map fun _ ↦ .done
  | .bindCall id name => (c.bindCall p id name).map fun _ ↦ .done
  | .load drawing => (c.load drawing).map fun _ ↦ .done

end FlowCanvas
