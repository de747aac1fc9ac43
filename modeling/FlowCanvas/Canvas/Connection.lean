import FlowCanvas.Value.Basic

/-!
# Kinds of connection

A wire either orders two blocks or passes variables to a call.
-/

namespace FlowCanvas

/-- The kind of a wire. -/
inductive ConnectionKind where
  | simple
  | functionCall
deriving DecidableEq, Repr

namespace ConnectionKind

/-- The name of a kind. -/
def name : ConnectionKind → String
  | simple => "simple"
  | functionCall => "function_call"

/-- The kind of a name. -/
def ofName? : String → Option ConnectionKind
  | "simple" => some simple
  | "function_call" => some functionCall
  | _ => none

/-- The kind that a value names; a wire of no stated kind is simple. -/
def ofValue? : Value → Option ConnectionKind
  | .null => some simple
  | .text s => ofName? s
  | _ => none

/-- The wording of the complaint about a value that names no kind; it is given as displayed. -/
def unknownMessage (shown : String) : String := s!"Unknown connection type '{shown}'"

end ConnectionKind

end FlowCanvas
