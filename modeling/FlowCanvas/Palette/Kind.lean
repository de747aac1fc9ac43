import FlowCanvas.Number.Binary
import FlowCanvas.Number.Numeral
import FlowCanvas.Value.Basic

/-!
# Kinds of property

A property of a block type has a kind, which says what values it admits and what form it keeps them
in. `Kind.coerce` brings a value to that form or says why it cannot: numeric text becomes a number,
an argument list becomes a list of objects with a name and a type.
-/

namespace FlowCanvas

/-- The kind of a property. -/
inductive Kind where
  | text
  | code
  | number
  | boolean
  | arguments
deriving DecidableEq, Repr

namespace Kind

/-- The name of a kind. -/
def name : Kind → String
  | text => "text"
  | code => "code"
  | number => "number"
  | boolean => "boolean"
  | arguments => "arguments"

/-- The kind of a name. -/
def ofName? : String → Option Kind
  | "text" => some text
  | "code" => some code
  | "number" => some number
  | "boolean" => some boolean
  | "arguments" => some arguments
  | _ => none

/-- Whether a value is a text. -/
def isText : Value → Bool
  | .text _ => true
  | _ => false

/-- Whether a value describes an argument of a function: a live argument, or an object whose name
and type are texts where present. -/
def isArgument : Value → Bool
  | .argument _ _ => true
  | .object fields =>
    isText ((Fields.get? fields "name").getD (.text "")) &&
      isText ((Fields.get? fields "type").getD (.text ""))
  | _ => false

/-- Whether a value is already of a kind. -/
def admits : Kind → Value → Bool
  | text, .text _ => true
  | code, .text _ => true
  | number, .int _ => true
  | number, .float _ => true
  | boolean, .bool _ => true
  | arguments, .list items => items.all isArgument
  | _, _ => false

/-- Why a value cannot be brought to a kind. -/
inductive Mismatch where
  /-- A text that spells no number. -/
  | notANumber (spelling : String)
  /-- A value of another kind. -/
  | unexpected (expected : Kind) (got : String)
deriving DecidableEq, Repr

/-- The wording of a mismatch. -/
def Mismatch.message : Mismatch → String
  | notANumber spelling => s!"'{spelling}' is not a number"
  | unexpected expected got => s!"expected a {expected.name} value, got {got}"

/-- The number that a text spells: an integer if it is whole and written without a point. -/
def readNumber (s : String) : Except Mismatch Value :=
  match Number.lenientFloat? s with
  | none => .error (.notANumber s)
  | some x =>
    match Number.wholeValue? x with
    | some n => if s.toList.contains '.' then .ok (.float x) else .ok (.int n)
    | none => .ok (.float x)

/-- The canonical form of an argument: an object with a name and a type. -/
def canonicalArgument : Value → Value
  | .argument name type => .object [("name", .text name), ("type", .text type)]
  | v =>
    .object [("name", (v.field? "name").getD (.text "")),
      ("type", (v.field? "type").getD (.text ""))]

/-- The form of an admitted value. -/
def canonical : Kind → Value → Value
  | arguments, .list items => .list (items.map canonicalArgument)
  | _, v => v

/-- Brings a value to a kind. -/
def coerce (kind : Kind) (v : Value) : Except Mismatch Value :=
  match kind, v with
  | number, .text s => readNumber s
  | _, _ =>
    if kind.admits v then .ok (kind.canonical v) else .error (.unexpected kind v.kindName)

end Kind

end FlowCanvas
