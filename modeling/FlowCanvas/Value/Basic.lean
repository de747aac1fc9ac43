import FlowCanvas.Value.Fields

/-!
# Values

What a property of a block can hold: the values of JSON, with integers and floats kept apart, and
the three kinds of live value that a program may put among them (an argument of a function, a point
of the canvas, a callback).
-/

namespace FlowCanvas

/-- A dynamic value. -/
inductive Value where
  | null
  | bool (b : Bool)
  | int (n : Int)
  | float (x : Float)
  | text (s : String)
  | list (items : List Value)
  | object (fields : List (String × Value))
  /-- An argument of a function: its name and its type. -/
  | argument (name type : String)
  /-- A point of the canvas, its coordinates kept as they were given. -/
  | point (x y : Value)
  /-- Something that can be called. -/
  | callback
deriving Inhabited

namespace Value

/-- A text that may be absent. -/
def ofText? : Option String → Value
  | some s => text s
  | none => null

/-- The text, if the value is one. -/
def text? : Value → Option String
  | text s => some s
  | _ => none

/-- The fields, if the value is an object. -/
def object? : Value → Option (Fields Value)
  | object fields => some fields
  | _ => none

/-- The entry of an object. -/
def field? (v : Value) (key : String) : Option Value := v.object?.bind fun fs ↦ Fields.get? fs key

/-- Whether the value is absent. -/
def isNull : Value → Bool
  | null => true
  | _ => false

/-- Whether a value counts as given: null, `false`, zero and everything empty do not. -/
def truthy : Value → Bool
  | null => false
  | bool b => b
  | int n => n != 0
  | float x => x != 0
  | text s => s != ""
  | list items => !items.isEmpty
  | object fields => !fields.isEmpty
  | argument _ _ | point _ _ | callback => true

/-- Whether a value can stand as a name or be looked up: all but lists and objects can. -/
def isName : Value → Bool
  | list _ | object _ => false
  | _ => true

mutual

/-- A value in whose objects no name is repeated: the last entry of a name counts, at the place of
the first. -/
def settled : Value → Value
  | list items => list (settledItems items)
  | object fields => object (settledFields fields)
  | v => v

/-- Items in whose objects no name is repeated. -/
def settledItems : List Value → List Value
  | [] => []
  | v :: rest => settled v :: settledItems rest

/-- Entries of which no two have one name, here or deeper. -/
def settledFields (fields : List (String × Value)) : Fields Value :=
  Fields.ofList (settledEntries fields)

/-- Entries in whose objects no name is repeated. -/
def settledEntries : List (String × Value) → List (String × Value)
  | [] => []
  | (k, v) :: rest => (k, settled v) :: settledEntries rest

end

/-- The name under which reports speak of a value's kind. -/
def kindName : Value → String
  | null => "NoneType"
  | bool _ => "bool"
  | int _ => "int"
  | float _ => "float"
  | text _ => "str"
  | list _ => "list"
  | object _ => "dict"
  | argument _ _ => "FunctionArgument"
  | point _ _ => "Position"
  | callback => "function"

end Value

end FlowCanvas
