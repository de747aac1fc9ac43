import FlowCanvas.Number.Shortest
import FlowCanvas.Text.Quoted
import FlowCanvas.Value.Basic

/-!
# Displayed values

How a value is shown in a report. `inspect` writes a value with its quotes; `display` is the same
except that a text stands for itself.
-/

namespace FlowCanvas.Value

mutual

/-- A value as reports show it, texts in quotes. -/
def inspect : Value → String
  | null => "None"
  | bool b => if b then "True" else "False"
  | int n => toString n
  | float x => Number.floatText x
  | text s => Text.quoted s
  | list items => "[" ++ inspectItems items ++ "]"
  | object fields => "\x7b" ++ inspectFields fields ++ "\x7d"
  | argument name type =>
    "FunctionArgument(name=" ++ Text.quoted name ++ ", type=" ++ Text.quoted type ++ ")"
  | point x y => "Position(x=" ++ inspect x ++ ", y=" ++ inspect y ++ ")"
  | callback => "<function>"

/-- The items of a list, separated by commas. -/
def inspectItems : List Value → String
  | [] => ""
  | [v] => inspect v
  | v :: rest => inspect v ++ ", " ++ inspectItems rest

/-- The entries of an object, separated by commas. -/
def inspectFields : List (String × Value) → String
  | [] => ""
  | [(k, v)] => Text.quoted k ++ ": " ++ inspect v
  | (k, v) :: rest => Text.quoted k ++ ": " ++ inspect v ++ ", " ++ inspectFields rest

end

/-- A value as reports show it, a text standing for itself. -/
def display : Value → String
  | text s => s
  | v => inspect v

end FlowCanvas.Value
