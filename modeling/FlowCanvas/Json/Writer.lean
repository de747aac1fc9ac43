import FlowCanvas.Number.Shortest
import FlowCanvas.Text.Hex
import FlowCanvas.Value.Basic

/-!
# Writing JSON

Two layouts: `compact` without any blank, for the wire, and `indented` by two blanks a level, for
files. Characters beyond ASCII stand as themselves, a float has its shortest text, and the floats
that JSON has no text for are written `NaN`, `Infinity` and `-Infinity`.
-/

namespace FlowCanvas.Json

/-- A character inside a JSON string. -/
def stringChar (c : Char) : List Char :=
  if c = '"' || c = '\\' then ['\\', c]
  else if c = '\n' then ['\\', 'n']
  else if c = '\r' then ['\\', 'r']
  else if c = '\t' then ['\\', 't']
  else if c.toNat = 8 then ['\\', 'b']
  else if c.toNat = 12 then ['\\', 'f']
  else if c.toNat < 32 then '\\' :: 'u' :: Text.hexDigits 4 c.toNat
  else [c]

/-- A JSON string. -/
def string (s : String) : String := String.ofList ('"' :: s.toList.flatMap stringChar ++ ['"'])

/-- The text of a float. -/
def float (x : Float) : String :=
  if x.isFinite then Number.floatText x
  else if x.isNaN then "NaN"
  else if x < 0 then "-Infinity"
  else "Infinity"

/-- The text of a value that holds no other; live values have no text and are written as null. -/
def scalar : Value → String
  | .bool b => if b then "true" else "false"
  | .int n => toString n
  | .float x => float x
  | .text s => string s
  | _ => "null"

mutual

/-- A value without any blank. -/
def compact : Value → String
  | .list items => "[" ++ compactItems items ++ "]"
  | .object fields => "\x7b" ++ compactFields fields ++ "\x7d"
  | v => scalar v

/-- Items separated by commas. -/
def compactItems : List Value → String
  | [] => ""
  | [v] => compact v
  | v :: rest => compact v ++ "," ++ compactItems rest

/-- Entries separated by commas. -/
def compactFields : List (String × Value) → String
  | [] => ""
  | [(k, v)] => string k ++ ":" ++ compact v
  | (k, v) :: rest => string k ++ ":" ++ compact v ++ "," ++ compactFields rest

end

/-- The line end before an item at a level. -/
def lineStart (level : Nat) : String := "\n" ++ String.ofList (List.replicate (2 * level) ' ')

mutual

/-- A value at a level of indentation. -/
def indentedAt (level : Nat) : Value → String
  | .list [] => "[]"
  | .object [] => "\x7b\x7d"
  | .list items =>
    "[" ++ lineStart (level + 1) ++ indentedItems (level + 1) items ++ lineStart level ++ "]"
  | .object fields =>
    "\x7b" ++ lineStart (level + 1) ++ indentedFields (level + 1) fields ++ lineStart level ++
      "\x7d"
  | v => scalar v

/-- Items on lines of their own. -/
def indentedItems (level : Nat) : List Value → String
  | [] => ""
  | [v] => indentedAt level v
  | v :: rest => indentedAt level v ++ "," ++ lineStart level ++ indentedItems level rest

/-- Entries on lines of their own. -/
def indentedFields (level : Nat) : List (String × Value) → String
  | [] => ""
  | [(k, v)] => string k ++ ": " ++ indentedAt level v
  | (k, v) :: rest =>
    string k ++ ": " ++ indentedAt level v ++ "," ++ lineStart level ++ indentedFields level rest

end

/-- A value on several lines, indented by two blanks a level. -/
def indented (v : Value) : String := indentedAt 0 v

end FlowCanvas.Json
