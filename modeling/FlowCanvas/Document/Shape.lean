import FlowCanvas.Number.Numeral
import FlowCanvas.Number.Binary
import FlowCanvas.Value.Basic

/-!
# Shapes

Checking that a value has a given shape. A check goes through the whole value and gathers everything
that is wrong with it, in the order of the fields asked for; each complaint carries the path to the
place it is about.

What is read from a text may repeat a name in an object. The last entry counts, at the place of the
first; only a mapping has all its entries checked.
-/

namespace FlowCanvas

namespace Shape

/-- A step of a path into a value. -/
inductive Step where
  | key (name : String)
  | index (i : Int)
deriving DecidableEq, Repr

/-- What is wrong with a place. -/
inductive Flaw where
  | missing
  | notRecord
  | notAttributes
  | notList
  | notMap
  | notText
  | notChoice
  | notFloat
  | unreadableFloat
  | notJson
deriving DecidableEq, Repr

/-- The code under which a flaw is reported. -/
def Flaw.code : Flaw → String
  | missing => "missing"
  | notRecord => "model_type"
  | notAttributes => "model_attributes_type"
  | notList => "list_type"
  | notMap => "dict_type"
  | notText => "string_type"
  | notChoice => "literal_error"
  | notFloat => "float_type"
  | unreadableFloat => "float_parsing"
  | notJson => "json_invalid"

/-- A flaw and the path to it. -/
structure Complaint where
  path : List Step
  flaw : Flaw
deriving DecidableEq, Repr

/-- Where a value comes from, which decides details of its check. -/
structure Source where
  /-- The flaw of something that should be a record. -/
  recordFlaw : Flaw
  /-- Whether it is read from a text as it stands, so that objects may repeat a name, and an integer
  beyond the range of floats counts as infinite. -/
  written : Bool

/-- A value of the program. -/
def Source.value : Source := ⟨.notRecord, false⟩

/-- A text in JSON. -/
def Source.text : Source := ⟨.notRecord, true⟩

/-- The body of a request. -/
def Source.request : Source := ⟨.notAttributes, false⟩

end Shape

/-- A value of the asked shape, or all complaints about it. -/
abbrev Checked (α : Type) := Except (List Shape.Complaint) α

namespace Checked

open Shape

variable {α β : Type}

/-- A complaint about the whole value. -/
def flawed (flaw : Flaw) : Checked α := .error [⟨[], flaw⟩]

/-- The check of a part, its complaints led by the step to the part. -/
def within (step : Step) : Checked α → Checked α
  | .ok a => .ok a
  | .error complaints => .error (complaints.map fun k ↦ { k with path := step :: k.path })

/-- Two checks; the complaints of both count. -/
def pair : Checked α → Checked β → Checked (α × β)
  | .ok a, .ok b => .ok (a, b)
  | .ok _, .error second => .error second
  | .error first, .ok _ => .error first
  | .error first, .error second => .error (first ++ second)

/-- A field that must be there. -/
def required (fields : Fields Value) (key : String) (check : Value → Checked α) : Checked α :=
  within (.key key)
    (match Fields.get? fields key with
      | some v => check v
      | none => flawed .missing)

/-- A field that may be absent or null. -/
def optional (fields : Fields Value) (key : String) (check : Value → Checked α) :
    Checked (Option α) :=
  match Fields.get? fields key with
  | none | some .null => .ok none
  | some v => within (.key key) ((check v).map some)

/-- A text. -/
def text : Value → Checked String
  | .text s => .ok s
  | _ => flawed .notText

/-- A number, or a text that spells one. -/
def float (source : Source) : Value → Checked Float
  | .bool b => .ok (if b then 1 else 0)
  | .int n =>
    match Number.floatOfInt? n with
    | some x => .ok x
    | none => if source.written then .ok (if n < 0 then -1 / 0 else 1 / 0) else flawed .notFloat
  | .float x => .ok x
  | .text s =>
    match Number.fieldFloat? s with
    | some x => .ok x
    | none => flawed .unreadableFloat
  | _ => flawed .notFloat

/-- An object with any fields. -/
def fields (source : Source) : Value → Checked (Fields Value)
  | .object fs => .ok (if source.written then Value.settledFields fs else fs)
  | _ => flawed .notMap

/-- A record, whose fields are to be checked. -/
def record (source : Source) : Value → Checked (Fields Value)
  | .object fs => .ok (if source.written then Fields.ofList fs else fs)
  | _ => flawed source.recordFlaw

/-- Every item of a list, counted from `i`. -/
def items (check : Value → Checked α) : (i : Nat) → List Value → Checked (List α)
  | _, [] => .ok []
  | i, v :: rest =>
    (pair (within (.index i) (check v)) (items check (i + 1) rest)).map fun (a, as) ↦ a :: as

/-- A list. -/
def list (check : Value → Checked α) : Value → Checked (List α)
  | .list vs => items check 0 vs
  | _ => flawed .notList

/-- Every entry of an object. -/
def entries (check : Value → Checked α) : List (String × Value) → Checked (Fields α)
  | [] => .ok []
  | (k, v) :: rest =>
    (pair (within (.key k) (check v)) (entries check rest)).map fun (a, as) ↦ (k, a) :: as

/-- An object whose values have one shape. -/
def mapping (source : Source) (check : Value → Checked α) : Value → Checked (Fields α)
  | .object fs => (entries check fs).map fun fs ↦ if source.written then Fields.ofList fs else fs
  | _ => flawed .notMap

end Checked

end FlowCanvas
