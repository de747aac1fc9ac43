import FlowCanvas.Canvas.Edit

/-!
# Entries under any names

A caller may hand over the properties of a block as pairs, and some of their names may be numbers,
truth values or null. Such entries are checked and written one by one, in their order, as the
properties of a record are. Only the report of an update asks more of the names: it puts them in
order, and texts and numbers have no common order.
-/

namespace FlowCanvas

namespace Value

/-- Whether a value is a number, truth values included. -/
def isNumeric : Value → Bool
  | bool _ | int _ | float _ => true
  | _ => false

/-- Names in order: texts among themselves, numbers among themselves. -/
def inOrder? (names : List Value) : Option (List Value) :=
  if names.length ≤ 1 || names.all (fun v ↦ v.text?.isSome) ||
      names.all isNumeric then
    some (names.mergeSort fun v w ↦ (atMost v w).toOption.getD true)
  else none

end Value

/-- The record of entries whose names are all texts. -/
def textFields? : List (Value × Value) → Option (Fields Value)
  | [] => some []
  | (.text key, v) :: rest => (textFields? rest).map ((key, v) :: ·)
  | _ :: _ => none

/-- The entry under the name `label`, and the others. -/
def takeLabel (entries : List (Value × Value)) : Option Value × List (Value × Value) :=
  let isLabel (e : Value × Value) : Bool := e.1.text? == some "label"
  ((entries.find? isLabel).map Prod.snd, entries.filter fun e ↦ !isLabel e)

/-- Writes a property of a block under any name. -/
def Block.write (b : Block) (entry : Value × Value) : Block :=
  match entry with
  | (.text key, value) => { b with properties := Fields.set b.properties key value }
  | (name, value) => { b with strays := Stray.write b.entries.length name value b.strays }

namespace Canvas

/-- Brings one entry to the form that a type declares for it. -/
def checkedEntry (p : Palette) (type : String) (entry : Value × Value) :
    Except Fault (Value × Value) :=
  match entry with
  | (.text key, value) => (validatedEntry p type (key, value)).map fun e ↦ (.text e.1, e.2)
  | (name, value) =>
    match (p.get? type).bind fun t ↦ t.propertyNamed? name with
    | none => if value.isCopyable then .ok entry else .error .tooDeep
    | some spec =>
      match spec.kind.coerce value with
      | .ok v => .ok (name, v)
      | .error why => .error (.propertyMismatch type name.display why)

/-- Brings entries to their declared form; the first that does not fit is the fault. -/
def checkedEntries (p : Palette) (type : String) (entries : List (Value × Value)) :
    Except Fault (List (Value × Value)) :=
  entries.mapM (checkedEntry p type)

/-- Writes checked entries of a block. -/
def writeEntries (id : String) (entries : List (Value × Value)) (c : Canvas) : Canvas :=
  c.modifyBlock id fun b ↦ entries.foldl Block.write b

/-- Writes entries of a block; names without a common order are noticed only when the change is to
be reported. -/
def updateEntries (p : Palette) (id : String) (entries : List (Value × Value)) (c : Canvas) :
    Outcome Unit :=
  .given c (c.block id) fun b ↦
    let (label, others) := takeLabel entries
    .given c (checkedEntries p b.type others) fun others ↦
      let after := (c.writeEntries id others).modifyBlock id fun b ↦
        { b with label := label.getD b.label }
      match Value.inOrder? (others.map Prod.fst) with
      | none => .fail after .unorderedNames
      | some names => ⟨.ok (), after, [.blockUpdated id names]⟩

end Canvas

end FlowCanvas
