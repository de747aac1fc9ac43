import FlowCanvas.Number.Numeral

/-!
# Fresh ids

Blocks and wires are named `node_0`, `node_1`, … and `edge_0`, `edge_1`, …. An `IdSource` holds the
next number of each; when a drawing is loaded the numbers move past every number that its ids end
in, and they never move back. An id that ends in an overlong number cannot be moved past, and an
overlong number makes no id.
-/

namespace FlowCanvas

/-- The digits that an id ends in: those after its last underscore, if nothing but digits follows
it. One line feed may end the id. -/
def suffixDigits? (id : String) : Option (List Char) :=
  let back :=
    match id.toList.reverse with
    | '\n' :: cs => cs
    | cs => cs
  let digits := (back.takeWhile Text.isDecimal).reverse
  match digits, back.dropWhile Text.isDecimal with
  | _ :: _, '_' :: _ => some digits
  | _, _ => none

/-- The number that an id ends in. -/
def idSuffix? (id : String) : Option Nat := (suffixDigits? id).map Text.digitsValue

/-- Whether the number that an id ends in is too long to be read. -/
def isOverlongId (id : String) : Bool := (suffixDigits? id).any Number.isOverlong

/-- The numbers of the next block and the next wire. -/
structure IdSource where
  nextBlock : Int := 0
  nextWire : Int := 0
deriving DecidableEq, Repr

namespace IdSource

/-- The id of the next block. -/
def blockId (s : IdSource) : String := s!"node_{s.nextBlock}"

/-- The id of the next wire. -/
def wireId (s : IdSource) : String := s!"edge_{s.nextWire}"

/-- Whether the number of the next block is short enough for an id. -/
def namesBlock (s : IdSource) : Bool := Number.isWritable s.nextBlock

/-- Whether the number of the next wire is short enough for an id. -/
def namesWire (s : IdSource) : Bool := Number.isWritable s.nextWire

/-- The source after an id for a block was taken. -/
def afterBlock (s : IdSource) : IdSource := { s with nextBlock := s.nextBlock + 1 }

/-- The source after an id for a wire was taken. -/
def afterWire (s : IdSource) : IdSource := { s with nextWire := s.nextWire + 1 }

/-- The first number past those that ids end in, zero if none ends in a number. -/
def past (ids : List String) : Int :=
  ids.foldl (fun n id ↦
    match idSuffix? id with
    | some m => max n (m + 1)
    | none => n) 0

/-- The source moved past the numbers of given ids, none of which is overlong. -/
def reseed (s : IdSource) (blockIds wireIds : List String) : IdSource where
  nextBlock := max s.nextBlock (past blockIds)
  nextWire := max s.nextWire (past wireIds)

/-- The source moved past the numbers of given ids, if they can be read. -/
def reseed? (s : IdSource) (blockIds wireIds : List String) : Option IdSource :=
  if blockIds.any isOverlongId || wireIds.any isOverlongId then none
  else some (s.reseed blockIds wireIds)

end IdSource

end FlowCanvas
