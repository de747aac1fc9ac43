import FlowCanvas.Document.Convert
import FlowCanvas.Proofs.Graph

/-!
# Documents whose parts fit together

What it means that a document passes `checkReferences`, without the order in which the checks are
made and without the places that their faults name: `checkReferences_eq_ok_iff` says that the check
accepts **exactly** the documents that are `Linked`. The rules are those of a graph, told of
records.

Reading a document keeps the id, the type and the parent of each record, so what is read from a
document that is accepted with a palette is consistent and nested (`consistent_of_toDrawing`,
`nested_of_toDrawing`): opening a document cannot bring in what editing cannot.
-/

namespace FlowCanvas

namespace Document

open Checks

/-- The parent of a record is another record without a parent; with a palette, it is a container and
the record itself is none. -/
def Fits (palette : Option Palette) (d : Document) (b : BlockRecord) : Prop :=
  ∀ q, b.parent = some q → q ≠ b.id ∧ ∃ k, d.block? q = some k ∧ k.parent = none ∧
    ∀ p, palette = some p → p.isContainer k.typeId = true ∧ p.isContainer b.typeId = false

/-- **The parts of a document fit together.** -/
structure Linked (palette : Option Palette) (d : Document) : Prop where
  blockIds : (d.blocks.map BlockRecord.id).Nodup
  parents : ∀ b ∈ d.blocks, Fits palette d b
  wireIds : (d.wires.map WireRecord.id).Nodup
  ends : ∀ w ∈ d.wires,
    w.source ∈ d.blocks.map BlockRecord.id ∧ w.target ∈ d.blocks.map BlockRecord.id
  entryPoint : ∀ p, palette = some p → (d.blocks.countP fun b ↦ p.isEntryPoint b.typeId) ≤ 1

/-! ### The checks -/

theorem checkBlockIds_eq_ok_iff {seen : List String} {i : Nat} {blocks : List BlockRecord} :
    checkBlockIds seen i blocks = .ok () ↔
      (blocks.map BlockRecord.id).Nodup ∧ ∀ b ∈ blocks, b.id ∉ seen := by
  induction blocks generalizing seen i with
  | nil => simp [checkBlockIds]
  | cons b rest ih =>
    rw [checkBlockIds, guard_eq_ok_iff, ih, List.map_cons, List.nodup_cons]
    simp only [List.contains_iff_mem, List.mem_cons, not_or, List.mem_map, not_exists, not_and,
      forall_eq_or_imp]
    constructor
    · rintro ⟨hb, hrest, hseen⟩
      exact ⟨⟨fun r hr ↦ (hseen r hr).1, hrest⟩, hb, fun r hr ↦ (hseen r hr).2⟩
    · rintro ⟨⟨hb, hrest⟩, hnew, hseen⟩
      exact ⟨hnew, hrest, fun r hr ↦ ⟨hb r hr, hseen r hr⟩⟩

theorem checkParent_eq_ok_iff {palette : Option Palette} {d : Document} {i : Nat}
    {b : BlockRecord} : checkParent palette d i b = .ok () ↔ Fits palette d b := by
  unfold checkParent Fits
  rcases b.parent with - | q
  · simp
  · simp only [Option.some.injEq, forall_eq', guard_eq_ok_iff]
    refine and_congr_right fun _ ↦ ?_
    rcases d.block? q with - | k
    · simp
    · simp only [guard_eq_ok_iff, Option.some.injEq, exists_eq_left', Option.not_isSome_iff_eq_none]
      refine and_congr_right fun _ ↦ ?_
      cases palette with
      | none => simp
      | some p => simp [guard_eq_ok_iff]

theorem checkParents_eq_ok_iff {palette : Option Palette} {d : Document} {i : Nat}
    {blocks : List BlockRecord} :
    checkParents palette d i blocks = .ok () ↔ ∀ b ∈ blocks, Fits palette d b := by
  induction blocks generalizing i with
  | nil => simp [checkParents]
  | cons b rest ih =>
    rw [checkParents, List.forall_mem_cons, ← checkParent_eq_ok_iff (i := i), ← ih (i := i + 1)]
    rcases checkParent palette d i b with fault | -
    · simp
    · simp

theorem block?_isNone_iff {d : Document} {id : String} :
    (d.block? id).isNone = true ↔ id ∉ d.blocks.map BlockRecord.id := by
  rw [Option.isNone_iff_eq_none]
  exact Canvas.find?_key_eq_none_iff BlockRecord.id

theorem checkWires_eq_ok_iff {d : Document} {seen : List String} {i : Nat}
    {wires : List WireRecord} :
    checkWires d seen i wires = .ok () ↔
      (wires.map WireRecord.id).Nodup ∧ (∀ w ∈ wires, w.id ∉ seen) ∧ ∀ w ∈ wires,
        w.source ∈ d.blocks.map BlockRecord.id ∧ w.target ∈ d.blocks.map BlockRecord.id := by
  induction wires generalizing seen i with
  | nil => simp [checkWires]
  | cons w rest ih =>
    rw [checkWires, guard_eq_ok_iff, guard_eq_ok_iff, guard_eq_ok_iff, ih, block?_isNone_iff,
      block?_isNone_iff, not_not, not_not, List.map_cons, List.nodup_cons, List.forall_mem_cons,
      List.forall_mem_cons]
    simp only [List.contains_iff_mem, List.mem_cons, not_or, List.mem_map, not_exists, not_and]
    constructor
    · rintro ⟨hw, hsource, htarget, hrest, hseen, hends⟩
      exact ⟨⟨fun r hr ↦ (hseen r hr).1, hrest⟩, ⟨hw, fun r hr ↦ (hseen r hr).2⟩,
        ⟨hsource, htarget⟩, hends⟩
    · rintro ⟨⟨hw, hrest⟩, ⟨hnew, hseen⟩, ⟨hsource, htarget⟩, hends⟩
      exact ⟨hnew, hsource, htarget, hrest, fun r hr ↦ ⟨hw r hr, hseen r hr⟩, hends⟩

theorem checkEntryPoints_eq_ok_iff {palette : Option Palette} {d : Document} :
    checkEntryPoints palette d = .ok () ↔
      ∀ p, palette = some p → (d.blocks.countP fun b ↦ p.isEntryPoint b.typeId) ≤ 1 := by
  unfold checkEntryPoints
  cases palette with
  | none => simp
  | some p =>
    simp only [guard_eq_ok_iff, List.length_map, ← List.countP_eq_length_filter, and_true,
      Nat.not_lt, Option.some.injEq, forall_eq']

/-- **The check accepts exactly the documents whose parts fit together.** -/
theorem checkReferences_eq_ok_iff {palette : Option Palette} {d : Document} :
    d.checkReferences palette = .ok () ↔ d.Linked palette := by
  rw [checkReferences, andThen_eq_ok_iff, andThen_eq_ok_iff, andThen_eq_ok_iff,
    checkBlockIds_eq_ok_iff, checkParents_eq_ok_iff, checkWires_eq_ok_iff,
    checkEntryPoints_eq_ok_iff]
  constructor
  · rintro ⟨⟨hblocks, -⟩, hparents, ⟨hwires, -, hends⟩, hentry⟩
    exact ⟨hblocks, hparents, hwires, hends, hentry⟩
  · rintro ⟨hblocks, hparents, hwires, hends, hentry⟩
    exact ⟨⟨hblocks, by simp⟩, hparents, ⟨hwires, by simp, hends⟩, hentry⟩

/-! ### What is read from a document -/

theorem toBlocks_eq_ok_iff {palette : Option Palette} {records : List BlockRecord}
    {blocks : List Block} : toBlocks palette records = .ok blocks ↔
      List.Forall₂ (fun r b ↦ r.toBlock palette = .ok b) records blocks := by
  induction records generalizing blocks with
  | nil => cases blocks <;> simp [toBlocks]
  | cons r rest ih =>
    rw [toBlocks]
    cases blocks with
    | nil =>
      rcases r.toBlock palette with fault | b
      · simp
      · rcases toBlocks palette rest with fault | bs <;> simp
    | cons b' bs' =>
      rw [List.forall₂_cons, ← ih]
      rcases r.toBlock palette with fault | b
      · simp
      · rcases toBlocks palette rest with fault | bs <;> simp

/-- Records are read exactly if each of them is. -/
theorem toBlocks_isOk_iff {palette : Option Palette} {records : List BlockRecord} :
    (∃ blocks, toBlocks palette records = .ok blocks) ↔
      ∀ r ∈ records, ∃ b, r.toBlock palette = .ok b := by
  induction records with
  | nil => simp [toBlocks]
  | cons r rest ih =>
    rw [toBlocks, List.forall_mem_cons, ← ih]
    rcases r.toBlock palette with fault | b
    · simp
    · rcases toBlocks palette rest with fault | bs <;> simp

/-- What is wrong with some records is wrong with one of them. -/
theorem exists_of_toBlocks_error {palette : Option Palette} {records : List BlockRecord}
    {fault : DocumentFault} (h : toBlocks palette records = .error fault) :
    ∃ r ∈ records, r.toBlock palette = .error fault := by
  induction records with
  | nil => exact absurd h (by simp [toBlocks])
  | cons r rest ih =>
    rw [toBlocks] at h
    rcases hr : r.toBlock palette with own | b
    · obtain rfl : own = fault := by simpa [hr] using h
      exact ⟨r, List.mem_cons_self, hr⟩
    · rcases hrest : toBlocks palette rest with own | bs
      · obtain rfl : own = fault := by simpa [hr, hrest] using h
        obtain ⟨r', hr', hfault⟩ := ih hrest
        exact ⟨r', List.mem_cons_of_mem _ hr', hfault⟩
      · exact absurd h (by simp [hr, hrest])

/-- The properties that a type declares, as far as the palette knows it. -/
def specsOf (palette : Option Palette) (type : String) : List PropertySpec :=
  ((palette.bind fun p ↦ p.get? type).map BlockType.properties).getD []

/-- What is asked of the properties that a known type declares. -/
theorem forall_specsOf {p : Palette} {type : String} {P : PropertySpec → Prop} :
    (∀ spec ∈ specsOf (some p) type, P spec) ↔
      ∀ t, p.get? type = some t → ∀ spec ∈ t.properties, P spec := by
  rcases ht : p.get? type with - | t
  · simp [specsOf, ht]
  · simp [specsOf, ht]

/-- The label that is read from a record: a text or none. -/
def BlockRecord.labelRead (r : BlockRecord) : Value :=
  match Fields.get? r.data "label" with
  | some (.text s) => .text s
  | _ => .null

/-- **What a record is read as**: its data without the reserved names, brought to their declared
form. -/
theorem BlockRecord.toBlock_eq_ok_iff {palette : Option Palette} {r : BlockRecord} {b : Block} :
    r.toBlock palette = .ok b ↔
      ∃ properties, coerceDeclared r.id r.typeId (specsOf palette r.typeId)
          (r.data.filter fun e ↦ !Canvas.reservedNames.contains e.1) = .ok properties ∧
        b = {
          id := r.id
          type := r.typeId
          position := r.position
          parent := r.parent
          properties := properties
          label := r.labelRead } := by
  unfold toBlock
  dsimp only
  rw [← specsOf]
  rcases coerceDeclared r.id r.typeId (specsOf palette r.typeId)
    (r.data.filter fun e ↦ !Canvas.reservedNames.contains e.1) with fault | properties
  · simp
  · simp only [Except.ok.injEq, exists_eq_left']
    exact eq_comm

/-- Reading a record keeps its id, its type and its parent. -/
theorem BlockRecord.toBlock_keeps {palette : Option Palette} {r : BlockRecord} {b : Block}
    (h : r.toBlock palette = .ok b) : b.id = r.id ∧ b.type = r.typeId ∧ b.parent = r.parent := by
  obtain ⟨properties, -, rfl⟩ := toBlock_eq_ok_iff.1 h
  exact ⟨rfl, rfl, rfl⟩

/-- What a document that is accepted is read as. -/
theorem toDrawing_eq_ok {palette : Option Palette} {d : Document} {drawing : Drawing}
    (h : d.toDrawing palette = .ok drawing) :
    d.Linked palette ∧
      List.Forall₂ (fun r b ↦ r.toBlock palette = .ok b) d.blocks drawing.blocks ∧
      drawing.wires = d.wires.map WireRecord.toWire := by
  unfold toDrawing at h
  rcases hrefs : d.checkReferences palette with fault | done
  · simp [hrefs] at h
  · rw [hrefs] at h
    obtain ⟨blocks, hblocks, rfl⟩ := map_eq_ok_iff.1 h
    exact ⟨checkReferences_eq_ok_iff.1 hrefs, toBlocks_eq_ok_iff.1 hblocks, rfl⟩

/-- **A document whose parts fit together is read exactly if all its blocks are.** -/
theorem toDrawing_isOk_iff {palette : Option Palette} {d : Document} (h : d.Linked palette) :
    (∃ drawing, d.toDrawing palette = .ok drawing) ↔
      ∀ r ∈ d.blocks, ∃ b, r.toBlock palette = .ok b := by
  rw [← toBlocks_isOk_iff, toDrawing, checkReferences_eq_ok_iff.2 h]
  simp only [map_eq_ok_iff, exists_and_left, exists_comm, exists_eq', and_true]

/-- What is wrong with it is wrong with one of its blocks. -/
theorem exists_of_toDrawing_error {palette : Option Palette} {d : Document} (h : d.Linked palette)
    {fault : DocumentFault} (hfault : d.toDrawing palette = .error fault) :
    ∃ r ∈ d.blocks, r.toBlock palette = .error fault := by
  rw [toDrawing, checkReferences_eq_ok_iff.2 h] at hfault
  refine exists_of_toBlocks_error ?_
  rcases hblocks : toBlocks palette d.blocks with own | blocks
  · simpa [hblocks, Except.map] using hfault
  · exact absurd hfault (by simp [hblocks, Except.map])

variable {p : Palette} {d : Document} {drawing : Drawing}

/-- **What is read from a document is consistent.** -/
theorem consistent_of_toDrawing (h : d.toDrawing (some p) = .ok drawing) :
    Consistent p drawing.blocks drawing.wires := by
  obtain ⟨hlinked, hblocks, hwires⟩ := toDrawing_eq_ok h
  have hids : drawing.blocks.map Block.id = d.blocks.map BlockRecord.id := by
    refine Canvas.map_forall₂ ?_ hblocks
    exact fun r b hb ↦ (BlockRecord.toBlock_keeps hb).1
  have htypes : drawing.blocks.map Block.type = d.blocks.map BlockRecord.typeId := by
    refine Canvas.map_forall₂ ?_ hblocks
    exact fun r b hb ↦ (BlockRecord.toBlock_keeps hb).2.1
  have hwireIds : drawing.wires.map Wire.id = d.wires.map WireRecord.id := by
    rw [hwires, List.map_map]
    rfl
  refine ⟨hids ▸ hlinked.blockIds, hwireIds ▸ hlinked.wireIds, fun w hw ↦ ?_, ?_, fun w hw ↦ ?_⟩
  · rw [hwires] at hw
    obtain ⟨r, hr, rfl⟩ := List.mem_map.1 hw
    rw [hids]
    exact hlinked.ends r hr
  · -- Blocks and records have the same types, in the same order.
    calc
      drawing.blocks.countP (fun b ↦ p.isEntryPoint b.type)
        = (drawing.blocks.map Block.type).countP p.isEntryPoint := by
          rw [List.countP_map, Function.comp_def]
      _ = (d.blocks.map BlockRecord.typeId).countP p.isEntryPoint := by rw [htypes]
      _ = d.blocks.countP (fun r ↦ p.isEntryPoint r.typeId) := by
          rw [List.countP_map, Function.comp_def]
      _ ≤ 1 := hlinked.entryPoint p rfl
  · rw [hwires] at hw
    obtain ⟨r, hr, rfl⟩ := List.mem_map.1 hw
    intro hkind
    have hsimple : r.kindStated = .simple := by simpa [WireRecord.toWire] using hkind
    simp [WireRecord.toWire, hsimple]

/-- **What is read from a document is nested.** -/
theorem nested_of_toDrawing (h : d.toDrawing (some p) = .ok drawing) : Nested p drawing.blocks := by
  obtain ⟨hlinked, hblocks, -⟩ := toDrawing_eq_ok h
  refine ⟨fun b hb q hq ↦ ?_, fun b hb hcontainer ↦ ?_⟩
  · obtain ⟨r, hr, hrb⟩ := Canvas.exists_of_forall₂ hblocks hb
    obtain ⟨-, -, hparent⟩ := BlockRecord.toBlock_keeps hrb
    obtain ⟨-, k, hk, htop, hcontainer⟩ := hlinked.parents r hr q (by rw [← hparent, hq])
    have hkmem : k ∈ d.blocks := List.mem_of_find?_eq_some hk
    have hkid : k.id = q := by simpa using List.find?_some hk
    obtain ⟨b', hb', hkb'⟩ := Canvas.exists_of_forall₂ hblocks.flip hkmem
    obtain ⟨hid', htype', hparent'⟩ := BlockRecord.toBlock_keeps hkb'
    refine ⟨b', hb', hid'.trans hkid, ?_, hparent'.trans htop⟩
    rw [htype']
    exact (hcontainer p rfl).1
  · obtain ⟨r, hr, hrb⟩ := Canvas.exists_of_forall₂ hblocks hb
    obtain ⟨-, htype, hparent⟩ := BlockRecord.toBlock_keeps hrb
    rw [hparent]
    rcases hq : r.parent with - | q
    · rfl
    · obtain ⟨-, k, -, -, hplain⟩ := hlinked.parents r hr q hq
      rw [htype, (hplain p rfl).2] at hcontainer
      exact absurd hcontainer (by simp)

end Document

end FlowCanvas
