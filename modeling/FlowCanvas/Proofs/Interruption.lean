import FlowCanvas.Palette.Bundled
import FlowCanvas.Proofs.Freshness
import FlowCanvas.Proofs.Outline

/-!
# Documents that interrupt their load

A load lays a drawing and then moves the counters past its ids. An id with an overlong number stops
it between the two: the drawing is there, and every number is still to be given out. What can go
wrong on a canvas that has its ids twice begins with such a load.

Any graph that follows the rules can be brought onto the canvas in this way, by a document that adds
a block with an overlong id to it (`Document.interrupting`). `Canvas.run_interrupting` says what the
canvas is then, and `Drawing.nested_interrupting` that the rules are still followed.
-/

namespace FlowCanvas

/-- A drawing of some blocks and wires, and of one more block whose id is overlong. -/
def Drawing.interrupting (blocks : List Block) (wires : List Wire) : Drawing where
  blocks := blocks ++ [{ id := overlongId, type := "debug" }]
  wires := wires
  name := some "flow"
  created := some "then"

/-- The document of that drawing, where blocks hold nothing and nothing is said of wires. -/
def Document.interrupting (blocks : List Block) (wires : List Wire) : Document where
  version := currentVersion
  metadata := ⟨"flow", "then", "now"⟩
  blocks := (Drawing.interrupting blocks wires).blocks.map fun b ↦
    ⟨b.id, some b.type, b.position, [], b.parent⟩
  wires := wires.map fun w ↦ ⟨w.id, w.source, w.target, none, none, none⟩

/-- A block that has a type and holds nothing. -/
def Block.IsBare (b : Block) : Prop :=
  b.type ≠ "" ∧ b.properties = [] ∧ b.label = .null ∧ b.strays = []

instance (b : Block) : Decidable b.IsBare := inferInstanceAs (Decidable (_ ∧ _))

/-- A wire of which nothing is said. -/
def Wire.IsBare (w : Wire) : Prop := w.kind = some .simple ∧ w.mapping = []

instance (w : Wire) : Decidable w.IsBare := inferInstanceAs (Decidable (_ ∧ _))

section

variable {blocks : List Block} {wires : List Wire}

/-! ### The rules -/

/-- An id whose number can be read is not the overlong one. -/
theorem ne_overlongId {id : String} (h : isOverlongId id = false) : id ≠ overlongId := by
  rintro rfl
  exact absurd isOverlongId_overlongId (by simp [h])

/-- The added block is out of the way of the others. -/
theorem Drawing.consistent_interrupting (h : Consistent .bundled blocks wires)
    (hshort : ∀ b ∈ blocks, isOverlongId b.id = false) :
    Consistent .bundled (Drawing.interrupting blocks wires).blocks wires where
  blockIds := by
    show ((blocks ++ [_]).map Block.id).Nodup
    rw [List.map_append]
    refine h.blockIds.append (List.nodup_singleton _) fun id hid hlong ↦ ?_
    obtain ⟨b, hb, rfl⟩ := List.mem_map.1 hid
    exact ne_overlongId (hshort b hb) (List.mem_singleton.1 hlong)
  wireIds := h.wireIds
  ends := by
    intro w hw
    show w.source ∈ (blocks ++ [_]).map Block.id ∧ w.target ∈ (blocks ++ [_]).map Block.id
    rw [List.map_append]
    exact ⟨List.mem_append_left _ (h.ends w hw).1, List.mem_append_left _ (h.ends w hw).2⟩
  entryPoint := by
    show (blocks ++ [_]).countP (fun b : Block ↦ Palette.bundled.isEntryPoint b.type) ≤ 1
    rw [List.countP_append]
    exact h.entryPoint
  simple := h.simple

/-- The added block has no parent and is no container. -/
theorem Drawing.nested_interrupting (h : Nested .bundled blocks) (wires : List Wire) :
    Nested .bundled (Drawing.interrupting blocks wires).blocks where
  parents := by
    intro b hb q hq
    rcases List.mem_append.1 hb with hb | hb
    · obtain ⟨k, hk, hrules⟩ := h.parents b hb q hq
      exact ⟨k, List.mem_append_left _ hk, hrules⟩
    · rw [List.mem_singleton.1 hb] at hq
      exact absurd hq (by simp)
  containers := by
    intro b hb hcontainer
    rcases List.mem_append.1 hb with hb | hb
    · exact h.containers b hb hcontainer
    · rw [List.mem_singleton.1 hb]

/-! ### Reading the document -/

/-- Where no property is given, no declaration says anything. -/
theorem Document.coerceDeclared_nil {id type : String} {specs : List PropertySpec}
    (h : ∀ spec ∈ specs, spec.name.isName = true) : coerceDeclared id type specs [] = .ok [] := by
  induction specs with
  | nil => rfl
  | cons spec rest ih =>
    obtain ⟨hname, hrest⟩ := List.forall_mem_cons.1 h
    have habsent : (spec.name.text?.bind fun key ↦
        (Fields.get? ([] : Fields Value) key).map fun v ↦ (key, v)) = none := by
      cases spec.name.text? <;> rfl
    rw [coerceDeclared, hname, habsent]
    exact ih hrest

/-- A block that holds nothing is read as it is. -/
theorem Document.toBlock_bare {b : Block} (h : b.IsBare) :
    (⟨b.id, some b.type, b.position, [], b.parent⟩ : BlockRecord).toBlock (some .bundled) =
      .ok b := by
  obtain ⟨htype, hproperties, hlabel, hstrays⟩ := h
  have hnames : ∀ t ∈ Palette.bundled.types, ∀ spec ∈ t.properties, spec.name.isName = true := by
    decide
  refine BlockRecord.toBlock_eq_ok_iff.2 ⟨[], ?_, ?_⟩
  · rw [BlockRecord.typeId_of_type rfl htype]
    refine coerceDeclared_nil (forall_specsOf.2 fun t ht ↦ ?_)
    exact hnames t (List.mem_of_find?_eq_some ht)
  · rw [BlockRecord.typeId_of_type rfl htype]
    obtain ⟨id, type, position, parent, properties, label, strays⟩ := b
    obtain rfl : properties = [] := hproperties
    obtain rfl : label = .null := hlabel
    obtain rfl : strays = [] := hstrays
    rfl

/-- **The document is read as the drawing.** -/
theorem Document.toDrawing_interrupting (hblocks : ∀ b ∈ blocks, b.IsBare)
    (hwires : ∀ w ∈ wires, w.IsBare) (hconsistent : Consistent .bundled blocks wires)
    (hnested : Nested .bundled blocks) (hshort : ∀ b ∈ blocks, isOverlongId b.id = false) :
    (Document.interrupting blocks wires).toDrawing (some .bundled) =
      .ok (.interrupting blocks wires) := by
  have hbare : ∀ b ∈ (Drawing.interrupting blocks wires).blocks, b.IsBare := by
    rw [Drawing.interrupting, List.forall_mem_append, List.forall_mem_singleton]
    exact ⟨hblocks, by decide⟩
  have hoverall := Drawing.consistent_interrupting hconsistent hshort
  have hspots : ∀ b ∈ (Drawing.interrupting blocks wires).blocks,
      (⟨b.id, some b.type, b.position, [], b.parent⟩ : BlockRecord).spot = b.spot := by
    intro b hb
    rw [BlockRecord.spot, BlockRecord.typeId_of_type rfl (hbare b hb).1]
    rfl
  have houtline : (Document.interrupting blocks wires).outline =
      (Drawing.interrupting blocks wires).outline := by
    rw [outline, interrupting, List.map_map, List.map_map, Drawing.outline]
    exact congrArg (Outline.mk · _) (List.map_congr_left hspots)
  have hlinked : (Document.interrupting blocks wires).Linked (some .bundled) := by
    rw [linked_iff, houtline, interrupting, List.map_map]
    exact ⟨Drawing.obeys_of_nested hoverall (Drawing.nested_interrupting hnested wires),
      hoverall.wireIds⟩
  have hread : toBlocks (some .bundled) (Document.interrupting blocks wires).blocks =
      .ok (Drawing.interrupting blocks wires).blocks := by
    rw [toBlocks_eq_ok_iff, interrupting, List.forall₂_map_left_iff, List.forall₂_same]
    exact fun b hb ↦ toBlock_bare (hbare b hb)
  have hjoined : (Document.interrupting blocks wires).wires.map WireRecord.toWire = wires := by
    rw [interrupting, List.map_map]
    refine (List.map_congr_left fun w hw ↦ ?_).trans (List.map_id wires)
    obtain ⟨id, source, target, kind, mapping⟩ := w
    obtain ⟨rfl, rfl⟩ : kind = some .simple ∧ mapping = [] := hwires _ hw
    rfl
  rw [toDrawing, checkReferences_eq_ok_iff.2 hlinked, hread, hjoined]
  rfl

/-- **Opening the document is interrupted**, and leaves its blocks and wires with all numbers still
to be given out. -/
theorem Canvas.run_interrupting (blocks : List Block) (wires : List Wire)
    (hblocks : ∀ b ∈ blocks, b.IsBare) (hwires : ∀ w ∈ wires, w.IsBare)
    (hconsistent : Consistent .bundled blocks wires) (hnested : Nested .bundled blocks)
    (hshort : ∀ b ∈ blocks, isOverlongId b.id = false) :
    run .bundled [.openDocument (.ok (.interrupting blocks wires))] =
      { empty with
        blocks := (Drawing.interrupting blocks wires).blocks
        wires := wires
        created := some "then" } := by
  have hdrawing : (Action.openDocument (.ok (.interrupting blocks wires))).drawing? .bundled =
      some (.interrupting blocks wires) :=
    congrArg Except.toOption
      (Document.toDrawing_interrupting hblocks hwires hconsistent hnested hshort)
  have hcopy : ∀ b ∈ (Drawing.interrupting blocks wires).blocks, b.isCopyable = true := by
    rw [Drawing.interrupting, List.forall_mem_append, List.forall_mem_singleton]
    refine ⟨fun b hb ↦ ?_, rfl⟩
    rw [Block.isCopyable, Block.entries, (hblocks b hb).2.1, (hblocks b hb).2.2.2]
    rfl
  have hlong : ∃ b ∈ (Drawing.interrupting blocks wires).blocks, isOverlongId b.id = true :=
    ⟨_, List.mem_append_right _ (List.mem_singleton_self _), isOverlongId_overlongId⟩
  exact run_stopped hdrawing hcopy hlong
    (Drawing.consistent_interrupting hconsistent hshort).blockIds hconsistent.wireIds

end

end FlowCanvas
