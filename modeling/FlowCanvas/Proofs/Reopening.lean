import FlowCanvas.Proofs.Saving

/-!
# Saved canvases opened again, whatever the types

A canvas is worked on in JSON values and saved. Whether it can be opened again with the same palette
is decided by the types alone: opening brings every declared property to its kind, and a property
may have come onto the canvas without being brought there. Defaults are handed out as they are, a
name that is declared twice is checked against the first declaration only, and a number that is not
finite is carried as null.

Nothing keeps a palette from having a type whose id is empty. A block of it is written with an empty
type, which reading takes for none, and so it is read as a block of another type (`Block.typeRead`):
one that its data names, as old files did, or that of raw code. The rules of the graph and the
declarations of properties are then those of the other type.

`reopened_iff` says for every palette which canvases are saved and which of those are opened again:
the ones that follow the rules by the types that are read, and in which every property, as JSON
carries it, can be brought to all the kinds under which it is declared (`Block.Readable`). Where
every block has a type of its own, the rules never stand in the way, and neither do names. **Where
all types are tidy besides, only a number that is not finite does** (`Block.Filed.readable_iff`). A
type that declares a property without a default hands out null, which no kind takes: no canvas with
a fresh block of such a type can be opened again (`missing_default_not_reopened`).
-/

namespace FlowCanvas

/-! ### Types that are read -/

/-- **The type that a block is read as** when it has been written down: its own unless that is
empty, and else the one that its data names, or that of raw code. -/
def Block.typeRead (b : Block) : String := (Document.BlockRecord.merged b).typeId

/-- A type that is stated is read. -/
theorem Block.typeRead_of_type {b : Block} (h : b.type ≠ "") : b.typeRead = b.type :=
  Document.BlockRecord.typeId_of_type rfl h

/-- A drawing with the types that its blocks are read as. -/
def Drawing.retyped (d : Drawing) : Drawing :=
  { d with blocks := d.blocks.map fun b ↦ { b with type := b.typeRead } }

/-- Nothing changes where every block states its type. -/
theorem Drawing.retyped_of_types {d : Drawing} (h : ∀ b ∈ d.blocks, b.type ≠ "") :
    d.retyped = d := by
  have hblocks : (d.blocks.map fun b ↦ { b with type := b.typeRead }) = d.blocks := by
    refine (List.map_congr_left fun b hb ↦ ?_).trans (List.map_id d.blocks)
    rw [Block.typeRead_of_type (h b hb)]
    rfl
  rw [retyped, hblocks]

/-- The names that the type declares which a block is read as can be names. -/
def Block.Named (p : Palette) (b : Block) : Prop :=
  ∀ t, p.get? b.typeRead = some t → ∀ spec ∈ t.properties, spec.name.isName = true

theorem Canvas.Sayable.named {p : Palette} {b : Block} (h : Canvas.Sayable p b)
    (htype : b.type ≠ "") : b.Named p := by
  rw [Block.Named, Block.typeRead_of_type htype]
  exact Document.forall_specsOf.1 h

/-- **What reading asks of a block**: every property that is kept can be brought, as JSON carries
it, to all the kinds under which the type declares it that the block is read as, one after the
other. -/
def Block.Readable (p : Palette) (b : Block) : Prop :=
  ∀ t, p.get? b.typeRead = some t → ∀ key v, key ∉ Canvas.reservedNames →
    Fields.get? b.properties key = some v →
    ∃ w, Kind.coerceAll (PropertySpec.kindsOf t.properties key) v.portable = .ok w

/-- The same by the declarations that reading goes by, of which there are none for a type that is
not known. -/
theorem Block.readable_iff_specsOf {p : Palette} {b : Block} :
    b.Readable p ↔ ∀ key v, key ∉ Canvas.reservedNames → Fields.get? b.properties key = some v →
      ∃ w, Kind.coerceAll (PropertySpec.kindsOf (Document.specsOf (some p) b.typeRead) key)
        v.portable = .ok w := by
  rw [Block.Readable]
  rcases ht : p.get? b.typeRead with - | t
  · have hnone : Document.specsOf (some p) b.typeRead = [] := by simp [Document.specsOf, ht]
    rw [hnone]
    exact iff_of_true (fun t h ↦ absurd h (by simp)) fun _ v _ _ ↦ ⟨v.portable, rfl⟩
  · have hsome : Document.specsOf (some p) b.typeRead = t.properties := by
      simp [Document.specsOf, ht]
    rw [hsome]
    simp only [Option.some.injEq, forall_eq']

/-! ### Writing and handing over -/

namespace Document

open Checks

variable {p : Palette} {b : Block} {d : Drawing} {m : Metadata}

/-- **A drawing is written down exactly if every property has a text for its name**, where places
are floats and wires have kinds. -/
theorem ofDrawing_merged (hplaces : ∀ b ∈ d.blocks, ∃ x y, b.position = .ofFloats x y)
    (hwires : ∀ w ∈ d.wires, w.Storable) (clock : Clock) (name created now : Option String) :
    ∃ m, ∀ document,
      ofDrawing clock ⟨.ofText? name, .ofText? created, .ofText? now⟩ d = .ok document ↔
        (∀ b ∈ d.blocks, b.strays = []) ∧ document = merged m d := by
  by_cases hstrays : ∀ b ∈ d.blocks, b.strays = []
  · obtain ⟨m, -, -, hwritten⟩ := ofDrawing_eq_merged hplaces hstrays hwires clock name created now
    refine ⟨m, fun document ↦ ?_⟩
    rw [hwritten, Except.ok.injEq, eq_comm]
    exact (and_iff_right hstrays).symm
  · exact ⟨⟨"", "", ""⟩, fun document ↦
      iff_of_false (fun h ↦ hstrays (strays_of_ofDrawing h)) fun h ↦ hstrays h.1⟩

/-- What is in the way of handing a drawing over is in the data of its blocks. -/
theorem handedOver_merged {v : Value} :
    (merged m d).handedOver = .ok v ↔
      (∀ b ∈ d.blocks, ∀ e ∈ b.data, e.2.fitsDepth = true ∧ e.2.holds Value.isCallback = false) ∧
        v = (merged m d).toValue := by
  rw [handedOver_plain extras_written, merged, List.forall_mem_map]
  simp only [hindrance?_eq_none_iff]
  rfl

/-- **A drawing is saved exactly if** every property has a text for its name and nothing that is
written is nested too deeply or holds a callback, and there is one value that it is saved as. -/
theorem saved_merged (hplaces : ∀ b ∈ d.blocks, ∃ x y, b.position = .ofFloats x y)
    (hwires : ∀ w ∈ d.wires, w.Storable) (clock : Clock) (name created now : Option String) :
    ∃ m, ∀ v, (∃ document,
        ofDrawing clock ⟨.ofText? name, .ofText? created, .ofText? now⟩ d = .ok document ∧
        document.handedOver = .ok v) ↔
      (∀ b ∈ d.blocks, b.strays = [] ∧
        ∀ e ∈ b.data, e.2.fitsDepth = true ∧ e.2.holds Value.isCallback = false) ∧
        v = (merged m d).toValue := by
  obtain ⟨m, hwritten⟩ := ofDrawing_merged hplaces hwires clock name created now
  refine ⟨m, fun v ↦ ?_⟩
  constructor
  · rintro ⟨document, hdocument, hover⟩
    obtain ⟨hstrays, rfl⟩ := (hwritten document).1 hdocument
    obtain ⟨hfree, rfl⟩ := handedOver_merged.1 hover
    exact ⟨fun b hb ↦ ⟨hstrays b hb, hfree b hb⟩, rfl⟩
  · rintro ⟨hblocks, rfl⟩
    exact ⟨_, (hwritten _).2 ⟨fun b hb ↦ (hblocks b hb).1, rfl⟩,
      handedOver_merged.2 ⟨fun b hb ↦ (hblocks b hb).2, rfl⟩⟩

/-! ### Reading -/

/-- JSON carries texts as they are, and makes none of what is no text. -/
theorem BlockRecord.stated?_carried (r : BlockRecord) (key : String) :
    r.carried.stated? key = r.stated? key := by
  have hget : Fields.get? r.carried.data key = (Fields.get? r.data key).map Value.portable :=
    Fields.get?_mapValues _ _ _
  rw [stated?, stated?, hget]
  rcases Fields.get? r.data key with - | v
  · rfl
  cases v with
  | float x =>
    by_cases hx : x.isFinite = true
    · rw [Option.map_some, Value.portable, if_pos hx]
    · rw [Option.map_some, Value.portable, if_neg hx]
  | _ => rfl

/-- **JSON carries the type of a block**, wherever it is stated. -/
theorem BlockRecord.typeId_carried (r : BlockRecord) : r.carried.typeId = r.typeId := by
  rw [typeId, typeId, stated?_carried, stated?_carried]
  rfl

/-- What reading finds among the data of a block: the properties that bear no reserved name, as JSON
carries them. -/
theorem BlockRecord.get?_merged (hnames : (Fields.keys b.properties).Nodup) {key : String}
    {v : Value} :
    Fields.get? ((merged b).carried.data.filter fun e ↦ !Canvas.reservedNames.contains e.1) key =
        some v ↔
      key ∉ Canvas.reservedNames ∧ ∃ u, Fields.get? b.properties key = some u ∧ u.portable = v := by
  rw [Fields.get?_filter fun key ↦ !Canvas.reservedNames.contains key]
  by_cases hkey : key ∈ Canvas.reservedNames
  · simp [hkey]
  · have hheading : Fields.get? [("label", b.label), ("pluginId", .text b.type)] key = none := by
      simp only [Canvas.reservedNames, List.mem_cons, List.not_mem_nil, or_false, not_or] at hkey
      simp [Fields.get?, Ne.symm hkey.1, Ne.symm hkey.2.1]
    have hdata : Fields.get? (merged b).carried.data key =
        (Fields.get? b.properties key).map Value.portable := by
      show Fields.get? (Fields.mapValues Value.portable (Fields.merge _ b.properties)) key = _
      rw [Fields.get?_mapValues, Fields.get?_merge hnames, hheading, Option.or_none]
    rw [if_pos (by simpa using hkey), hdata, Option.map_eq_some_iff]
    exact (and_iff_right hkey).symm

/-- **A block is read exactly if it is readable**, by declarations whose names can be names. -/
theorem BlockRecord.toBlock_merged_isOk_iff (hnames : (Fields.keys b.properties).Nodup) :
    (∃ b', (merged b).carried.toBlock (some p) = .ok b') ↔ b.Named p ∧ b.Readable p := by
  have htype : (merged b).carried.typeId = b.typeRead := typeId_carried (merged b)
  have hspecs : (∃ b', (merged b).carried.toBlock (some p) = .ok b') ↔
      ∃ properties, coerceDeclared b.id b.typeRead (specsOf (some p) b.typeRead)
        ((merged b).carried.data.filter fun e ↦ !Canvas.reservedNames.contains e.1) =
          .ok properties := by
    simp only [toBlock_eq_ok_iff, exists_and_left, exists_comm, exists_eq, and_true]
    rw [htype]
    rfl
  -- Names are looked at whatever the properties are, so they can be settled first.
  have hkinds : b.Named p → ((∃ properties, coerceDeclared b.id b.typeRead
      (specsOf (some p) b.typeRead) ((merged b).carried.data.filter fun e ↦
        !Canvas.reservedNames.contains e.1) = .ok properties) ↔ b.Readable p) := by
    intro hnamed
    rw [coerceDeclared_isOk_iff (forall_specsOf.2 hnamed), Block.readable_iff_specsOf]
    simp only [get?_merged hnames]
    constructor
    · exact fun h key v hkey hv ↦ h key v.portable ⟨hkey, v, hv, rfl⟩
    · rintro h key w ⟨hkey, v, hv, rfl⟩
      exact h key v hkey hv
  rw [hspecs]
  constructor
  · rintro ⟨properties, hread⟩
    have hnamed : b.Named p := forall_specsOf.1 (isName_of_coerceDeclared hread)
    exact ⟨hnamed, (hkinds hnamed).1 ⟨properties, hread⟩⟩
  · rintro ⟨hnamed, hreadable⟩
    exact (hkinds hnamed).2 hreadable

/-- What goes wrong with a block is the fault of the document, unless a name can be none. -/
theorem BlockRecord.isMalformed_of_toBlock_merged (hnamed : b.Named p) {fault : DocumentFault}
    (h : (merged b).carried.toBlock (some p) = .error fault) : fault.isMalformed = true := by
  have htype : (merged b).carried.typeId = b.typeRead := typeId_carried (merged b)
  unfold toBlock at h
  dsimp only at h
  rw [htype, ← specsOf] at h
  split at h
  · next own hown =>
    rw [← Except.error.inj h]
    exact isMalformed_of_coerceDeclared (forall_specsOf.2 hnamed) hown
  · exact absurd h (by simp)

/-- The parts of a written document fit together exactly if the drawing obeys the rules with the
types that are read, where wires have distinct ids. -/
theorem linked_merged (hwires : (d.wires.map Wire.id).Nodup) :
    (merged m d).carried.Linked (some p) ↔ d.retyped.outline.Obeys (some p) := by
  have hspots : ∀ b ∈ d.blocks,
      (BlockRecord.merged b).carried.spot = ⟨b.id, b.typeRead, b.parent⟩ := by
    intro b _
    rw [BlockRecord.spot, BlockRecord.typeId_carried]
    rfl
  have houtline : (merged m d).carried.outline = d.retyped.outline := by
    rw [outline, carried, merged, List.map_map, List.map_map, List.map_map, Drawing.outline,
      Drawing.retyped, List.map_map]
    exact congrArg (Outline.mk · _) (List.map_congr_left hspots)
  rw [linked_iff, houtline, carried, merged, List.map_map]
  exact and_iff_left hwires

/-- **A document is read exactly if** it obeys the rules and its blocks are readable, and what goes
wrong is its fault unless a name can be none. -/
theorem ofValue_merged (hplaces : ∀ b ∈ d.blocks, ∃ x y, b.position = .ofFloats x y)
    (hnames : ∀ b ∈ d.blocks, (Fields.keys b.properties).Nodup)
    (hwires : (d.wires.map Wire.id).Nodup) :
    ((∃ again, Drawing.ofValue (some p) (merged m d).toValue = .ok again) ↔
        d.retyped.outline.Obeys (some p) ∧ ∀ b ∈ d.blocks, b.Named p ∧ b.Readable p) ∧
      ∀ fault, Drawing.ofValue (some p) (merged m d).toValue = .error fault →
        fault.isMalformed = true ∨ ∃ b ∈ d.blocks, ¬ b.Named p := by
  have hblocks : (merged m d).carried.blocks =
      d.blocks.map fun b ↦ (BlockRecord.merged b).carried := by
    rw [carried, merged, List.map_map]
    rfl
  have hrecords : ∀ r ∈ (merged m d).blocks, ∃ x y, r.position = .ofFloats x y :=
    List.forall_mem_map.2 fun b hb ↦ hplaces b hb
  have hlinked : (merged m d).carried.Linked (some p) ↔ d.retyped.outline.Obeys (some p) :=
    linked_merged hwires
  rw [opened_toValue_eq hrecords portable_written]
  by_cases hobeys : d.retyped.outline.Obeys (some p)
  · -- References hold, so only the blocks can go wrong.
    constructor
    · rw [toDrawing_isOk_iff (hlinked.2 hobeys), hblocks, List.forall_mem_map,
        and_iff_right hobeys]
      exact forall₂_congr fun b hb ↦ BlockRecord.toBlock_merged_isOk_iff (hnames b hb)
    · intro fault h
      obtain ⟨r, hr, hfault⟩ := exists_of_toDrawing_error (hlinked.2 hobeys) h
      rw [hblocks] at hr
      obtain ⟨b, hb, rfl⟩ := List.mem_map.1 hr
      by_cases hnamed : b.Named p
      · exact .inl (BlockRecord.isMalformed_of_toBlock_merged hnamed hfault)
      · exact .inr ⟨b, hb, hnamed⟩
  · -- A reference that does not hold is the fault of the document, whatever its blocks are.
    rcases hrefs : (merged m d).carried.checkReferences (some p) with own | done
    · have hread : (merged m d).carried.toDrawing (some p) = .error (.reference own) := by
        rw [toDrawing, hrefs]
      rw [hread]
      refine ⟨iff_of_false (by simp) fun h ↦ hobeys h.1, fun fault h ↦ .inl ?_⟩
      rw [← Except.error.inj h]
      rfl
    · exact absurd (hlinked.1 (checkReferences_eq_ok_iff.1 hrefs)) hobeys

end Document

/-! ### Tidy types -/

/-- **With tidy types only a number that is not finite is in the way.** JSON carries null in its
place, and all else that is declared has its form already. -/
theorem Block.Filed.readable_iff {p : Palette} (hp : p.Tidy) {b : Block} (h : b.Filed p) :
    b.Readable p ↔ ∀ t, p.get? b.type = some t → ∀ spec ∈ t.properties, ∀ e ∈ b.properties,
      spec.name = .text e.1 → ∀ x, e.2 = .float x → x.isFinite = true := by
  rw [Block.Readable, Block.typeRead_of_type h.type]
  refine forall₂_congr fun t ht ↦ ?_
  have hseparate : PropertySpec.Separate t.properties := (hp t (List.mem_of_find?_eq_some ht)).once
  have hone : ∀ (kind : Kind) (v : Value), Kind.coerceAll [kind] v = kind.coerce v :=
    fun kind v ↦ bind_pure (kind.coerce v)
  constructor
  · intro hread spec hspec e he hname x hx
    by_contra hinfinite
    obtain ⟨w, hw⟩ := hread e.1 e.2 (h.unreserved e he) (Fields.get?_of_mem h.names he)
    have hnull : e.2.portable = .null := by rw [hx, Value.portable, if_neg hinfinite]
    rw [PropertySpec.kindsOf_of_separate hseparate hspec hname, hnull, hone] at hw
    exact Kind.coerce_null_ne_ok spec.kind w hw
  · intro hfinite key v _ hv
    have he : (key, v) ∈ b.properties := Fields.mem_of_get? hv
    by_cases hdeclared : ∃ spec ∈ t.properties, spec.name = .text key
    · obtain ⟨spec, hspec, hname⟩ := hdeclared
      have hcarried : v.portable = v := Value.portable_eq_self v
        ((h.carried (key, v) he).obstacle? (hfinite spec hspec (key, v) he hname))
      rw [PropertySpec.kindsOf_of_separate hseparate hspec hname, hcarried, hone]
      exact ⟨v, h.declared t ht spec hspec (key, v) he hname⟩
    · rw [PropertySpec.kindsOf_of_undeclared fun spec hspec hname ↦ hdeclared ⟨spec, hspec, hname⟩]
      exact ⟨v.portable, rfl⟩

/-! ### Runs -/

namespace Canvas

/-- **Which canvases can be saved and opened again.** Whatever is asked of a canvas in JSON values
and in any order, with any types:

* it can be saved, under any name, **exactly if** every property has a text for its name and nothing
  that is written is nested too deeply or holds a callback;
* a canvas that was saved is opened again with the same types **exactly if** it follows the rules by
  the types that are read and every block is readable, by declarations whose names can be names; if
  it is not, the document is blamed, unless a block without a type of its own is read as one that
  declares something else than a name;
* where every block has a type of its own, the rules are followed and names are names. -/
theorem reopened_iff {p : Palette} {instructions : List Instruction}
    (h : ∀ i ∈ instructions, i.InJson) (clock : Clock) (name created now : Option String) :
    let c := run p (instructions.map .follow)
    let d := c.drawing none
    let saved (v : Value) : Prop := ∃ document,
      c.document clock ⟨.ofText? name, .ofText? created, .ofText? now⟩ none = .ok document ∧
      document.handedOver = .ok v
    ((∃ v, saved v) ↔ ∀ b ∈ d.blocks, b.strays = [] ∧
        ∀ e ∈ b.data, e.2.fitsDepth = true ∧ e.2.holds Value.isCallback = false) ∧
      (∀ v, saved v →
        ((∃ again, Drawing.ofValue (some p) v = .ok again) ↔
          d.retyped.outline.Obeys (some p) ∧ ∀ b ∈ d.blocks, b.Named p ∧ b.Readable p) ∧
        ∀ fault, Drawing.ofValue (some p) v = .error fault →
          fault.isMalformed = true ∨ ∃ b ∈ d.blocks, b.type = "" ∧ ¬ b.Named p) ∧
      ((∀ b ∈ d.blocks, b.type ≠ "") →
        d.retyped.outline.Obeys (some p) ∧ ∀ b ∈ d.blocks, b.Named p) := by
  intro c d saved
  have hchecked : ∀ a ∈ instructions.map Action.follow, a.Checked :=
    forall_follow fun i hi ↦ (h i hi).fromOutside.checked
  have hsound := sound_of_calm hchecked (forall_follow fun i hi ↦ (h i hi).not_interrupted p)
  have hplaces : ∀ b ∈ d.blocks, ∃ x y, b.position = .ofFloats x y :=
    placed_run (forall_follow fun i hi ↦ (h i hi).fromOutside)
  have hnames : ∀ b ∈ d.blocks, (Fields.keys b.properties).Nodup :=
    fun b hb ↦ (orderly_of_run h b hb).names
  have hsayable : ∀ b ∈ d.blocks, Sayable p b := sayable_of_run hchecked
  obtain ⟨m, hsaved⟩ := Document.saved_merged hplaces (wires_of_run hchecked) clock name created now
  rw [← document_of_run hchecked] at hsaved
  refine ⟨⟨?_, fun hblocks ↦ ⟨_, (hsaved _).2 ⟨hblocks, rfl⟩⟩⟩, fun v hv ↦ ?_, fun htypes ↦ ?_⟩
  · rintro ⟨v, hv⟩
    exact ((hsaved v).1 hv).1
  · obtain ⟨-, rfl⟩ := (hsaved v).1 hv
    obtain ⟨hread, hblame⟩ := Document.ofValue_merged hplaces hnames hsound.consistent.wireIds
    refine ⟨hread, fun fault hfault ↦ (hblame fault hfault).imp_right ?_⟩
    -- Names that a type of a block on the canvas declares were looked at when it was made.
    rintro ⟨b, hb, hnamed⟩
    exact ⟨b, hb, by_contra fun htype ↦ hnamed ((hsayable b hb).named htype), hnamed⟩
  · rw [Drawing.retyped_of_types htypes]
    exact ⟨Drawing.obeys_of_nested hsound.consistent hsound.nested,
      fun b hb ↦ (hsayable b hb).named (htypes b hb)⟩

/-- A type whose default is a numeral where it declares a number: its block keeps the text until the
canvas is opened again, and then the text is read as a number. The block of a nameless type beside
it is read as raw code. -/
theorem numeral_default_reopened :
    let gauge : BlockType :=
      { id := "gauge", name := .text "Gauge"
        properties := [{ name := .text "level", kind := .number, default := .text "12" }] }
    let nameless : BlockType := { id := "", name := .text "Plain" }
    let p : Palette := ⟨Palette.bundled.types ++ [gauge, nameless]⟩
    let instructions : List Instruction := [
      .drop { type := .text "main" },
      .drop { type := .text "gauge", properties := .object [("note", .list [.int 1])] },
      .update (.text "node_1") (.object [("label", .int 7)]),
      .drop { type := .text "" },
      .connect (.text "node_0") (.text "node_1") .null]
    let c := run p (instructions.map .follow)
    let d := c.drawing none
    let clock : Clock := ⟨2025, 1, 1, 10, 0, 0, 0⟩
    (∀ i ∈ instructions, i.InJson) ∧ d.retyped.outline.Obeys (some p) ∧
      (∀ b ∈ d.blocks, b.Named p ∧ b.Readable p) ∧
      d.blocks.map (fun b ↦ Fields.get? b.properties "level") = [none, some (.text "12"), none] ∧
      d.blocks.map Block.typeRead = ["main", "gauge", "legacy_code"] ∧
      ∃ document v again,
        c.document clock ⟨.ofText? (some "flow"), .ofText? none, .ofText? none⟩ none =
          .ok document ∧
        document.handedOver = .ok v ∧ Drawing.ofValue (some p) v = .ok again := by
  intro gauge nameless p instructions c d clock
  have hjson : ∀ i ∈ instructions, i.InJson := by
    simp [instructions, Instruction.InJson, Value.obstacle?, Value.fieldObstacle?,
      Value.itemObstacle?]
  have hobeys : d.retyped.outline.Obeys (some p) :=
    Drawing.check_eq_ok_iff.1 (Checks.toOption_eq_some_iff.1 (by decide +kernel))
  have hreadable : ∀ b ∈ d.blocks, b.Named p ∧ b.Readable p := by
    have hentries : ∀ b ∈ d.blocks, ∀ t ∈ p.get? b.typeRead,
        (∀ spec ∈ t.properties, spec.name.isName = true) ∧ ∀ e ∈ b.properties,
          (Kind.coerceAll (PropertySpec.kindsOf t.properties e.1) e.2.portable).toOption.isSome =
            true := by
      decide +kernel
    intro b hb
    refine ⟨fun t ht ↦ (hentries b hb t ht).1, fun t ht key v _ hv ↦ ?_⟩
    obtain ⟨w, hw⟩ := Option.isSome_iff_exists.1
      ((hentries b hb t ht).2 (key, v) (Fields.mem_of_get? hv))
    exact ⟨w, Checks.toOption_eq_some_iff.1 hw⟩
  obtain ⟨hsaved, hread, -⟩ := reopened_iff (p := p) hjson clock (some "flow") none none
  obtain ⟨v, document, hwritten, hover⟩ := hsaved.2 (by decide +kernel)
  obtain ⟨again, hagain⟩ := (hread v ⟨document, hwritten, hover⟩).1.2 ⟨hobeys, hreadable⟩
  exact ⟨hjson, hobeys, hreadable, by decide +kernel, by decide +kernel, document, v, again,
    hwritten, hover, hagain⟩

/-- **A property without a default.** A type that declares one is registered without a complaint, a
block of it is made, and the canvas is saved. The document is blamed for the null that stands in
it. -/
theorem missing_default_not_reopened :
    let description : Value := .object [("id", .text "gauge"), ("name", .text "Gauge"),
      ("properties", .list [.object [("name", .text "level"), ("type", .text "number")]])]
    let instructions : List Instruction := [.create { type := .text "gauge" }]
    let clock : Clock := ⟨2025, 1, 1, 10, 0, 0, 0⟩
    ∃ t p, Palette.empty.register description = .ok (t, p) ∧ p.get? "" = none ∧
      (∀ i ∈ instructions, i.InJson) ∧ ∃ document v fault,
        Document.ofDrawing clock ⟨.ofText? (some "flow"), .ofText? none, .ofText? none⟩
          ((run p (instructions.map .follow)).drawing none) = .ok document ∧
        document.handedOver = .ok v ∧ Drawing.ofValue (some p) v = .error fault ∧
        fault.isMalformed = true := by
  intro description instructions clock
  let gauge : BlockType :=
    { id := "gauge", name := .text "Gauge"
      properties := [{ name := .text "level", kind := .number, label := .text "level" }] }
  have hjson : ∀ i ∈ instructions, i.InJson := by
    simp [instructions, Instruction.InJson, Value.obstacle?]
  refine ⟨gauge, ⟨[gauge]⟩, rfl, by decide, hjson, ?_⟩
  let blame : DocumentFault := .property "node_0" "gauge" "level" (.unexpected .number "NoneType")
  have hblamed : ((Document.ofDrawing clock ⟨.ofText? (some "flow"), .ofText? none, .ofText? none⟩
      ((run ⟨[gauge]⟩ (instructions.map .follow)).drawing none)).toOption.bind fun document ↦
        document.handedOver.toOption.map fun v ↦
          (Drawing.ofValue (some ⟨[gauge]⟩) v).map fun _ ↦ ()) = some (.error blame) := by
    decide +kernel
  obtain ⟨document, hwritten, hblamed⟩ := Option.bind_eq_some_iff.1 hblamed
  obtain ⟨v, hover, hblamed⟩ := Option.map_eq_some_iff.1 hblamed
  refine ⟨document, v, blame, Checks.toOption_eq_some_iff.1 hwritten,
    Checks.toOption_eq_some_iff.1 hover, ?_, rfl⟩
  rcases hread : Drawing.ofValue (some ⟨[gauge]⟩) v with fault | again
  · rw [hread] at hblamed
    rw [Except.error.inj hblamed]
  · rw [hread] at hblamed
    exact absurd hblamed (by simp [Except.map])

end Canvas

end FlowCanvas
