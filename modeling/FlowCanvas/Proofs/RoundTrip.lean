import FlowCanvas.Proofs.Declared
import FlowCanvas.Proofs.Outline

/-!
# Drawings written down and read back

A drawing is written down as a document, the document is handed over as a value, and the value is
read as a drawing with the palette at hand. `round_trip_iff` says when the same drawing comes back:
same blocks in the same order, with their types, places, parents, labels and properties in their
order, and same wires, under the name that was asked for.

What is asked of the drawing (`Drawing.Storable`) is what the format can tell: the graph follows its
rules, labels are texts or absent, no property bears a reserved name, declared properties have
their form already, and all values are ones that JSON can carry.

**Two limits remain.** A value of a property must not be nested too deeply, or the document cannot
be handed over. And the type of a block must not declare a property under something that can be no
name, or the document cannot be read. Nothing else keeps a drawing from coming back.

Writing and reading are each described by one function on blocks and one on wires
(`BlockRecord.written`, `WireRecord.written`); that the record of a block tells all of it is
`BlockRecord.toBlock_written`.
-/

namespace FlowCanvas

/-- **What is asked of a block** that is to come back as it was. -/
structure Block.Storable (p : Palette) (b : Block) : Prop where
  type : b.type ≠ ""
  label : b.label = .null ∨ ∃ s, b.label = .text s
  position : ∃ x y, b.position = .ofFloats x y
  strays : b.strays = []
  names : (Fields.keys b.properties).Nodup
  unreserved : ∀ e ∈ b.properties, e.1 ∉ Canvas.reservedNames
  portable : ∀ e ∈ b.properties, e.2.obstacle? = none
  declared : ∀ t, p.get? b.type = some t → ∀ spec ∈ t.properties, ∀ e ∈ b.properties,
    spec.name = .text e.1 → spec.kind.coerce e.2 = .ok e.2

/-- What is asked of a block to be written with all its properties, each under its name. -/
structure Block.Listed (b : Block) : Prop where
  position : ∃ x y, b.position = .ofFloats x y
  strays : b.strays = []
  names : (Fields.keys b.properties).Nodup
  unreserved : ∀ e ∈ b.properties, e.1 ∉ Canvas.reservedNames

/-- The data that a block is written with. A property under the name of the label or of the type
stands in its place. -/
def Block.data (b : Block) : Fields Value :=
  Fields.merge [("label", b.label), ("pluginId", .text b.type)] b.properties

theorem Block.Storable.listed {p : Palette} {b : Block} (h : b.Storable p) : b.Listed :=
  ⟨h.position, h.strays, h.names, h.unreserved⟩

/-- **The form in which a block is read from a document**, with a palette or without. -/
structure Block.Normal (palette : Option Palette) (b : Block) : Prop where
  listed : b.Listed
  type : b.type ≠ ""
  label : b.label = .null ∨ ∃ s, b.label = .text s
  declared : ∀ spec ∈ Document.specsOf palette b.type, ∀ e ∈ b.properties,
    spec.name = .text e.1 → spec.kind.coerce e.2 = .ok e.2

theorem Block.Storable.normal {p : Palette} {b : Block} (h : b.Storable p) : b.Normal (some p) :=
  ⟨h.listed, h.type, h.label, Document.forall_specsOf.2 h.declared⟩

/-- What is asked of a wire. -/
structure Wire.Storable (w : Wire) : Prop where
  kind : ∃ kind, w.kind = some kind
  mapping : ∃ mapping, w.mapping = Fields.mapValues .text mapping

/-- What is asked of a drawing. -/
structure Drawing.Storable (p : Palette) (d : Drawing) : Prop where
  consistent : Consistent p d.blocks d.wires
  nested : Nested p d.blocks
  blocks : ∀ b ∈ d.blocks, b.Storable p
  wires : ∀ w ∈ d.wires, w.Storable

namespace Document

open Checks

variable {p : Palette} {palette : Option Palette} {b : Block} {w : Wire}

/-! ### Writing blocks and wires -/

/-- The record that a block is written as, whatever its properties are named. -/
def BlockRecord.merged (b : Block) : BlockRecord where
  id := b.id
  type := some b.type
  position := b.position
  data := b.data
  parent := b.parent

/-- The record that a block is written as where no property takes the place of the label or the
type. -/
def BlockRecord.written (b : Block) : BlockRecord where
  id := b.id
  type := some b.type
  position := b.position
  data := ("label", b.label) :: ("pluginId", .text b.type) :: b.properties
  parent := b.parent

/-- The record that a wire is written as. -/
def WireRecord.written (w : Wire) : WireRecord where
  id := w.id
  source := w.source
  target := w.target
  kind := none
  mapping := none
  data := some ⟨w.kind, some (Fields.mapValues (fun v ↦ v.text?.getD "") w.mapping), []⟩

/-- A block whose place is made of floats is written if every property has a text for its name. -/
theorem BlockRecord.ofBlock_eq_merged (hposition : ∃ x y, b.position = .ofFloats x y)
    (hstrays : b.strays = []) : BlockRecord.ofBlock b = .ok (merged b) := by
  obtain ⟨x, y, hposition⟩ := hposition
  have hpoint : pointOf .value b.position.toValue = .ok b.position := by
    rw [hposition, pointOf_toValue]
  rw [BlockRecord.ofBlock, hpoint, checkNames_eq_ok_iff.2 hstrays]
  rfl

/-- Where no name is repeated nor reserved, the record has the properties themselves. -/
theorem BlockRecord.merged_eq (h : b.Listed) : merged b = written b := by
  have hdata : b.data = ("label", b.label) :: ("pluginId", .text b.type) :: b.properties := by
    refine Fields.merge_of_disjoint (fun e he hmem ↦ h.unreserved e he ?_) h.names
    rcases List.mem_cons.1 hmem with heq | hmem
    · simp [heq, Canvas.reservedNames]
    · simp [List.mem_singleton.1 hmem, Canvas.reservedNames]
  rw [merged, written, hdata]

theorem blockRecords_map {f : Block → BlockRecord} {blocks : List Block}
    (h : ∀ b ∈ blocks, BlockRecord.ofBlock b = .ok (f b)) (i : Nat) :
    blockRecords i blocks = .ok (blocks.map f) := by
  induction blocks generalizing i with
  | nil => rfl
  | cons b rest ih =>
    obtain ⟨hb, hrest⟩ := List.forall_mem_cons.1 h
    rw [blockRecords, hb, ih hrest]
    rfl

/-- A mapping of texts is the mapping of its texts. -/
theorem mapValues_text?_mapValues_text (mapping : Fields String) :
    Fields.mapValues (fun v : Value ↦ v.text?.getD "") (Fields.mapValues .text mapping) =
      mapping := by
  rw [Fields.mapValues, Fields.mapValues, List.map_map]
  exact List.map_id mapping

theorem WireRecord.ofWire_eq (h : w.Storable) {kind : ConnectionKind} (hkind : w.kind = some kind) :
    WireRecord.ofWire w kind = .ok (written w) := by
  obtain ⟨mapping, hmapping⟩ := h.mapping
  rw [WireRecord.ofWire, written, hmapping, Checked.entries_text, hkind,
    mapValues_text?_mapValues_text]
  rfl

/-- The wires of a drawing have kinds, and are written with them. -/
theorem statedKinds_eq {wires : List Wire} (h : ∀ w ∈ wires, w.Storable) :
    ∃ stated, statedKinds wires = .ok stated ∧
      ∀ i, wireRecords i stated = .ok (wires.map WireRecord.written) := by
  induction wires with
  | nil => exact ⟨[], rfl, fun _ ↦ rfl⟩
  | cons w rest ih =>
    obtain ⟨hw, hrest⟩ := List.forall_mem_cons.1 h
    obtain ⟨kind, hkind⟩ := hw.kind
    obtain ⟨stated, hstated, hrecords⟩ := ih hrest
    refine ⟨(w, kind) :: stated, ?_, fun i ↦ ?_⟩
    · simp only [statedKinds, hkind, hstated]
      rfl
    · rw [wireRecords, WireRecord.ofWire_eq hw hkind, hrecords]
      rfl

/-! ### Writing drawings -/

/-- The first of some texts that says something is a text. -/
theorem firstGiven_text {vs : List Value} {default : Value}
    (h : ∀ v ∈ vs, v = .null ∨ ∃ s, v = .text s) (hdefault : ∃ s, default = .text s) :
    ∃ s, firstGiven vs default = .text s := by
  induction vs with
  | nil => exact hdefault
  | cons v rest ih =>
    obtain ⟨hv, hrest⟩ := List.forall_mem_cons.1 h
    rw [firstGiven]
    split
    · next htruthy =>
      rcases hv with rfl | hv
      · exact absurd htruthy (by simp [Value.truthy])
      · exact hv
    · exact ih hrest

theorem ofText?_eq (s : Option String) :
    .ofText? s = Value.null ∨ ∃ t, .ofText? s = Value.text t := by
  rcases s with - | t
  · exact .inl rfl
  · exact .inr ⟨t, rfl⟩

/-- The document bears the first name that is given, and stamps that are texts. -/
theorem metadataOf_eq (clock : Clock) (name created now : Option String) (d : Drawing) :
    ∃ m : Metadata, firstGiven [.ofText? name, .ofText? d.name] (.text defaultName) = .text m.name ∧
      firstGiven [.ofText? created, .ofText? d.created] (.text m.modified) = .text m.created ∧
      metadataOf .value (metadataValue clock ⟨.ofText? name, .ofText? created, .ofText? now⟩ d) =
        .ok m := by
  obtain ⟨modified, hmodified⟩ : ∃ s, firstGiven [.ofText? now] (.text clock.stamp) = .text s :=
    firstGiven_text (by simpa using ofText?_eq now) ⟨_, rfl⟩
  obtain ⟨created', hcreated⟩ : ∃ s, firstGiven [.ofText? created, .ofText? d.created]
      (.text modified) = .text s :=
    firstGiven_text (by simpa using ⟨ofText?_eq created, ofText?_eq d.created⟩) ⟨_, rfl⟩
  obtain ⟨name', hname⟩ : ∃ s, firstGiven [.ofText? name, .ofText? d.name] (.text defaultName) =
      .text s :=
    firstGiven_text (by simpa using ⟨ofText?_eq name, ofText?_eq d.name⟩) ⟨_, rfl⟩
  refine ⟨⟨name', created', modified⟩, hname, hcreated, ?_⟩
  simp only [metadataValue, hmodified, hcreated, hname]
  exact metadataOf_toValue ⟨name', created', modified⟩

theorem firstGiven_name {name : String} (hname : name ≠ "") (rest : List Value) (default : Value) :
    firstGiven (.ofText? (some name) :: rest) default = .text name := by
  rw [firstGiven, if_pos (by simpa [Value.truthy, Value.ofText?] using hname)]
  rfl

/-- The document that a drawing is written as, whatever its properties are named. -/
def merged (m : Metadata) (d : Drawing) : Document where
  version := currentVersion
  metadata := m
  blocks := d.blocks.map BlockRecord.merged
  wires := d.wires.map WireRecord.written

/-- The document that a drawing is written as where no property takes the place of a label or a
type. -/
def written (m : Metadata) (d : Drawing) : Document where
  version := currentVersion
  metadata := m
  blocks := d.blocks.map BlockRecord.written
  wires := d.wires.map WireRecord.written

/-- A drawing is written down if its parts are. -/
theorem ofDrawing_eq_of_parts {clock : Clock} {heading : Heading} {d : Drawing} {m : Metadata}
    {stated : List (Wire × ConnectionKind)} {blocks : List BlockRecord} {wires : List WireRecord}
    (hmetadata : metadataOf .value (metadataValue clock heading d) = .ok m)
    (hstated : statedKinds d.wires = .ok stated) (hblocks : blockRecords 0 d.blocks = .ok blocks)
    (hwires : wireRecords 0 stated = .ok wires) :
    ofDrawing clock heading d = .ok ⟨currentVersion, m, blocks, wires⟩ := by
  simp only [ofDrawing, hstated, hmetadata, hblocks, hwires]
  rfl

/-- A drawing that is written down has nothing beside its records of properties. -/
theorem strays_of_ofDrawing {clock : Clock} {heading : Heading} {d : Drawing} {document : Document}
    (h : ofDrawing clock heading d = .ok document) : ∀ b ∈ d.blocks, b.strays = [] := by
  intro b hb
  obtain ⟨r, -, hr⟩ := Canvas.exists_of_forall₂ (ofDrawing_eq_ok h).1.flip hb
  exact (BlockRecord.ofBlock_eq_ok hr).1

/-- **A drawing is written down** under the first name and with the first stamp that is given, if
every property has a text for its name. -/
theorem ofDrawing_eq_merged {d : Drawing}
    (hplaces : ∀ b ∈ d.blocks, ∃ x y, b.position = .ofFloats x y)
    (hstrays : ∀ b ∈ d.blocks, b.strays = []) (hwires : ∀ w ∈ d.wires, w.Storable) (clock : Clock)
    (name created now : Option String) :
    ∃ m : Metadata, firstGiven [.ofText? name, .ofText? d.name] (.text defaultName) = .text m.name ∧
      firstGiven [.ofText? created, .ofText? d.created] (.text m.modified) = .text m.created ∧
      ofDrawing clock ⟨.ofText? name, .ofText? created, .ofText? now⟩ d = .ok (merged m d) := by
  obtain ⟨m, hm, hcreated, hmetadata⟩ := metadataOf_eq clock name created now d
  obtain ⟨stated, hstated, hrecords⟩ := statedKinds_eq hwires
  have hblocks : blockRecords 0 d.blocks = .ok (d.blocks.map BlockRecord.merged) :=
    blockRecords_map (fun b hb ↦ BlockRecord.ofBlock_eq_merged (hplaces b hb) (hstrays b hb)) 0
  exact ⟨m, hm, hcreated, ofDrawing_eq_of_parts hmetadata hstated hblocks (hrecords 0)⟩

/-- **A drawing of listed blocks is written down** as it is. -/
theorem ofDrawing_eq_written {d : Drawing} (hblocks : ∀ b ∈ d.blocks, b.Listed)
    (hwires : ∀ w ∈ d.wires, w.Storable) (clock : Clock) (name created now : Option String) :
    ∃ m : Metadata, firstGiven [.ofText? name, .ofText? d.name] (.text defaultName) = .text m.name ∧
      firstGiven [.ofText? created, .ofText? d.created] (.text m.modified) = .text m.created ∧
      ofDrawing clock ⟨.ofText? name, .ofText? created, .ofText? now⟩ d = .ok (written m d) := by
  obtain ⟨m, hm, hcreated, hmerged⟩ := ofDrawing_eq_merged (fun b hb ↦ (hblocks b hb).position)
    (fun b hb ↦ (hblocks b hb).strays) hwires clock name created now
  have hrecords : d.blocks.map BlockRecord.merged = d.blocks.map BlockRecord.written :=
    List.map_congr_left fun b hb ↦ BlockRecord.merged_eq (hblocks b hb)
  refine ⟨m, hm, hcreated, ?_⟩
  rw [hmerged, merged, hrecords]
  rfl

/-- **A drawing that is fit for it is written down.** -/
theorem ofDrawing_eq {d : Drawing} (hd : d.Storable p) (clock : Clock) {name : String}
    (hname : name ≠ "") (created now : Option String) :
    ∃ m : Metadata, m.name = name ∧
      ofDrawing clock ⟨.text name, .ofText? created, .ofText? now⟩ d = .ok (written m d) := by
  obtain ⟨m, hm, -, hwritten⟩ := ofDrawing_eq_written (fun b hb ↦ (hd.blocks b hb).listed) hd.wires
    clock (some name) created now
  rw [firstGiven_name hname, Value.text.injEq] at hm
  exact ⟨m, hm.symm, hwritten⟩

/-! ### Handing documents over -/

/-- **A value can be handed over** exactly if it is not nested too deeply and holds no callback. -/
theorem hindrance?_eq_none_iff {v : Value} :
    hindrance? v = none ↔ v.fitsDepth = true ∧ v.holds Value.isCallback = false := by
  have hown : (fun u : Value ↦ (if u.isCallback then some WritingFault.callback else none).isSome) =
      Value.isCallback := by
    funext u
    cases u.isCallback <;> rfl
  rw [hindrance?, Value.firstFault?_eq_none_iff, hown, Value.fitsDepth, decide_eq_true_eq]

/-- A document whose wires hold nothing but what the format knows is handed over exactly if
everything in the data of its blocks can be. -/
theorem handedOver_plain {document : Document} (hwires : ∀ w ∈ document.wires, ∀ data,
      w.data = some data → data.extras = []) {v : Value} :
    document.handedOver = .ok v ↔
      (∀ r ∈ document.blocks, ∀ e ∈ r.data, hindrance? e.2 = none) ∧ v = document.toValue := by
  have hplain : (document.wires.findSome? fun w ↦ w.data.bind fun data ↦
      data.extras.findSome? fun e ↦ hindrance? e.2) = none := by
    refine List.findSome?_eq_none_iff.2 fun w hw ↦ Option.bind_eq_none_iff.2 fun data hdata ↦ ?_
    rw [hwires w hw data hdata]
    rfl
  unfold handedOver
  dsimp only
  rw [hplain, Option.or_none]
  split
  · next fault h =>
    refine ⟨fun hok ↦ absurd hok (by simp), fun hfree ↦ ?_⟩
    obtain ⟨r, hr, hfault⟩ := List.exists_of_findSome?_eq_some h
    obtain ⟨e, he, hfault⟩ := List.exists_of_findSome?_eq_some hfault
    exact absurd hfault (by simp [hfree.1 r hr e he])
  · next h =>
    rw [Except.ok.injEq, eq_comm]
    refine ⟨fun hv ↦ ⟨fun r hr ↦ ?_, hv⟩, And.right⟩
    exact List.findSome?_eq_none_iff.1 (List.findSome?_eq_none_iff.1 h r hr)

/-- What cannot be handed over in the first block of a document is what its fault is. -/
theorem handedOver_eq_error {document : Document} {r : BlockRecord} {rest : List BlockRecord}
    (hblocks : document.blocks = r :: rest) {fault : WritingFault}
    (h : (r.data.findSome? fun e ↦ hindrance? e.2) = some fault) :
    document.handedOver = .error fault := by
  unfold handedOver
  dsimp only
  rw [hblocks, List.findSome?_cons, h]
  rfl

theorem extras_written {wires : List Wire} : ∀ r ∈ wires.map WireRecord.written, ∀ data,
    r.data = some data → data.extras = [] := by
  intro r hr data hdata
  obtain ⟨w, -, rfl⟩ := List.mem_map.1 hr
  rw [← Option.some.inj hdata]

/-- **A written document is handed over** exactly if every label and every property can be. -/
theorem handedOver_written {m : Metadata} {d : Drawing} {v : Value} :
    (written m d).handedOver = .ok v ↔
      (∀ b ∈ d.blocks, hindrance? b.label = none ∧ ∀ e ∈ b.properties, hindrance? e.2 = none) ∧
        v = (written m d).toValue := by
  -- What stands in front of the properties is the label and the type, which is a text.
  have hfits : ∀ b ∈ d.blocks, (∀ e ∈ (BlockRecord.written b).data, hindrance? e.2 = none) ↔
      hindrance? b.label = none ∧ ∀ e ∈ b.properties, hindrance? e.2 = none := by
    intro b _
    have htype : hindrance? (.text b.type) = none := rfl
    simp [BlockRecord.written, htype]
  rw [handedOver_plain extras_written, written, List.forall_mem_map]
  exact and_congr_left' (forall₂_congr hfits)

/-- Where JSON can carry the properties, only their depth can keep them from being handed over. -/
theorem handedOver_normal {m : Metadata} {d : Drawing} (hblocks : ∀ b ∈ d.blocks, b.Normal palette)
    (hcarried : ∀ b ∈ d.blocks, ∀ e ∈ b.properties, e.2.obstacle? = none) {v : Value} :
    (written m d).handedOver = .ok v ↔
      (∀ b ∈ d.blocks, ∀ e ∈ b.properties, e.2.fitsDepth = true) ∧ v = (written m d).toValue := by
  have hlabel : ∀ b ∈ d.blocks, hindrance? b.label = none := by
    intro b hb
    rcases (hblocks b hb).label with hlabel | ⟨s, hlabel⟩
    · rw [hlabel]
      rfl
    · rw [hlabel]
      rfl
  rw [handedOver_written]
  refine and_congr_left' (forall₂_congr fun b hb ↦ (and_iff_right (hlabel b hb)).trans ?_)
  refine forall₂_congr fun e he ↦ hindrance?_eq_none_iff.trans (and_iff_left ?_)
  exact Value.holds_isCallback_eq_false e.2 (hcarried b hb e he)

theorem handedOver_eq_ok_iff {m : Metadata} {d : Drawing} (hd : d.Storable p) {v : Value} :
    (written m d).handedOver = .ok v ↔
      (∀ b ∈ d.blocks, ∀ e ∈ b.properties, e.2.fitsDepth = true) ∧ v = (written m d).toValue :=
  handedOver_normal (fun b hb ↦ (hd.blocks b hb).normal) fun b hb ↦ (hd.blocks b hb).portable

/-- Nothing else stands beside the data of a wire. -/
theorem portable_written {wires : List Wire} : ∀ r ∈ wires.map WireRecord.written, ∀ data,
    r.data = some data → data.Portable := by
  intro r hr data hdata e he
  rw [extras_written r hr data hdata] at he
  exact absurd he List.not_mem_nil

/-- **Opening the value of a document** is reading what JSON carries of it. -/
theorem opened_toValue_eq {document : Document}
    (hplaces : ∀ r ∈ document.blocks, ∃ x y, r.position = .ofFloats x y)
    (hwires : ∀ w ∈ document.wires, ∀ data, w.data = some data → data.Portable) :
    Drawing.ofValue palette document.toValue = document.carried.toDrawing palette := by
  show open? palette (ofValue .value document.toValue) = _
  rw [ofValue_toValue_eq hplaces hwires]
  rfl

theorem opened_toValue {document : Document} (h : document.Portable) :
    Drawing.ofValue palette document.toValue = document.toDrawing palette := by
  rw [Drawing.ofValue, ofInput_toValue h]
  rfl

theorem portable_of_normal {m : Metadata} {d : Drawing} (hblocks : ∀ b ∈ d.blocks, b.Normal palette)
    (hcarried : ∀ b ∈ d.blocks, ∀ e ∈ b.properties, e.2.obstacle? = none) :
    (written m d).Portable where
  blocks := by
    intro r hr
    obtain ⟨b, hb, rfl⟩ := List.mem_map.1 hr
    refine ⟨(hblocks b hb).listed.position, fun e he ↦ ?_⟩
    rcases List.mem_cons.1 he with rfl | he
    · rcases (hblocks b hb).label with hlabel | ⟨s, hlabel⟩
      · exact hlabel ▸ rfl
      · exact hlabel ▸ rfl
    · rcases List.mem_cons.1 he with rfl | he
      · rfl
      · exact hcarried b hb e he
  wires := portable_written

theorem written_portable {m : Metadata} {d : Drawing} (hd : d.Storable p) :
    (written m d).Portable :=
  portable_of_normal (fun b hb ↦ (hd.blocks b hb).normal) fun b hb ↦ (hd.blocks b hb).portable

/-! ### Reading blocks and wires -/

theorem BlockRecord.typeId_written (h : b.type ≠ "") : (written b).typeId = b.type :=
  typeId_of_type rfl h

/-- The reserved names stand in front of the properties and are left out again. -/
theorem BlockRecord.filter_written (h : ∀ e ∈ b.properties, e.1 ∉ Canvas.reservedNames) :
    ((written b).data.filter fun e ↦ !Canvas.reservedNames.contains e.1) = b.properties := by
  have hown : (b.properties.filter fun e ↦ !Canvas.reservedNames.contains e.1) = b.properties :=
    List.filter_eq_self.2 fun e he ↦ by simpa using h e he
  have hdata : (written b).data =
      [("label", b.label), ("pluginId", .text b.type)] ++ b.properties := rfl
  rw [hdata, List.filter_append, hown]
  rfl

/-- A label that is read is a text or absent. -/
theorem BlockRecord.labelRead_eq (r : BlockRecord) :
    r.labelRead = .null ∨ ∃ s, r.labelRead = .text s := by
  unfold labelRead
  split
  · exact .inr ⟨_, rfl⟩
  · exact .inl rfl

/-- Reserved names are left out when a record is read. -/
theorem BlockRecord.unreserved_of_toBlock {r : BlockRecord} (h : r.toBlock palette = .ok b) :
    ∀ e ∈ b.properties, e.1 ∉ Canvas.reservedNames := by
  obtain ⟨properties, hcoerce, rfl⟩ := toBlock_eq_ok_iff.1 h
  intro e he
  have hmem : e.1 ∈ Fields.keys (r.data.filter fun e ↦ !Canvas.reservedNames.contains e.1) :=
    keys_coerceDeclared hcoerce ▸ List.mem_map_of_mem he
  obtain ⟨e', he', heq⟩ := List.mem_map.1 hmem
  have hfree : e'.1 ∉ Canvas.reservedNames := by simpa using (List.mem_filter.1 he').2
  exact heq ▸ hfree

/-- **The record of a block tells all of it.** It is read as the block exactly if the names its type
declares can be names. -/
theorem BlockRecord.toBlock_written (h : b.Normal palette) {b' : Block} :
    (written b).toBlock palette = .ok b' ↔
      (∀ spec ∈ specsOf palette b.type, spec.name.isName = true) ∧ b' = b := by
  have hcoerce : ∀ properties', coerceDeclared b.id b.type (specsOf palette b.type) b.properties =
      .ok properties' ↔ (∀ spec ∈ specsOf palette b.type, spec.name.isName = true) ∧
        properties' = b.properties :=
    fun properties' ↦ coerceDeclared_eq_ok_iff h.declared
  have hlabel : (written b).labelRead = b.label := by
    rcases h.label with hlabel | ⟨s, hlabel⟩ <;> simp [labelRead, written, Fields.get?, hlabel]
  rw [toBlock_eq_ok_iff, typeId_written h.type, filter_written h.listed.unreserved, hlabel]
  show (∃ properties, coerceDeclared b.id b.type _ b.properties = .ok properties ∧ _) ↔ _
  simp only [hcoerce, and_assoc, exists_and_left, exists_eq_left]
  refine and_congr_right fun _ ↦ ?_
  -- A record has no room for entries under other names than texts; the block has none.
  have hwhole : Block.mk b.id b.type b.position b.parent b.properties b.label [] = b := by
    rw [← h.listed.strays]
  exact ⟨fun hb ↦ hb.trans hwhole, fun hb ↦ hb.trans hwhole.symm⟩

theorem WireRecord.toWire_written (h : w.Storable)
    (hsimple : w.kind = some .simple → w.mapping = []) :
    (written w).toWire = w := by
  obtain ⟨kind, hkind⟩ := h.kind
  obtain ⟨mapping, hmapping⟩ := h.mapping
  have hstated : (written w).kindStated = kind := by
    simp [kindStated, written, hkind]
  have hmap : (written w).mappingStated = mapping := by
    simp only [mappingStated, written, hmapping, mapValues_text?_mapValues_text, Option.bind_some]
    cases mapping <;> rfl
  obtain ⟨id, source, target, kind', mapping'⟩ := w
  obtain rfl : kind' = some kind := hkind
  obtain rfl : mapping' = Fields.mapValues .text mapping := hmapping
  rw [toWire, hstated, hmap]
  cases kind with
  | simple =>
    rw [if_neg (by simp)]
    exact congrArg (Wire.mk id source target (some .simple)) (hsimple rfl).symm
  | functionCall => rfl

/-! ### Reading drawings -/

/-- The outline of a drawing is written down with it. -/
theorem outline_written {m : Metadata} {d : Drawing} (htypes : ∀ b ∈ d.blocks, b.type ≠ "") :
    (written m d).outline = d.outline := by
  have hspots : ∀ b ∈ d.blocks, (BlockRecord.written b).spot = b.spot := fun b hb ↦ by
    rw [BlockRecord.spot, BlockRecord.typeId_written (htypes b hb)]
    rfl
  rw [outline, written, List.map_map, List.map_map, Drawing.outline]
  exact congrArg (Outline.mk · _) (List.map_congr_left hspots)

/-- **The document of a graph that follows the rules is linked.** -/
theorem linked_written {m : Metadata} {d : Drawing} (hd : d.Storable p) :
    (written m d).Linked (some p) := by
  rw [linked_iff, outline_written fun b hb ↦ (hd.blocks b hb).type]
  refine ⟨Drawing.obeys_of_nested hd.consistent hd.nested, ?_⟩
  rw [written, List.map_map]
  exact hd.consistent.wireIds

/-- Blocks in normal form come back as they are, if the names that are declared can be said. -/
theorem toBlocks_written {blocks blocks' : List Block} (h : ∀ b ∈ blocks, b.Normal palette) :
    toBlocks palette (blocks.map BlockRecord.written) = .ok blocks' ↔
      (∀ b ∈ blocks, ∀ spec ∈ specsOf palette b.type, spec.name.isName = true) ∧
        blocks' = blocks := by
  rw [toBlocks_eq_ok_iff, List.forall₂_map_left_iff]
  induction blocks generalizing blocks' with
  | nil => simp
  | cons b rest ih =>
    obtain ⟨hb, hrest⟩ := List.forall_mem_cons.1 h
    rw [List.forall_mem_cons]
    cases blocks' with
    | nil => simp
    | cons b' rest' =>
      rw [List.forall₂_cons, BlockRecord.toBlock_written hb, ih hrest, List.cons.injEq]
      constructor
      · rintro ⟨⟨hnames, rfl⟩, hothers, rfl⟩
        exact ⟨⟨hnames, hothers⟩, rfl, rfl⟩
      · rintro ⟨⟨hnames, hothers⟩, rfl, rfl⟩
        exact ⟨⟨hnames, rfl⟩, hothers, rfl⟩

/-- **A written document whose parts fit together is read as the drawing exactly if declared names
can be names.** -/
theorem toDrawing_normal {m : Metadata} {d again : Drawing} (hlinked : (written m d).Linked palette)
    (hblocks : ∀ b ∈ d.blocks, b.Normal palette)
    (hwires : ∀ w ∈ d.wires, w.Storable ∧ (w.kind = some .simple → w.mapping = [])) :
    (written m d).toDrawing palette = .ok again ↔
      (∀ b ∈ d.blocks, ∀ spec ∈ specsOf palette b.type, spec.name.isName = true) ∧
      again = { d with name := some m.name, created := some m.created } := by
  have hsame : (written m d).wires.map WireRecord.toWire = d.wires := by
    rw [written, List.map_map]
    refine (List.map_congr_left fun w hw ↦ ?_).trans (List.map_id d.wires)
    exact WireRecord.toWire_written (hwires w hw).1 (hwires w hw).2
  rw [toDrawing, checkReferences_eq_ok_iff.2 hlinked]
  dsimp only
  rw [map_eq_ok_iff, hsame]
  constructor
  · rintro ⟨blocks, hread, rfl⟩
    obtain ⟨hnames, rfl⟩ := (toBlocks_written hblocks).1 hread
    exact ⟨hnames, rfl⟩
  · rintro ⟨hnames, rfl⟩
    exact ⟨d.blocks, (toBlocks_written hblocks).2 ⟨hnames, rfl⟩, rfl⟩

/-- **A stored drawing comes back**, with the name and the stamp it was written with. -/
theorem toDrawing_written {m : Metadata} {d again : Drawing} (hd : d.Storable p) :
    (written m d).toDrawing (some p) = .ok again ↔
      (∀ b ∈ d.blocks, ∀ t, p.get? b.type = some t → ∀ spec ∈ t.properties,
        spec.name.isName = true) ∧
      again = { d with name := some m.name, created := some m.created } := by
  rw [toDrawing_normal (linked_written hd) (fun b hb ↦ (hd.blocks b hb).normal)
    fun w hw ↦ ⟨hd.wires w hw, hd.consistent.simple w hw⟩]
  simp only [forall_specsOf]

/-- **The round trip of a drawing.** A drawing that is fit for it is written down under a name that
is not empty, whatever the clock and the stamps asked for. The document comes back as a drawing with
the same blocks and the same wires and under that name **exactly if** no property is nested too
deeply and no type of its blocks declares a property under something that can be no name. -/
theorem round_trip_iff {p : Palette} {d : Drawing} (hd : d.Storable p) (clock : Clock)
    {name : String} (hname : name ≠ "") (created now : Option String) :
    ∃ document, ofDrawing clock ⟨.text name, .ofText? created, .ofText? now⟩ d = .ok document ∧
      ((∃ v again, document.handedOver = .ok v ∧ Drawing.ofValue (some p) v = .ok again ∧
          again.blocks = d.blocks ∧ again.wires = d.wires ∧ again.name = some name) ↔
        (∀ b ∈ d.blocks, ∀ e ∈ b.properties, e.2.fitsDepth = true) ∧
        ∀ b ∈ d.blocks, ∀ t, p.get? b.type = some t → ∀ spec ∈ t.properties,
          spec.name.isName = true) := by
  obtain ⟨m, rfl, hwritten⟩ := ofDrawing_eq hd clock hname created now
  have hread : Drawing.ofValue (some p) (written m d).toValue =
      (written m d).toDrawing (some p) := by
    show open? (some p) (ofValue .value (written m d).toValue) = _
    rw [ofValue_toValue (written_portable hd)]
    rfl
  refine ⟨written m d, hwritten, ?_, ?_⟩
  · rintro ⟨v, again, hover, hagain, -⟩
    obtain ⟨hdepth, rfl⟩ := (handedOver_eq_ok_iff hd).1 hover
    rw [hread] at hagain
    exact ⟨hdepth, ((toDrawing_written hd).1 hagain).1⟩
  · rintro ⟨hdepth, hnames⟩
    let again : Drawing := { d with name := some m.name, created := some m.created }
    refine ⟨_, again, (handedOver_eq_ok_iff hd).2 ⟨hdepth, rfl⟩, ?_, rfl, rfl, rfl⟩
    rw [hread]
    exact (toDrawing_written hd).2 ⟨hnames, rfl⟩

/-- A block inside the entry point, with a property its type declares and one it does not, and a
wire that maps a variable: all of it comes back. -/
theorem round_trip_nested :
    let p := Palette.bundled
    let d : Drawing :=
      { blocks := [{ id := "node_0", type := "main" },
          { id := "node_1", type := "debug", parent := some "node_0", label := .text "Show"
            properties := [("note", .list [.int 1, .null]), ("variable", .text "x")] }]
        wires := [{ id := "edge_0", source := "node_0", target := "node_1"
                    kind := some .functionCall, mapping := [("a", .text "x")] }] }
    let clock : Clock := ⟨2025, 1, 1, 10, 0, 0, 0⟩
    d.Storable p ∧ ∃ document v again,
      ofDrawing clock ⟨.text "flow", .ofText? none, .ofText? none⟩ d = .ok document ∧
      document.handedOver = .ok v ∧ Drawing.ofValue (some p) v = .ok again ∧
      again.blocks = d.blocks ∧ again.wires = d.wires ∧ again.name = some "flow" := by
  intro p d clock
  have hmain : p.get? "main" = some Palette.entryBlock := rfl
  have hdebug : p.get? "debug" = some Palette.debugPrint := rfl
  have hcontainer : p.isContainer "main" = true := by decide
  have hplain : p.isContainer "debug" = false := by decide
  have hd : d.Storable p := by
    refine ⟨⟨by decide, by decide, by decide, by decide +kernel, by decide⟩, ⟨?_, ?_⟩, ?_, ?_⟩
    · simpa [d] using hcontainer
    · simpa [d] using hplain
    · simp only [d, List.mem_cons, List.not_mem_nil, or_false, forall_eq_or_imp, forall_eq]
      constructor
      · exact ⟨by decide, .inl rfl, ⟨0, 0, rfl⟩, rfl, by decide, by decide, by decide, by simp⟩
      · refine ⟨by decide, .inr ⟨_, rfl⟩, ⟨0, 0, rfl⟩, rfl, by decide, by decide, by decide, ?_⟩
        intro t ht
        obtain rfl := Option.some.inj (hdebug.symm.trans ht)
        decide
    · intro w hw
      obtain rfl := List.mem_singleton.1 hw
      exact ⟨⟨_, rfl⟩, ⟨[("a", "x")], rfl⟩⟩
  have hnames : ∀ b ∈ d.blocks, ∀ t, p.get? b.type = some t → ∀ spec ∈ t.properties,
      spec.name.isName = true := by
    simp only [d, List.mem_cons, List.not_mem_nil, or_false, forall_eq_or_imp, forall_eq, hmain,
      hdebug, Option.some.injEq, forall_eq']
    decide
  obtain ⟨document, hwritten, hback⟩ := round_trip_iff hd clock (by decide : "flow" ≠ "") none none
  obtain ⟨v, again, hagain⟩ := hback.2 ⟨by decide +kernel, hnames⟩
  exact ⟨hd, document, v, again, hwritten, hagain⟩

/-! ### A value that is nested too deeply -/

/-- Lists inside one another, so many of them. -/
def wrapped : Nat → Value
  | 0 => .null
  | n + 1 => .list [wrapped n]

theorem depth_wrapped (n : Nat) : (wrapped n).depth = n + 1 := by
  induction n with
  | zero => rfl
  | succ n ih => rw [wrapped, Value.depth, Value.itemDepth, ih, Value.itemDepth, Nat.max_zero]

theorem obstacle?_wrapped (n : Nat) : (wrapped n).obstacle? = none := by
  induction n with
  | zero => rfl
  | succ n ih =>
    rw [wrapped, Value.obstacle?, Value.itemObstacle?, ih, Value.itemObstacle?]
    rfl

/-- The lists inside one another are too deep to be handed over. -/
theorem hindrance?_wrapped {n : Nat} (h : Value.greatestDepth ≤ n) :
    hindrance? (wrapped n) = some .tooDeep := by
  -- What room is left shrinks with the lists that are left, and stays the smaller number.
  have hwalk : ∀ room n, room ≤ n → ∀ own : Value → Option WritingFault,
      (∀ n, own (wrapped n) = none) →
        (wrapped n).firstFault? own .tooDeep room = some .tooDeep := by
    intro room
    induction room with
    | zero => intro n _ own _; rw [Value.firstFault?]
    | succ room ih =>
      intro n hn own hown
      obtain ⟨n, rfl⟩ := Nat.exists_eq_add_of_le' (Nat.zero_lt_of_lt hn)
      have hlist := hown (n + 1)
      rw [wrapped] at hlist ⊢
      rw [Value.firstFault?, hlist, Option.none_or, Value.itemFault?,
        ih n (Nat.le_of_succ_le_succ hn) own hown]
      rfl
  refine hwalk _ n h _ fun n ↦ ?_
  cases n <;> rfl

/-- **A drawing that follows all the rules and does not come back.** One property holds 300 lists
inside one another; the document is written and cannot be handed over. -/
theorem deep_property_not_handed_over :
    let p := Palette.bundled
    let d : Drawing :=
      { blocks := [{ id := "node_0", type := "debug", properties := [("deep", wrapped 300)] }] }
    let clock : Clock := ⟨2025, 1, 1, 10, 0, 0, 0⟩
    d.Storable p ∧ ∃ document,
      ofDrawing clock ⟨.text "flow", .ofText? none, .ofText? none⟩ d = .ok document ∧
      document.handedOver = .error .tooDeep := by
  intro p d clock
  have hdebug : p.get? "debug" = some Palette.debugPrint := rfl
  have hd : d.Storable p := by
    refine ⟨⟨by decide, by decide, by decide, by decide +kernel, by decide⟩, ⟨?_, ?_⟩, ?_, ?_⟩
    · simp [d]
    · simp [d]
    · intro b hb
      obtain rfl := List.mem_singleton.1 hb
      refine ⟨by decide, .inl rfl, ⟨0, 0, rfl⟩, rfl, by decide, by decide, fun e he ↦ ?_, ?_⟩
      · obtain rfl := List.mem_singleton.1 he
        exact obstacle?_wrapped 300
      · intro t ht spec hspec e he hname
        obtain rfl := Option.some.inj (hdebug.symm.trans ht)
        obtain rfl := List.mem_singleton.1 he
        -- The type does not declare the property.
        have hnone : ∀ spec ∈ Palette.debugPrint.properties, spec.name ≠ .text "deep" := by decide
        exact absurd hname (hnone spec hspec)
    · simp [d]
  obtain ⟨m, -, hwritten⟩ := ofDrawing_eq hd clock (by decide : "flow" ≠ "") none none
  refine ⟨hd, written m d, hwritten, handedOver_eq_error rfl ?_⟩
  have hdeep : hindrance? (wrapped 300) = some .tooDeep := hindrance?_wrapped (by decide)
  rw [BlockRecord.written, List.findSome?_cons, List.findSome?_cons, List.findSome?_cons, hdeep]
  rfl

end Document

end FlowCanvas
