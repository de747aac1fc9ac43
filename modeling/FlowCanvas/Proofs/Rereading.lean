import FlowCanvas.Proofs.Fitting

/-!
# Documents read, written and read again

Documents come in more forms than they are written in. Old files state the type of a block among its
data and the kind of a wire beside it, numbers may be spelled as texts, labels may be anything, and
reserved names may stand among the data. Reading brings all of this to one *normal form*
(`Block.Normal`), and the normal form is what writing and reading again leave as it is: the drawing
that was read comes back, block by block and wire by wire, under its name and with its first stamp.

`reread_iff` says so for every palette that declares no text twice, and for reading without a
palette. **One limit remains**: reading takes a property however deeply it is nested, and a document
with a property that is nested too deeply cannot be handed over. Nothing else is in the way.

What a type declares twice would be brought to both kinds in turn, and the first kind might not take
what the second one left.
-/

namespace FlowCanvas.Document

open Checks

variable {palette : Option Palette} {r : BlockRecord} {b : Block}

/-! ### What reading leaves -/

/-- The type of a block is never empty. -/
theorem BlockRecord.typeId_ne_empty (r : BlockRecord) : r.typeId ≠ "" := by
  have hkept : ∀ {s t : String}, (if s != "" then some s else none) = some t → t ≠ "" := by
    intro s t h
    split at h
    · next hne =>
      rw [← Option.some.inj h]
      simpa using hne
    · exact absurd h (by simp)
  have hstated : ∀ {key t : String}, r.stated? key = some t → t ≠ "" := by
    intro key t h
    unfold stated? at h
    split at h
    · exact hkept h
    · exact absurd h (by simp)
  unfold typeId
  dsimp only
  rcases hfirst : Option.or _ (r.stated? "nodeType") with - | t
  · decide
  · rcases Option.or_eq_some_iff.1 hfirst with hown | ⟨-, hnode⟩
    · rcases Option.or_eq_some_iff.1 hown with hown | ⟨-, hplugin⟩
      · split at hown
        · exact hkept hown
        · exact absurd hown (by simp)
      · exact hstated hplugin
    · exact hstated hnode

theorem separate_specsOf
    (hp : ∀ p, palette = some p → ∀ t ∈ p.types, PropertySpec.Separate t.properties)
    (type : String) : PropertySpec.Separate (specsOf palette type) := by
  rcases hpalette : palette with - | p
  · exact .nil
  · rcases ht : p.get? type with - | t
    · simp only [specsOf, Option.bind_some, ht]
      exact .nil
    · simp only [specsOf, Option.bind_some, ht]
      exact hp p hpalette t (List.mem_of_find?_eq_some ht)

/-- **What a record is read as is in normal form**, and the names that its type declares can be
names. -/
theorem BlockRecord.normal_of_toBlock
    (hp : ∀ p, palette = some p → ∀ t ∈ p.types, PropertySpec.Separate t.properties)
    (hposition : ∃ x y, r.position = .ofFloats x y) (hnames : (Fields.keys r.data).Nodup)
    (h : r.toBlock palette = .ok b) :
    b.Normal palette ∧ ∀ spec ∈ specsOf palette b.type, spec.name.isName = true := by
  obtain ⟨properties, hcoerce, rfl⟩ := toBlock_eq_ok_iff.1 h
  have hdistinct : (Fields.keys properties).Nodup := by
    rw [keys_coerceDeclared hcoerce]
    exact hnames.sublist (List.filter_sublist.map Prod.fst)
  refine ⟨⟨⟨hposition, rfl, hdistinct, unreserved_of_toBlock h⟩, r.typeId_ne_empty, r.labelRead_eq,
    ?_⟩, isName_of_coerceDeclared hcoerce⟩
  intro spec hspec e he hname
  refine Kind.coerce_eq_self_iff.2 ?_
  exact isForm_of_coerceDeclared (separate_specsOf hp r.typeId) hcoerce hspec hname
    (Fields.get?_of_mem hdistinct he)

/-- A drawing is read from a value through a document. -/
theorem exists_of_ofValue {v : Value} {d : Drawing} (h : Drawing.ofValue palette v = .ok d) :
    ∃ source, ofInput v = .ok source ∧ source.toDrawing palette = .ok d := by
  unfold Drawing.ofValue at h
  rcases hinput : ofInput v with complaints | source
  · rw [hinput] at h
    exact absurd h (by simp [open?])
  · rw [hinput] at h
    exact ⟨source, rfl, h⟩

/-- **Every block that is read is in normal form**, if no name is repeated in the objects of the
value that it is read from. -/
theorem normal_of_toDrawing
    (hp : ∀ p, palette = some p → ∀ t ∈ p.types, PropertySpec.Separate t.properties)
    {v : Value} (hv : v.settled = v) {source : Document} (hsource : ofInput v = .ok source)
    {d : Drawing} (h : source.toDrawing palette = .ok d) :
    ∀ b ∈ d.blocks, b.Normal palette ∧
      ∀ spec ∈ specsOf palette b.type, spec.name.isName = true := by
  intro b hb
  obtain ⟨r, hr, hrb⟩ := Canvas.exists_of_forall₂ (toDrawing_eq_ok h).2.1 hb
  obtain ⟨hposition, hnames⟩ := ofInput_eq_ok hsource r hr
  exact BlockRecord.normal_of_toBlock hp hposition (hnames hv) hrb

/-- A wire that is read maps nothing where it is simple. -/
theorem WireRecord.simple_toWire (w : WireRecord) :
    w.toWire.kind = some .simple → w.toWire.mapping = [] := by
  intro hkind
  have hsimple : w.kindStated = .simple := Option.some.inj hkind
  rw [toWire, hsimple]
  rfl

/-- Every wire that is read can be written. -/
theorem storable_of_toDrawing {source : Document} {d : Drawing}
    (h : source.toDrawing palette = .ok d) :
    ∀ w ∈ d.wires, w.Storable ∧ (w.kind = some .simple → w.mapping = []) := by
  intro w hw
  rw [(toDrawing_eq_ok h).2.2] at hw
  obtain ⟨record, -, rfl⟩ := List.mem_map.1 hw
  exact ⟨Canvas.storable_toWire record, record.simple_toWire⟩

/-- What is read has the name and the first stamp of the document. -/
theorem heading_of_toDrawing {document : Document} {d : Drawing}
    (h : document.toDrawing palette = .ok d) :
    d.name = some document.metadata.name ∧ d.created = some document.metadata.created := by
  unfold toDrawing at h
  split at h
  · exact absurd h (by simp)
  · obtain ⟨blocks, -, rfl⟩ := map_eq_ok_iff.1 h
    exact ⟨rfl, rfl⟩

/-- A drawing that was read from a document fits together when it is written. -/
theorem linked_of_toDrawing {document : Document} {d : Drawing}
    (h : document.toDrawing palette = .ok d) (htypes : ∀ b ∈ d.blocks, b.type ≠ "")
    (m : Metadata) : (written m d).Linked palette := by
  obtain ⟨hlinked, -, hwires⟩ := toDrawing_eq_ok h
  obtain ⟨hobeys, hids⟩ := linked_iff.1 hlinked
  have hwireIds : (written m d).wires.map WireRecord.id = document.wires.map WireRecord.id := by
    rw [written, hwires, List.map_map, List.map_map]
    rfl
  rw [linked_iff, outline_written htypes, outline_of_toDrawing h, hwireIds]
  exact ⟨hobeys, hids⟩

/-- What a drawing says of itself goes into the document unless it is empty. -/
theorem some_of_firstGiven {own stated : String} {default : Value} (hown : some own ≠ some "")
    (h : firstGiven [.ofText? none, .ofText? (some own)] default = .text stated) :
    some stated = some own := by
  have hnonempty : own ≠ "" := fun hempty ↦ hown (congrArg some hempty)
  rw [firstGiven, if_neg (by simp [Value.truthy, Value.ofText?]), firstGiven_name hnonempty] at h
  exact congrArg some (Value.text.inj h).symm

/-! ### The main result -/

/-- **Reading is a normalisation that writing preserves.** Let a document be read, with a palette
whose types declare no text twice or with none, from a value in whose objects no name is repeated or
from a text; and let JSON be able to carry the properties of the drawing. Then the drawing is
written down with nothing said about it, at whatever time. Read again, it comes back with its blocks
and its wires, and with its name and its first stamp unless they are empty, **exactly if** no
property is nested too deeply. -/
theorem reread_iff
    (hp : ∀ p, palette = some p → ∀ t ∈ p.types, PropertySpec.Separate t.properties)
    {v : Value} (hv : v.settled = v) {d : Drawing} (hd : Drawing.ofValue palette v = .ok d)
    (hcarried : ∀ b ∈ d.blocks, ∀ e ∈ b.properties, e.2.obstacle? = none) (clock : Clock) :
    ∃ document, ofDrawing clock {} d = .ok document ∧
      ((∃ w again, document.handedOver = .ok w ∧ Drawing.ofValue palette w = .ok again ∧
          again.blocks = d.blocks ∧ again.wires = d.wires ∧
          (d.name ≠ some "" → again.name = d.name) ∧
          (d.created ≠ some "" → again.created = d.created)) ↔
        ∀ b ∈ d.blocks, ∀ e ∈ b.properties, e.2.fitsDepth = true) := by
  obtain ⟨source, hsource, hopen⟩ := exists_of_ofValue hd
  have hread := normal_of_toDrawing hp hv hsource hopen
  have hnormal : ∀ b ∈ d.blocks, b.Normal palette := fun b hb ↦ (hread b hb).1
  have hstorable := storable_of_toDrawing hopen
  -- There is one document that the drawing is written as, and its value is read as it stands.
  obtain ⟨m, hname, hcreated, hwritten⟩ := ofDrawing_eq_written (fun b hb ↦ (hnormal b hb).listed)
    (fun w hw ↦ (hstorable w hw).1) clock none none none
  have hlinked := linked_of_toDrawing hopen (fun b hb ↦ (hnormal b hb).type) m
  refine ⟨written m d, hwritten, ?_, ?_⟩
  · rintro ⟨w, again, hover, -⟩
    exact ((handedOver_normal hnormal hcarried).1 hover).1
  · intro hdepth
    let again : Drawing := { d with name := some m.name, created := some m.created }
    refine ⟨_, again, (handedOver_normal hnormal hcarried).2 ⟨hdepth, rfl⟩, ?_, rfl, rfl,
      fun hgiven ↦ ?_, fun hgiven ↦ ?_⟩
    · rw [opened_toValue (portable_of_normal hnormal hcarried)]
      exact (toDrawing_normal hlinked hnormal hstorable).2 ⟨fun b hb ↦ (hread b hb).2, rfl⟩
    · rw [(heading_of_toDrawing hopen).1] at hname hgiven ⊢
      exact some_of_firstGiven hgiven hname
    · rw [(heading_of_toDrawing hopen).2] at hcreated hgiven ⊢
      exact some_of_firstGiven hgiven hcreated

/-- An old file: the types stand among the data, one of them under a name that is read as a property
too, a number is a text, a label is a number, and the wire says beside its data what it maps. -/
theorem reread_old_document :
    let source : Document :=
      { version := "0.9", metadata := ⟨"flow", "then", "now"⟩
        blocks := [⟨"a", none, .origin,
            [("nodeType", .text "main"), ("label", .int 7), ("width", .text "500")], none⟩,
          ⟨"b", some "", .origin,
            [("pluginId", .text "debug"), ("onDelete", .null), ("note", .list [.int 1])], some "a"⟩]
        wires := [⟨"w", "a", "b", some .functionCall, some [("x", "y")], none⟩] }
    let d : Drawing :=
      { blocks := [{ id := "a", type := "main"
                     properties := [("nodeType", .text "main"), ("width", .int 500)] },
          { id := "b", type := "debug", parent := some "a"
            properties := [("note", .list [.int 1])] }]
        wires := [⟨"w", "a", "b", some .functionCall, [("x", .text "y")]⟩]
        name := some "flow", created := some "then" }
    let clock : Clock := ⟨2025, 1, 1, 10, 0, 0, 0⟩
    Drawing.ofValue (some .bundled) source.toValue = .ok d ∧
      ∃ document w again, ofDrawing clock {} d = .ok document ∧ document.handedOver = .ok w ∧
        Drawing.ofValue (some .bundled) w = .ok again ∧ again.blocks = d.blocks ∧
        again.wires = d.wires ∧ (d.name ≠ some "" → again.name = d.name) ∧
        (d.created ≠ some "" → again.created = d.created) := by
  intro source d clock
  have hportable : source.Portable := by
    refine ⟨fun r hr ↦ ?_, fun w hw data hdata ↦ ?_⟩
    · simp only [source, List.mem_cons, List.not_mem_nil, or_false] at hr
      rcases hr with rfl | rfl
      · exact ⟨⟨0, 0, rfl⟩, by decide⟩
      · exact ⟨⟨0, 0, rfl⟩, by decide⟩
    · rw [List.mem_singleton.1 hw] at hdata
      exact absurd hdata (by simp)
  have hread : Drawing.ofValue (some .bundled) source.toValue = .ok d := by
    rw [opened_toValue hportable]
    rfl
  have hseparate : ∀ p, some Palette.bundled = some p → ∀ t ∈ p.types,
      PropertySpec.Separate t.properties := by
    rintro p ⟨⟩ t ht
    exact (Palette.bundled_tidy t ht).once
  have hsettled : source.toValue.settled = source.toValue := by
    simp [source, toValue, Metadata.toValue, BlockRecord.toValue, WireRecord.toValue, fieldIf,
      kindValue, mappingValue, Fields.mapValues, Point.toValue, Point.origin, Point.ofFloats,
      Value.portable, Value.portableFields, Value.portableItems, Value.settled, Value.settledFields,
      Value.settledEntries, Value.settledItems, Fields.ofList, Fields.merge, Fields.set]
  obtain ⟨document, hwritten, hback⟩ := reread_iff hseparate hsettled hread (by decide) clock
  obtain ⟨w, again, hagain⟩ := hback.2 (by decide)
  exact ⟨hread, document, w, again, hwritten, hagain⟩

/-- **A document that is read and cannot be written again.** One property holds 300 lists inside one
another; the drawing is written down and the document cannot be handed over. -/
theorem deep_document_not_rewritten :
    let source : Document :=
      { version := currentVersion, metadata := ⟨"flow", "then", "now"⟩
        blocks := [⟨"a", some "debug", .origin, [("deep", wrapped 300)], none⟩], wires := [] }
    let d : Drawing :=
      { blocks := [{ id := "a", type := "debug", properties := [("deep", wrapped 300)] }]
        wires := [], name := some "flow", created := some "then" }
    let clock : Clock := ⟨2025, 1, 1, 10, 0, 0, 0⟩
    Drawing.ofValue (some .bundled) source.toValue = .ok d ∧ ∃ document,
      ofDrawing clock {} d = .ok document ∧ document.handedOver = .error .tooDeep := by
  intro source d clock
  have hportable : source.Portable := by
    refine ⟨fun r hr ↦ ?_, fun w hw ↦ absurd hw List.not_mem_nil⟩
    rw [List.mem_singleton.1 hr]
    refine ⟨⟨0, 0, rfl⟩, fun e he ↦ ?_⟩
    rw [List.mem_singleton.1 he]
    exact obstacle?_wrapped 300
  have hlisted : ∀ b ∈ d.blocks, b.Listed := by
    intro b hb
    rw [List.mem_singleton.1 hb]
    exact ⟨⟨0, 0, rfl⟩, rfl, List.nodup_singleton _, by simp [Canvas.reservedNames]⟩
  obtain ⟨m, -, -, hwritten⟩ := ofDrawing_eq_written hlisted (fun w hw ↦ absurd hw List.not_mem_nil)
    clock none none none
  refine ⟨?_, written m d, hwritten, ?_⟩
  · rw [opened_toValue hportable]
    rfl
  · refine handedOver_eq_error rfl ?_
    have hdeep : hindrance? (wrapped 300) = some .tooDeep := hindrance?_wrapped (by decide)
    rw [BlockRecord.written, List.findSome?_cons, List.findSome?_cons, List.findSome?_cons, hdeep]
    rfl

end FlowCanvas.Document
