import FlowCanvas.Proofs.RoundTrip

/-!
# Which drawings are lowered

Lowering fails for two reasons: the drawing breaks a rule of the graph, or a property that goes into
the program is nested too deeply to be copied. `Program.ofDrawing_eq_ok_iff` says that there is no
third.

The first reason is the one for which a document is refused. `checks_agree` compares the two checks
on a drawing and the document it is written as: the document passes **exactly if** lowering finds no
rule broken and the wires have distinct ids, which lowering does not ask. So what was read from a
document is never refused for a broken rule.

The second reason has no counterpart. A document with a deep property passes its check, and the
drawing that it came from is not lowered (`deep_property_not_lowered`).

Properties are lowered in their order, whatever their names are (`Node.entries_ofBlock`). A node
keeps those that texts name apart from the stray ones, as a block does; weaving them together again
gives the list that was taken apart (`Stray.weave_ofEntries`).
-/

namespace FlowCanvas

/-! ### Entries apart and together -/

namespace Stray

/-- The entries that texts name. -/
def named (entries : List (Value × Value)) : Fields Value :=
  entries.filterMap fun e ↦ e.1.text?.map fun name ↦ (name, e.2)

/-- An entry under a text. -/
def entry (e : String × Value) : Value × Value := (.text e.1, e.2)

theorem named_map_entry (fields : Fields Value) : named (fields.map entry) = fields := by
  rw [named, List.filterMap_map]
  exact List.filterMap_some

theorem named_cons_text (name : String) (value : Value) (rest : List (Value × Value)) :
    named ((.text name, value) :: rest) = (name, value) :: named rest :=
  rfl

theorem named_cons_stray {name : Value} (hname : name.text? = none) (value : Value)
    (rest : List (Value × Value)) : named ((name, value) :: rest) = named rest := by
  simp [named, hname]

/-- Weaving stray entries in leaves the others as they are. -/
theorem named_weave (fields : Fields Value) {strays : List Stray}
    (h : ∀ s ∈ strays, s.name.text? = none) : named (weave fields strays) = fields := by
  suffices hfold : ∀ acc : List (Value × Value),
      named (strays.foldl (fun acc s ↦ acc.take s.place ++ (s.name, s.value) :: acc.drop s.place)
        acc) = named acc from (hfold _).trans (named_map_entry fields)
  induction strays with
  | nil => exact fun _ ↦ rfl
  | cons s rest ih =>
    obtain ⟨hs, hrest⟩ := List.forall_mem_cons.1 h
    intro acc
    rw [List.foldl_cons, ih hrest]
    calc
      named (acc.take s.place ++ (s.name, s.value) :: acc.drop s.place)
        = named (acc.take s.place) ++ named ((s.name, s.value) :: acc.drop s.place) :=
          List.filterMap_append
      _ = named (acc.take s.place) ++ named (acc.drop s.place) := by rw [named_cons_stray hs]
      _ = named (acc.take s.place ++ acc.drop s.place) := List.filterMap_append.symm
      _ = named acc := by rw [List.take_append_drop]

theorem ofEntries_cons_stray (place : Nat) {name : Value} (hname : name.text? = none)
    (value : Value) (rest : List (Value × Value)) :
    ofEntries place ((name, value) :: rest) =
      ⟨place, name, value⟩ :: ofEntries (place + 1) rest := by
  cases name with
  | text s => simp [Value.text?] at hname
  | _ => rfl

/-- **Entries that are taken apart are woven together again.** -/
theorem weave_ofEntries (entries : List (Value × Value)) :
    weave (named entries) (ofEntries 0 entries) = entries := by
  -- The entries before the place are in order already; those after it still lack the stray ones.
  suffices hfold : ∀ rest done : List (Value × Value),
      (ofEntries done.length rest).foldl
        (fun acc s ↦ acc.take s.place ++ (s.name, s.value) :: acc.drop s.place)
        (done ++ (named rest).map entry) = done ++ rest from hfold entries []
  intro rest
  induction rest with
  | nil => exact fun done ↦ rfl
  | cons e rest ih =>
    intro done
    obtain ⟨name, value⟩ := e
    have hnext := ih (done ++ [(name, value)])
    rw [List.length_append, List.length_singleton, List.append_assoc, List.append_assoc] at hnext
    rcases hname : name.text? with - | s
    · rw [ofEntries_cons_stray _ hname, named_cons_stray hname, List.foldl_cons]
      simpa using hnext
    · obtain rfl := Value.text?_eq_some_iff.1 hname
      exact hnext

end Stray

namespace Program

/-! ### The nodes of a program -/

theorem named_filter_keeps (entries : List (Value × Value)) :
    Stray.named (entries.filter keepsEntry) = (Stray.named entries).filter keeps := by
  induction entries with
  | nil => rfl
  | cons e rest ih =>
    obtain ⟨name, value⟩ := e
    rcases hname : name.text? with - | s
    · rw [Stray.named_cons_stray hname, List.filter_cons]
      split
      · rw [Stray.named_cons_stray hname, ih]
      · exact ih
    · obtain rfl := Value.text?_eq_some_iff.1 hname
      rw [Stray.named_cons_text, List.filter_cons, List.filter_cons]
      show Stray.named (if keeps (s, value) = true then _ else _) = _
      split
      · rw [Stray.named_cons_text, ih]
      · exact ih

/-- **The properties of a node are those of its block that belong to the program, in their
order.** -/
theorem Node.entries_ofBlock {b : Block} (h : ∀ s ∈ b.strays, s.name.text? = none) :
    (Node.ofBlock b).entries = b.entries.filter keepsEntry := by
  have hnamed : b.properties.filter keeps = Stray.named (b.entries.filter keepsEntry) := by
    rw [named_filter_keeps, Block.entries, Stray.named_weave b.properties h]
  calc
    (Node.ofBlock b).entries
      = Stray.weave (b.properties.filter keeps) (Stray.ofEntries 0 (b.entries.filter keepsEntry)) :=
        rfl
    _ = b.entries.filter keepsEntry := by rw [hnamed, Stray.weave_ofEntries]

theorem Node.isCopyable_ofBlock {b : Block} (h : ∀ s ∈ b.strays, s.name.text? = none) :
    (Node.ofBlock b).isCopyable = true ↔
      ∀ e ∈ b.entries, keepsEntry e = true → e.2.isCopyable = true := by
  rw [Node.isCopyable, Node.entries_ofBlock h, List.all_eq_true]
  simp only [List.mem_filter, and_imp]

/-! ### Lowering -/

/-- What a drawing is lowered to. -/
def lowered (d : Drawing) : Program := ⟨d.blocks.map Node.ofBlock, d.wires.map Connection.ofWire⟩

variable {palette : Option Palette} {d : Drawing}

/-- **A drawing is lowered exactly if it obeys the rules and its nodes can be copied.** -/
theorem ofDrawing_eq_ok_iff {program : Program} :
    ofDrawing palette d = .ok program ↔ d.outline.Obeys palette ∧
      (∀ b ∈ d.blocks, (Node.ofBlock b).isCopyable = true) ∧ program = lowered d := by
  rw [← Drawing.check_eq_ok_iff, ofDrawing]
  rcases d.check palette with fault | done
  · simp
  · simp only [true_and, List.all_map, List.all_eq_true, Function.comp_apply]
    split
    · next hcopyable =>
      rw [Except.ok.injEq, eq_comm, and_iff_right hcopyable]
      rfl
    · next hdeep => simp [hdeep]

/-- Lowering finds a rule broken exactly if there is one. -/
theorem ofDrawing_integrity_iff :
    (∃ fault, ofDrawing palette d = .error (.integrity fault)) ↔ ¬ d.outline.Obeys palette := by
  rw [← Drawing.check_eq_ok_iff, ofDrawing]
  rcases d.check palette with fault | done
  · simp
  · dsimp only
    split <;> simp

end Program

/-! ### The two checks -/

/-- What a drawing is made of by its types: coordinates are floats, properties have texts for names,
and mappings map to texts. -/
structure Drawing.Plain (d : Drawing) : Prop where
  places : ∀ b ∈ d.blocks, ∃ x y, b.position = .ofFloats x y
  names : ∀ b ∈ d.blocks, b.strays = []
  mappings : ∀ w ∈ d.wires, ∃ mapping, w.mapping = Fields.mapValues .text mapping

/-- No property that goes into the program is nested too deeply to be copied. -/
def Drawing.Shallow (d : Drawing) : Prop :=
  ∀ b ∈ d.blocks, ∀ e ∈ b.entries, Program.keepsEntry e = true → e.2.isCopyable = true

namespace Document

/-- A drawing of the right types whose wires have kinds is written down. -/
theorem ofDrawing_isOk {d : Drawing} (hplain : d.Plain) (hkinds : ∀ w ∈ d.wires, w.kind ≠ none)
    (clock : Clock) (name created now : Option String) :
    ∃ document, ofDrawing clock ⟨.ofText? name, .ofText? created, .ofText? now⟩ d =
      .ok document := by
  have hwires : ∀ w ∈ d.wires, w.Storable := fun w hw ↦
    ⟨Option.ne_none_iff_exists'.1 (hkinds w hw), hplain.mappings w hw⟩
  obtain ⟨m, -, -, hwritten⟩ := ofDrawing_eq_merged hplain.places hplain.names hwires clock name
    created now
  exact ⟨merged m d, hwritten⟩

/-- A drawing that is written down is lowered without a fault of copying exactly if it is
shallow. -/
theorem isCopyable_iff_of_ofDrawing {clock : Clock} {heading : Heading} {d : Drawing}
    {document : Document} (h : ofDrawing clock heading d = .ok document) :
    (∀ b ∈ d.blocks, (Program.Node.ofBlock b).isCopyable = true) ↔ d.Shallow := by
  refine forall₂_congr fun b hb ↦ Program.Node.isCopyable_ofBlock ?_
  obtain ⟨r, -, hr⟩ := Canvas.exists_of_forall₂ (ofDrawing_eq_ok h).1.flip hb
  rw [(BlockRecord.ofBlock_eq_ok hr).1]
  simp

/-- **The two checks agree.** Take a drawing whose blocks have types and whose wires have kinds, and
a palette or none.

* If the drawing is made of what its types say, it is written down, under any heading.
* The document it is written as passes its check **exactly if** lowering the drawing finds no rule
  broken and the wires have distinct ids.
* The document passes and the drawing is shallow **exactly if** the drawing is lowered and the wires
  have distinct ids.
* What is read from a document, accepted with the palette, is lowered without a rule being
  broken. -/
theorem checks_agree (palette : Option Palette) (clock : Clock) {d : Drawing}
    (htypes : ∀ b ∈ d.blocks, b.type ≠ "") (hkinds : ∀ w ∈ d.wires, w.kind ≠ none) :
    (d.Plain → ∀ name created now : Option String, ∃ document,
      ofDrawing clock ⟨.ofText? name, .ofText? created, .ofText? now⟩ d = .ok document) ∧
    (∀ heading document, ofDrawing clock heading d = .ok document →
      (document.checkReferences palette = .ok () ↔
        (∀ fault, Program.ofDrawing palette d ≠ .error (.integrity fault)) ∧
          (d.wires.map Wire.id).Nodup) ∧
      (document.checkReferences palette = .ok () ∧ d.Shallow ↔
        (∃ program, Program.ofDrawing palette d = .ok program) ∧ (d.wires.map Wire.id).Nodup)) ∧
    ∀ source again, open? palette source = .ok again →
      ∀ fault, Program.ofDrawing palette again ≠ .error (.integrity fault) := by
  have hrules :
      ∀ {d : Drawing}, (∀ fault, Program.ofDrawing palette d ≠ .error (.integrity fault)) ↔
      d.outline.Obeys palette := by
    intro d
    rw [← not_iff_not, ← Program.ofDrawing_integrity_iff]
    simp
  refine ⟨fun hplain ↦ ofDrawing_isOk hplain hkinds clock, fun heading document hdocument ↦ ?_,
    fun source again hagain ↦ ?_⟩
  · have hcheck : document.checkReferences palette = .ok () ↔
        d.outline.Obeys palette ∧ (d.wires.map Wire.id).Nodup := by
      rw [checkReferences_eq_ok_iff, linked_iff, outline_of_ofDrawing htypes hdocument,
        wireIds_of_ofDrawing hdocument]
    refine ⟨by rw [hcheck, hrules], ?_⟩
    simp only [Program.ofDrawing_eq_ok_iff, exists_and_left, exists_eq, and_true]
    rw [hcheck, isCopyable_iff_of_ofDrawing hdocument, and_right_comm]
  · rcases source with complaints | document
    · simp [open?] at hagain
    · rw [hrules, outline_of_toDrawing hagain]
      exact (linked_iff.1 (toDrawing_eq_ok hagain).1).1

/-- A block inside the entry point and a call between them: the document passes, and the drawing is
lowered. -/
theorem checks_agree_nested :
    let p := Palette.bundled
    let d : Drawing :=
      { blocks := [{ id := "node_0", type := "main" },
          { id := "node_1", type := "debug", parent := some "node_0"
            properties := [("variable", .text "x")] }]
        wires := [{ id := "edge_0", source := "node_0", target := "node_1"
                    kind := some .functionCall, mapping := [("a", .text "x")] }] }
    (∀ b ∈ d.blocks, b.type ≠ "") ∧ (∀ w ∈ d.wires, w.kind ≠ none) ∧ d.Plain ∧
      (∃ program, Program.ofDrawing (some p) d = .ok program) ∧
      ∃ document, ofDrawing ⟨2025, 1, 1, 10, 0, 0, 0⟩
          ⟨.ofText? none, .ofText? none, .ofText? none⟩ d = .ok document ∧
        document.checkReferences (some p) = .ok () := by
  intro p d
  have htypes : ∀ b ∈ d.blocks, b.type ≠ "" := by decide
  have hkinds : ∀ w ∈ d.wires, w.kind ≠ none := by decide
  have hplain : d.Plain := by
    refine ⟨fun b hb ↦ ?_, by decide, fun w hw ↦ ?_⟩
    · simp only [d, List.mem_cons, List.not_mem_nil, or_false] at hb
      rcases hb with rfl | rfl <;> exact ⟨0, 0, rfl⟩
    · obtain rfl := List.mem_singleton.1 hw
      exact ⟨[("a", "x")], rfl⟩
  have hprogram : ∃ program, Program.ofDrawing (some p) d = .ok program := ⟨_, rfl⟩
  obtain ⟨hwritten, hagree, -⟩ := checks_agree (some p) ⟨2025, 1, 1, 10, 0, 0, 0⟩ htypes hkinds
  obtain ⟨document, hdocument⟩ := hwritten hplain none none none
  have hpasses := ((hagree _ document hdocument).2.2 ⟨hprogram, by decide⟩).1
  exact ⟨htypes, hkinds, hplain, hprogram, document, hdocument, hpasses⟩

/-- **A drawing that obeys all the rules and is not lowered.** One property holds 700 lists inside
one another; the document that the drawing is written as passes its check. -/
theorem deep_property_not_lowered :
    let p := Palette.bundled
    let d : Drawing :=
      { blocks := [{ id := "node_0", type := "debug", properties := [("deep", wrapped 700)] }] }
    d.Plain ∧ (d.wires.map Wire.id).Nodup ∧
      (∃ document, ofDrawing ⟨2025, 1, 1, 10, 0, 0, 0⟩
          ⟨.ofText? none, .ofText? none, .ofText? none⟩ d = .ok document ∧
        document.checkReferences (some p) = .ok ()) ∧
      Program.ofDrawing (some p) d = .error .tooDeep := by
  intro p d
  have hplain : d.Plain := by
    refine ⟨fun b hb ↦ ?_, by simp [d], by simp [d]⟩
    obtain rfl := List.mem_singleton.1 hb
    exact ⟨0, 0, rfl⟩
  have hobeys : d.outline.Obeys (some p) :=
    Drawing.obeys_of_nested ⟨by decide, by decide, by decide, by decide +kernel, by decide⟩
      ⟨by simp [d], by simp [d]⟩
  obtain ⟨document, hdocument⟩ :=
    ofDrawing_isOk hplain (by simp [d]) ⟨2025, 1, 1, 10, 0, 0, 0⟩ none none none
  refine ⟨hplain, List.nodup_nil, ⟨document, hdocument, ?_⟩, ?_⟩
  · rw [checkReferences_eq_ok_iff, linked_iff, outline_of_ofDrawing (by simp [d]) hdocument,
      wireIds_of_ofDrawing hdocument]
    exact ⟨hobeys, List.nodup_nil⟩
  · have hdeep : ¬ d.Shallow := fun hshallow ↦ by
      have hcopyable : (wrapped 700).isCopyable = true :=
        hshallow _ (List.mem_singleton_self _) (.text "deep", wrapped 700)
          (List.mem_singleton_self _) rfl
      rw [Value.isCopyable, depth_wrapped] at hcopyable
      exact absurd hcopyable (by decide)
    rw [← isCopyable_iff_of_ofDrawing hdocument] at hdeep
    rw [Program.ofDrawing, Drawing.check_eq_ok_iff.2 hobeys]
    dsimp only
    rw [if_neg (by simpa [List.all_map] using hdeep)]

end Document

end FlowCanvas
