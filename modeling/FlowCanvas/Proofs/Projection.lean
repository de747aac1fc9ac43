import FlowCanvas.Proofs.Contents
import FlowCanvas.Proofs.Interruption
import FlowCanvas.Proofs.Lowering

/-!
# The program of a canvas

A canvas is lowered at any moment of a run, and the program shows the canvas as it is: a node for
each block and a connection for each wire, in their order, with nothing left out but what only
describes the canvas (`Program.Shows`). Children and connections that are looked up in the program
are those that are looked up on the canvas, in the same order.

That lowering comes through rests on the rules of the graph, which hold of consistent and nested
blocks (`Drawing.obeys_iff_nested`), and on everything on a canvas having been copied before
(`Canvas.copyable_of_run`). So a canvas is lowered **exactly if** its blocks are nested
(`Canvas.isLowered_iff`). The one thing that can undo nesting is a block that evicts a container,
and that takes a load that was interrupted.
-/

namespace FlowCanvas

/-! ### What a program shows of a canvas -/

namespace Program

/-- A node shows a block: all of it but the place, and its properties in their order, without the
names of the canvas and without what can be called. -/
structure Node.Shows (n : Node) (b : Block) : Prop where
  id : n.id = b.id
  type : b.type ≠ "" → n.type = b.type
  label : n.label = b.label
  parent : n.parent = b.parent
  entries : n.entries = b.entries.filter fun e ↦
    decide ((∀ name ∈ canvasNames, e.1 ≠ .text name) ∧ e.2 ≠ .callback)

/-- A connection shows a wire. It has a mapping exactly if it is a call. -/
structure Connection.Shows (k : Connection) (w : Wire) : Prop where
  source : k.source = w.source
  target : k.target = w.target
  kind : w.kind = some k.kind
  mapping : k.mapping = if k.kind = .functionCall then some w.mapping else none

/-- **A program shows a canvas**, and so do its look-ups. -/
structure Shows (program : Program) (c : Canvas) : Prop where
  nodes : List.Forall₂ Node.Shows program.nodes c.blocks
  connections : List.Forall₂ Connection.Shows program.connections c.wires
  inside : ∀ id, List.Forall₂ Node.Shows (program.childrenOf (some id)) (c.childrenOf id)
  top : List.Forall₂ Node.Shows (program.childrenOf none) (c.blocks.filter fun b ↦ b.parent == none)
  outgoing : ∀ id, List.Forall₂ Connection.Shows (program.outgoing id)
    (c.wires.filter fun w ↦ w.source == id)
  incoming : ∀ id, List.Forall₂ Connection.Shows (program.incoming id)
    (c.wires.filter fun w ↦ w.target == id)

/-- What belongs to the program, without the cases by which it is found. -/
theorem keepsEntry_eq (e : Value × Value) :
    keepsEntry e = decide ((∀ name ∈ canvasNames, e.1 ≠ .text name) ∧ e.2 ≠ .callback) := by
  obtain ⟨name, value⟩ := e
  rw [Bool.eq_iff_iff, decide_eq_true_eq]
  cases name with
  | text s =>
    have hname : (∀ name ∈ canvasNames, Value.text s ≠ .text name) ↔ s ∉ canvasNames :=
      ⟨fun h hs ↦ h s hs rfl, fun h name hname heq ↦ h (Value.text.inj heq ▸ hname)⟩
    rw [hname]
    cases value <;> simp [keepsEntry, keeps]
  | _ => cases value <;> simp [keepsEntry]

theorem Node.shows_ofBlock {b : Block} (h : ∀ x ∈ b.strays, x.name.text? = none) :
    (Node.ofBlock b).Shows b where
  id := rfl
  type := fun hne ↦ if_pos (by simpa using hne)
  label := rfl
  parent := rfl
  entries := by
    rw [Node.entries_ofBlock h]
    exact List.filter_congr fun e _ ↦ keepsEntry_eq e

theorem Connection.shows_ofWire {w : Wire} (h : w.Storable) : (Connection.ofWire w).Shows w := by
  obtain ⟨kind, hkind⟩ := h.kind
  have hget : w.kind.getD .simple = kind := by rw [hkind, Option.getD_some]
  refine ⟨rfl, rfl, ?_, rfl⟩
  rw [hkind]
  exact congrArg some hget.symm

/-- **What a canvas is lowered to shows it.** -/
theorem shows_lowered {c : Canvas} (hblocks : ∀ b ∈ c.blocks, ∀ x ∈ b.strays, x.name.text? = none)
    (hwires : ∀ w ∈ c.wires, w.Storable) (name : Option String) :
    (lowered (c.drawing name)).Shows c := by
  have hnodes : List.Forall₂ Node.Shows (c.blocks.map Node.ofBlock) c.blocks :=
    List.forall₂_map_left_iff.2 (List.forall₂_same.2 fun b hb ↦ Node.shows_ofBlock (hblocks b hb))
  have hconnections : List.Forall₂ Connection.Shows (c.wires.map Connection.ofWire) c.wires :=
    List.forall₂_map_left_iff.2
      (List.forall₂_same.2 fun w hw ↦ Connection.shows_ofWire (hwires w hw))
  refine ⟨hnodes, hconnections, fun id ↦ ?_, ?_, fun id ↦ ?_, fun id ↦ ?_⟩
  · exact List.rel_filter (fun n b h ↦ by simp only [h.parent]) hnodes
  · exact List.rel_filter (fun n b h ↦ by simp only [h.parent]) hnodes
  · exact List.rel_filter (fun k w h ↦ by simp only [h.source]) hconnections
  · exact List.rel_filter (fun k w h ↦ by simp only [h.target]) hconnections

end Program

/-! ### Which canvases are lowered -/

/-- A consistent graph obeys the rules exactly if it is nested. -/
theorem Drawing.obeys_iff_nested {p : Palette} {d : Drawing} (hc : Consistent p d.blocks d.wires) :
    d.outline.Obeys (some p) ↔ Nested p d.blocks := by
  refine ⟨fun h ↦ ⟨fun b hb q hq ↦ ?_, fun b hb hcontainer ↦ ?_⟩, obeys_of_nested hc⟩
  · obtain ⟨s, hs, hid, htop, hrules⟩ := h.parents b.spot (List.mem_map_of_mem hb) q hq
    obtain ⟨k, hk, rfl⟩ := List.mem_map.1 hs
    exact ⟨k, hk, hid, (hrules p rfl).1, htop⟩
  · rcases hq : b.parent with - | q
    · rfl
    · obtain ⟨k, -, -, -, hrules⟩ := h.parents b.spot (List.mem_map_of_mem hb) q hq
      have hplain : p.isContainer b.type = false := (hrules p rfl).2
      exact absurd hcontainer (by simp [hplain])

namespace Canvas

variable {p : Palette} {actions : List Action}

/-- Lowering a consistent canvas finds a rule broken exactly if its blocks are not nested. -/
theorem integrity_iff_not_nested {c : Canvas} (hc : Consistent p c.blocks c.wires) :
    (∃ fault, Program.ofDrawing (some p) (c.drawing none) = .error (.integrity fault)) ↔
      ¬ Nested p c.blocks := by
  rw [Program.ofDrawing_integrity_iff, Drawing.obeys_iff_nested (d := c.drawing none) hc]
  rfl

/-- **The canvas of a run is lowered exactly if its blocks are nested.** -/
theorem isLowered_iff (h : ∀ a ∈ actions, a.Checked) :
    (∃ program, Program.ofDrawing (some p) ((run p actions).drawing none) = .ok program) ↔
      Nested p (run p actions).blocks := by
  have hcopy : ∀ b ∈ (run p actions).blocks, (Program.Node.ofBlock b).isCopyable = true := by
    intro b hb
    have hb := copyable_of_run (p := p) h b hb
    exact (Program.Node.isCopyable_ofBlock hb.strays).2 fun e he _ ↦ hb.entries e he
  simp only [Program.ofDrawing_eq_ok_iff, exists_and_left, exists_eq, and_true]
  rw [Drawing.obeys_iff_nested (consistent_of_run h)]
  exact and_iff_left hcopy

/-- **Every canvas is lowered, and the program shows it.** For every palette, and whatever is asked
of the canvas in whatever words, drawings being loaded from documents:

* the canvas is lowered all along a run exactly if none of its actions evicts a container;
* none does if no load is interrupted;
* whatever a canvas is lowered to shows it. -/
theorem lowered_of_run (p : Palette) {actions : List Action} (h : ∀ a ∈ actions, a.Checked) :
    ((∀ early, early <+: actions → ∃ program,
        Program.ofDrawing (some p) ((run p early).drawing none) = .ok program) ↔
      ∀ early a, early ++ [a] <+: actions →
        ¬ Evicts p (run p early) (a.effect p (run p early)).events) ∧
    ((∀ a ∈ actions, ¬ a.Interrupted p) →
      ∃ program, Program.ofDrawing (some p) ((run p actions).drawing none) = .ok program) ∧
    ∀ program, Program.ofDrawing (some p) ((run p actions).drawing none) = .ok program →
      program.Shows (run p actions) := by
  refine ⟨?_, fun hcalm ↦ (isLowered_iff h).2 (sound_of_calm h hcalm).nested, fun program hok ↦ ?_⟩
  · rw [← nested_along_iff h]
    refine forall₂_congr fun early hearly ↦ isLowered_iff fun a ha ↦ h a (hearly.subset ha)
  · obtain ⟨-, -, rfl⟩ := Program.ofDrawing_eq_ok_iff.1 hok
    exact Program.shows_lowered (fun b hb ↦ (copyable_of_run h b hb).strays) (wires_of_run h) none

/-- A block is dropped into the entry point and called from it: the canvas is lowered, and the
program shows it. -/
theorem lowered_after_drop :
    let p := Palette.bundled
    let actions : List Action := [.follow (.drop { type := .text "main" }),
      .follow (.drop { type := .text "debug" }),
      .follow (.connect (.text "node_0") (.text "node_1")
        (.object [("connectionType", .text "function_call"),
          ("variableMapping", .object [("a", .int 1)])]))]
    (∀ a ∈ actions, a.Checked) ∧ (∀ a ∈ actions, ¬ a.Interrupted p) ∧
      (run p actions).blocks.map Block.parent = [none, some "node_0"] ∧
      ∃ program, Program.ofDrawing (some p) ((run p actions).drawing none) = .ok program ∧
        program.Shows (run p actions) := by
  intro p actions
  have hchecked : ∀ a ∈ actions, a.Checked := by simp [actions, Action.Checked]
  have hcalm : ∀ a ∈ actions, ¬ a.Interrupted p := by
    simp [actions, Action.Interrupted, Action.drawing?]
  obtain ⟨-, hlowered, hshows⟩ := lowered_of_run p hchecked
  obtain ⟨program, hprogram⟩ := hlowered hcalm
  exact ⟨hchecked, hcalm, by decide +kernel, program, hprogram, hshows program hprogram⟩

/-- **A canvas that is not lowered.** Opening a document with a container, a block inside it and an
overlong id is interrupted; the block that is made next takes the id of the container. -/
theorem evicted_container_not_lowered :
    let p := Palette.bundled
    let document : Document :=
      { version := Document.currentVersion
        metadata := ⟨"flow", "then", "now"⟩
        blocks := [⟨"node_0", some "function-definition", .origin, [], none⟩,
          ⟨"node_5", some "debug", .origin, [], some "node_0"⟩,
          ⟨overlongId, some "debug", .origin, [], none⟩]
        wires := [] }
    let actions : List Action :=
      [.openDocument (.ok document), .follow (.create { type := .text "debug" })]
    (∀ a ∈ actions, a.Checked) ∧
      ∃ fault, Program.ofDrawing (some p) ((run p actions).drawing none) =
        .error (.integrity fault) := by
  intro p document actions
  let blocks : List Block := [{ id := "node_0", type := "function-definition" },
    { id := "node_5", type := "debug", parent := some "node_0" }]
  have hnested : Nested p blocks := by
    refine ⟨?_, ?_⟩
    · simpa [blocks] using (by decide : p.isContainer "function-definition" = true)
    · simpa [blocks] using (by decide : p.isContainer "debug" = false)
  have hload : run p [.openDocument (.ok document)] = _ :=
    run_interrupting blocks [] (by decide) (by simp)
      ⟨by decide, by decide, by simp, by decide +kernel, by simp⟩ hnested (by decide)
  have hchecked : ∀ a ∈ actions, a.Checked := by simp [actions, Action.Checked]
  have hrun : run p actions = ((Action.follow (.create { type := .text "debug" })).effect p
      { empty with
        blocks := (Drawing.interrupting blocks []).blocks
        wires := []
        created := some "then" }).canvas := by
    rw [← hload]
    exact run_concat p [.openDocument (.ok document)] _
  have hmade : ((run p actions).block? "node_0").map Block.type = some "debug" := by
    rw [hrun]
    decide +kernel
  have hinner : (run p actions).blocks[1]?.bind Block.parent = some "node_0" := by
    rw [hrun]
    decide +kernel
  have hconsistent := consistent_of_run (p := p) hchecked
  refine ⟨hchecked, (integrity_iff_not_nested hconsistent).2 fun hnested ↦ ?_⟩
  obtain ⟨inner, hget, hparent⟩ := Option.bind_eq_some_iff.1 hinner
  obtain ⟨k, hk, hid, hcontainer, -⟩ := hnested.parents inner (List.mem_of_getElem? hget) _ hparent
  rw [(block?_eq_some_iff hconsistent.blockIds).2 ⟨hk, hid⟩, Option.map_some, Option.some.injEq]
    at hmade
  rw [hmade] at hcontainer
  exact absurd hcontainer (by decide)

end Canvas

end FlowCanvas
