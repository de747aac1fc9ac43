import FlowCanvas.Proofs.Frames
import FlowCanvas.Proofs.Projection
import Mathlib.Data.List.InsertIdx

/-!
# The program follows the canvas

A canvas is edited, and lowered again. What has become of its program is an edit of the program that
was there before, **and of nothing else in it**:

* moving a block, giving it a parent and resolving its parent give its node the parent that the
  block has then (`Program.reparented`). Where the block is does not show;
* deleting a block takes its node away with the connections at it, and sets free the nodes inside it
  (`Program.without`);
* joining two blocks appends one connection (`Program.joined`), and deleting a wire takes away the
  one at its place (`Program.unjoined`);
* selecting changes nothing.

Each operation has one lemma for what its canvas is lowered to. That it is lowered at all rests on
nested blocks, which only making blocks can undo (`lowersTo_follow`).

Joining is the exception: after an interrupted load, the id of the new wire may be taken. The wire
is put in the place of the other then, and a connection is lost (`joined_over_wire`).
-/

namespace FlowCanvas

open Checks

/-! ### Edits of programs -/

namespace Program

/-- The program in which a node has another parent. -/
def reparented (program : Program) (id : String) (parent : Option String) : Program :=
  { program with
    nodes := program.nodes.map fun n ↦ if n.id = id then { n with parent := parent } else n }

/-- A node outside of another. -/
def Node.outside (id : String) (n : Node) : Node :=
  if n.parent = some id then { n with parent := none } else n

/-- The program without a node. The connections at the node go with it, and the nodes inside it are
inside none. -/
def without (program : Program) (id : String) : Program where
  nodes := (program.nodes.filter fun n ↦ n.id != id).map (Node.outside id)
  connections := program.connections.filter fun k ↦ k.source != id && k.target != id

/-- The program with one more connection. -/
def joined (program : Program) (k : Connection) : Program :=
  { program with connections := program.connections ++ [k] }

/-- The program without the connection at some place. -/
def unjoined (program : Program) (i : Nat) : Program :=
  { program with connections := program.connections.eraseIdx i }

end Program

namespace Canvas

variable {p : Palette} {c c' : Canvas} {id : String} {prog : Program}

/-- **A canvas is lowered to a program.** -/
def LowersTo (p : Palette) (c : Canvas) (prog : Program) : Prop :=
  Program.ofDrawing (some p) (c.drawing none) = .ok prog

/-- What a canvas is lowered to, if it is. -/
def program (c : Canvas) : Program := Program.lowered (c.drawing none)

theorem LowersTo.eq (h : LowersTo p c prog) : prog = c.program :=
  (Program.ofDrawing_eq_ok_iff.1 h).2.2

/-! ### What the operations come to -/

/-- A block that is put somewhere else has another parent in the program. -/
theorem program_putUnder (c : Canvas) (id : String) (parent : Option String) (place : Point) :
    (c.putUnder id parent place).program = c.program.reparented id parent := by
  have hnodes : ((c.putUnder id parent place).blocks.map Program.Node.ofBlock) =
      (c.blocks.map Program.Node.ofBlock).map fun n ↦
        if n.id = id then { n with parent := parent } else n := by
    rw [putUnder, modifyBlock, List.map_map, List.map_map]
    refine List.map_congr_left fun b _ ↦ ?_
    rw [Function.comp_apply, Function.comp_apply]
    by_cases hid : b.id = id
    · rw [if_pos hid, if_pos (show (Program.Node.ofBlock b).id = id from hid)]
      rfl
    · rw [if_neg hid, if_neg (show ¬ (Program.Node.ofBlock b).id = id from hid)]
  exact congrArg (fun nodes ↦ (⟨nodes, c.program.connections⟩ : Program)) hnodes

/-- The node of a block that is left is the node from before, outside of the one that goes. -/
theorem Released.ofBlock_eq {b b' : Block} (h : c.Released id b b') (hout : b'.parent ≠ some id) :
    Program.Node.ofBlock b' = (Program.Node.ofBlock b).outside id := by
  obtain rfl | ⟨corner, spot, -, hparent, -, rfl⟩ := h
  · exact (if_neg hout).symm
  · exact (if_pos hparent).symm

/-- The nodes of what is left have no parent where it was the block that is gone. -/
theorem nodes_of_released {before blocks : List Block}
    (hblocks : List.Forall₂ (c.Released id) before blocks)
    (hchildless : ∀ b ∈ blocks, b.parent ≠ some id) :
    (blocks.filter fun b ↦ b.id != id).map Program.Node.ofBlock =
      ((before.map Program.Node.ofBlock).filter fun n ↦ n.id != id).map
        (Program.Node.outside id) := by
  induction hblocks with
  | nil => rfl
  | @cons b b' before blocks hb _ ih =>
    obtain ⟨hout, hrest⟩ := List.forall_mem_cons.1 hchildless
    have hid : (Program.Node.ofBlock b).id = b'.id := hb.id_eq.symm
    rw [List.map_cons, List.filter_cons, List.filter_cons, hid]
    split
    · rw [List.map_cons, List.map_cons, hb.ofBlock_eq hout, ih hrest]
    · exact ih hrest

/-- **Deleting a block.** What was inside it has no parent then, and nothing else has changed. -/
theorem program_of_left {blocks : List Block}
    (hblocks : List.Forall₂ (c.Released id) c.blocks blocks)
    (hchildless : ∀ b ∈ blocks, b.parent ≠ some id)
    (hleft : c'.blocks = blocks.filter fun b ↦ b.id != id)
    (hwires : c'.wires = c.wires.filter fun w ↦ !touches id w) :
    c'.program = c.program.without id := by
  have hnodes := nodes_of_released hblocks hchildless
  have hconnections : (c.wires.filter fun w ↦ !touches id w).map Program.Connection.ofWire =
      (c.wires.map Program.Connection.ofWire).filter fun k ↦ k.source != id && k.target != id := by
    rw [List.filter_map]
    refine congrArg (List.map _) (List.filter_congr fun w _ ↦ ?_)
    exact Bool.not_or _ _
  rw [← hleft] at hnodes
  rw [← hwires] at hconnections
  exact congrArg₂ Program.mk hnodes hconnections

/-- **Joining two blocks** appends a connection exactly if the id of the wire is not taken. -/
theorem program_putWire_iff (c : Canvas) (w : Wire) :
    (c.putWire w).program = c.program.joined (Program.Connection.ofWire w) ↔
      w.id ∉ c.wires.map Wire.id := by
  rw [← map_putBy_eq_concat_iff Wire.id Program.Connection.ofWire]
  constructor
  · exact congrArg Program.connections
  · exact congrArg (Program.mk c.program.nodes)

/-- **Deleting a wire** takes away the connection at its place. -/
theorem program_withoutWire {w : Wire} {i : Nat} (hids : (c.wires.map Wire.id).Nodup)
    (hw : c.wires[i]? = some w) : (c.withoutWire w.id).program = c.program.unjoined i := by
  have hwires : (c.withoutWire w.id).wires = c.wires.eraseIdx i :=
    filter_key_ne_eq_eraseIdx Wire.id hids hw
  have hconnections : (c.withoutWire w.id).wires.map Program.Connection.ofWire =
      (c.wires.map Program.Connection.ofWire).eraseIdx i := by
    rw [hwires, List.eraseIdx_map]
  exact congrArg (Program.mk c.program.nodes) hconnections

/-! ### Where a block is and what its parent is -/

theorem exists_putUnder_of_resolve (hids : (c.blocks.map Block.id).Nodup) {changed : Bool}
    (h : (c.resolve p id).result = .ok changed) :
    ∃ parent place, (c.resolve p id).canvas = c.putUnder id parent place := by
  have hframed := framed_of_resolve h
  obtain ⟨b, hb, -⟩ := resolve_eq_ok h
  generalize (c.resolve p id).canvas = c' at hframed
  generalize (c.resolve p id).events = es at hframed
  cases hframed with
  | same => exact ⟨b.parent, b.position, (modifyBlock_eq_self hids hb rfl).symm⟩
  | under b parent place found allowed placed => exact ⟨parent, place, rfl⟩

theorem exists_putUnder_of_move (hids : (c.blocks.map Block.id).Nodup) {position : Value}
    {changed : Bool} (h : (c.moveBlock p id position).result = .ok changed) :
    ∃ parent place, (c.moveBlock p id position).canvas = c.putUnder id parent place := by
  obtain ⟨-, place, -, -, -, -, -, hok, heq⟩ := moveBlock_eq_ok h
  obtain ⟨parent, place', hresolved⟩ :=
    exists_putUnder_of_resolve (nodup_movedTo hids id place) hok
  refine ⟨parent, place', ?_⟩
  rw [heq]
  exact hresolved.trans
    (modifyBlock_modifyBlock (f := fun b ↦ { b with position := place }) (fun _ ↦ rfl) _)

end Canvas

/-- The instructions about where a block is and what its parent is. -/
inductive Instruction.Arranges (v : Value) : Instruction → Prop
  | move (position : Value) : Arranges v (.move v position)
  | resolve : Arranges v (.resolve v)
  | reparent (parent position : Value) : Arranges v (.reparent v parent position)

/-- The instructions about the selection. -/
inductive Instruction.Selects : Instruction → Prop
  | block (v : Value) : Selects (.selectBlock v)
  | wire (v : Value) : Selects (.selectWire v)
  | nothing : Selects .deselect

namespace Canvas

variable {p : Palette} {c : Canvas} {i : Instruction} {v : Value} {reply : Reply}

/-- **Arranging a block** writes its parent and its place, and nothing else on the canvas. -/
theorem exists_putUnder_of_arranges (hids : (c.blocks.map Block.id).Nodup) (hi : i.Arranges v)
    (h : (c.follow p i).result = .ok reply) :
    ∃ b parent place, v = .text b.id ∧ c.block? b.id = some b ∧
      (c.follow p i).canvas = c.putUnder b.id parent place := by
  cases hi with
  | move position =>
    obtain ⟨b, hv, hb, heq⟩ := follow_named_eq_ok rfl h
    replace heq : _ = (c.moveBlock p b.id position).map Reply.changed := heq
    obtain ⟨changed, hok, -⟩ := map_eq_ok_iff.1 ((congrArg Outcome.result heq).symm.trans h)
    obtain ⟨parent, place, hcanvas⟩ := exists_putUnder_of_move hids hok
    exact ⟨b, parent, place, hv, hb, heq ▸ hcanvas⟩
  | resolve =>
    obtain ⟨b, hv, hb, heq⟩ := follow_named_eq_ok rfl h
    replace heq : _ = (c.resolve p b.id).map Reply.changed := heq
    obtain ⟨changed, hok, -⟩ := map_eq_ok_iff.1 ((congrArg Outcome.result heq).symm.trans h)
    obtain ⟨parent, place, hcanvas⟩ := exists_putUnder_of_resolve hids hok
    exact ⟨b, parent, place, hv, hb, heq ▸ hcanvas⟩
  | reparent parent position =>
    obtain ⟨b, q, hv, -, heq⟩ := follow_reparent_eq_ok h
    obtain ⟨⟨⟩, hok, -⟩ := map_eq_ok_iff.1 ((congrArg Outcome.result heq).symm.trans h)
    obtain ⟨b', place, hb', -, -, hcanvas⟩ := reparent_eq_ok hok
    obtain ⟨-, hid⟩ := mem_of_block? hb'
    refine ⟨b', q, place, ?_, ?_, ?_⟩
    · rw [hv, hid]
    · rw [hid]
      exact hb'
    · rw [heq, hcanvas, hid]
      rfl

/-- **Deleting a block**, as an instruction. -/
theorem program_follow_delete (h : (c.follow p (.delete v)).result = .ok reply) :
    ∃ id, v = .text id ∧ (c.follow p (.delete v)).canvas.program = c.program.without id := by
  obtain ⟨b, hv, -, heq⟩ := follow_named_eq_ok rfl h
  replace heq : _ = (c.deleteBlock p b.id).map fun _ ↦ Reply.done := heq
  obtain ⟨⟨⟩, hok, -⟩ := map_eq_ok_iff.1 ((congrArg Outcome.result heq).symm.trans h)
  obtain ⟨blocks, hblocks, hchildless, hafter⟩ := deleteBlock_inv hok
  have hcanvas := deselecting_eq (c.losesSelection b.id (c.wireIdsOf b.id) = true)
    ({ c with blocks := blocks }.without b.id)
  refine ⟨b.id, hv, ?_⟩
  rw [heq, hafter]
  exact program_of_left hblocks hchildless (congrArg Canvas.blocks hcanvas)
    (congrArg Canvas.wires hcanvas)

/-- Joining two blocks that were not joined puts one wire on the canvas. -/
theorem follow_connect_of_new {source target data : Value}
    (h : (c.follow p (.connect source target data)).result = .ok reply)
    (hnew : ∀ w ∈ c.wires, .text w.source = source → .text w.target ≠ target) :
    ∃ w, reply = .id w.id ∧ .text w.source = source ∧ .text w.target = target ∧
      w.id = c.ids.wireId ∧ (c.follow p (.connect source target data)).canvas =
        { c with ids := c.ids.afterWire }.putWire w := by
  obtain ⟨reading, hread, heq⟩ := Outcome.given_eq_ok h
  simp only [Instruction.read, bind_eq_ok_iff] at hread
  obtain ⟨s, hs, t, ht, hread⟩ := hread
  obtain ⟨fields, rfl⟩ : ∃ fields, reading = .edit (.connect s t fields) := by
    split at hread
    all_goals
      obtain ⟨fields, -, hfields⟩ := bind_eq_ok_iff.1 hread
      exact ⟨fields, (pure_eq_ok_iff.1 hfields).symm⟩
  obtain rfl := eq_text_of_endpoint hs
  obtain rfl := eq_text_of_endpoint ht
  replace heq : c.follow p (.connect (.text s) (.text t) data) =
    (c.createWire s t fields).map .id := heq
  obtain ⟨id, hok, rfl⟩ := map_eq_ok_iff.1 ((congrArg Outcome.result heq).symm.trans h)
  obtain ⟨⟨w, hw, -, rfl, rfl⟩, -⟩ | ⟨-, rfl, kind, mapping, hwire⟩ := createWire_eq_ok hok
  · exact absurd rfl (hnew w hw rfl)
  · refine ⟨⟨c.ids.wireId, s, t, some kind, mapping⟩, rfl, rfl, rfl, rfl, ?_⟩
    rw [heq, hwire]
    rfl

theorem program_follow_disconnect (hids : (c.wires.map Wire.id).Nodup)
    (h : (c.follow p (.disconnect v)).result = .ok reply) :
    ∃ (w : Wire) (place : Nat), v = .text w.id ∧ c.wires[place]? = some w ∧
      (c.follow p (.disconnect v)).canvas.program = c.program.unjoined place := by
  obtain ⟨reading, hread, heq⟩ := Outcome.given_eq_ok h
  obtain ⟨w, hnamed, rfl⟩ := map_eq_ok_iff.1 hread
  obtain ⟨rfl, hw⟩ := eq_text_of_wireNamed hnamed
  replace heq : c.follow p (.disconnect (.text w.id)) =
    (c.deleteWire w.id).map fun _ ↦ .done := heq
  obtain ⟨⟨⟩, hok, -⟩ := map_eq_ok_iff.1 ((congrArg Outcome.result heq).symm.trans h)
  obtain ⟨-, -, hcanvas⟩ := deleteWire_eq_ok hok
  obtain ⟨place, hplace⟩ := List.mem_iff_getElem?.1 (mem_of_wire? hw).1
  refine ⟨w, place, rfl, hplace, ?_⟩
  rw [heq, ← program_withoutWire hids hplace]
  show (c.deleteWire w.id).canvas.program = _
  rw [hcanvas]
  rfl

theorem program_given {α β : Type} {check : Except Fault α} {f : α → Outcome β}
    (h : ∀ a, check = .ok a → (f a).canvas.program = c.program) :
    (Outcome.given c check f).canvas.program = c.program := by
  cases check with
  | error fault => rfl
  | ok a => exact h a rfl

theorem program_select (s : Selection) : (c.select s).canvas.program = c.program := by
  refine program_given fun _ _ ↦ ?_
  show (c.selecting s).1.program = c.program
  rw [selecting_eq]
  rfl

/-- **Selecting**, refused or not, changes nothing of the program. -/
theorem program_of_selects (hi : i.Selects) : (c.follow p i).canvas.program = c.program := by
  refine program_given fun r hr ↦ ?_
  cases hi with
  | block v =>
    obtain ⟨b, -, rfl⟩ := map_eq_ok_iff.1 hr
    exact program_select _
  | wire v =>
    obtain ⟨w, -, rfl⟩ := map_eq_ok_iff.1 hr
    exact program_select _
  | nothing =>
    obtain rfl := Except.ok.inj hr
    exact program_select _

/-! ### Runs -/

variable {actions : List Action}

theorem lowersTo_of_nested (h : ∀ a ∈ actions, a.Checked) (hn : Nested p (run p actions).blocks) :
    LowersTo p (run p actions) (run p actions).program := by
  obtain ⟨prog, hprog⟩ := (isLowered_iff h).2 hn
  rwa [← LowersTo.eq hprog]

/-- **What is lowered before an edit is lowered after it**, unless the edit makes blocks or
loads. -/
theorem lowersTo_follow (h : ∀ a ∈ actions, a.Checked) {prog : Program}
    (hprog : LowersTo p (run p actions) prog) (hload : ∀ d, i ≠ .load d) (hmake : ¬ i.MakesBlock) :
    LowersTo p ((run p actions).follow p i).canvas ((run p actions).follow p i).canvas.program := by
  have hn : Nested p (run p actions).blocks := (isLowered_iff h).1 ⟨prog, hprog⟩
  have hall : ∀ a ∈ actions ++ [.follow i], a.Checked := by
    rw [List.forall_mem_append]
    refine ⟨h, List.forall_mem_singleton.2 ?_⟩
    cases i with
    | load d => exact absurd rfl (hload d)
    | _ => exact trivial
  have hrun : run p (actions ++ [.follow i]) = ((run p actions).follow p i).canvas :=
    run_concat p actions (.follow i)
  have hafter : Nested p ((run p actions).follow p i).canvas.blocks :=
    (follow_changed (Action.within_anything (.follow i)) hload hmake).traced.nested
      (consistent_of_run h) hn
  rw [← hrun] at hafter ⊢
  exact lowersTo_of_nested hall hafter

/-- **What edits of a canvas make of its program.** -/
structure Followed (p : Palette) (c : Canvas) (prog : Program) : Prop where
  /-- The node of a block that is arranged gets the parent that the block has then. -/
  arranged : ∀ i v reply, Instruction.Arranges v i → (c.follow p i).result = .ok reply →
    ∃ b, v = .text b.id ∧ (c.follow p i).canvas.block? b.id = some b ∧
      LowersTo p (c.follow p i).canvas (prog.reparented b.id b.parent)
  /-- The node of a block that is deleted goes, with the connections at it. -/
  deleted : ∀ v reply, (c.follow p (.delete v)).result = .ok reply →
    ∃ id, v = .text id ∧ LowersTo p (c.follow p (.delete v)).canvas (prog.without id)
  /-- A new wire appends its connection exactly if its id is not taken. -/
  joined : ∀ source target data reply,
    (c.follow p (.connect source target data)).result = .ok reply →
    (∀ w ∈ c.wires, .text w.source = source → .text w.target ≠ target) →
    ∃ w, reply = .id w.id ∧ .text w.source = source ∧ .text w.target = target ∧
      (c.follow p (.connect source target data)).canvas.wire? w.id = some w ∧
      (LowersTo p (c.follow p (.connect source target data)).canvas (prog.joined (.ofWire w)) ↔
        c.ids.wireId ∉ c.wires.map Wire.id)
  /-- The connection of a wire that is deleted goes from its place. -/
  unjoined : ∀ v reply, (c.follow p (.disconnect v)).result = .ok reply →
    ∃ (w : Wire) (place : Nat), v = .text w.id ∧ c.wires[place]? = some w ∧
      LowersTo p (c.follow p (.disconnect v)).canvas (prog.unjoined place)
  /-- What is selected makes no difference. -/
  selected : ∀ i, Instruction.Selects i → LowersTo p (c.follow p i).canvas prog

/-- **Lowering commutes with editing.** After any run of actions that loads documents only, on any
palette, let the canvas be lowered to a program, and let an edit come through. The canvas is lowered
again then, and to the program after the edit of that kind (`Followed`).

A new wire appends its connection exactly if its id is not taken, and it is not **as long as no load
of the run was interrupted**. -/
theorem lowering_commutes (h : ∀ a ∈ actions, a.Checked) {prog : Program}
    (hprog : LowersTo p (run p actions) prog) :
    let c := run p actions
    Followed p c prog ∧
      ((∀ a ∈ actions, ¬ a.Interrupted p) → c.ids.wireId ∉ c.wires.map Wire.id) := by
  intro c
  have hids : (c.blocks.map Block.id).Nodup := (consistent_of_run h).blockIds
  obtain rfl := hprog.eq
  refine ⟨⟨?_, ?_, ?_, ?_, ?_⟩, fun hcalm ↦ (Item.below_run hcalm).wireId_not_mem⟩
  · intro i v reply hi hreply
    obtain ⟨b, parent, place, rfl, hb, hcanvas⟩ := exists_putUnder_of_arranges hids hi hreply
    have hlowered := lowersTo_follow (i := i) h hprog (by rintro d rfl; cases hi)
      (by cases hi <;> exact id)
    refine ⟨{ b with parent := parent, position := place }, rfl, ?_, ?_⟩
    · rw [hcanvas]
      exact block?_putUnder_self parent place hb
    · rw [← program_putUnder c b.id parent place, ← hcanvas]
      exact hlowered
  · intro v reply hreply
    obtain ⟨id, hv, hafter⟩ := program_follow_delete hreply
    refine ⟨id, hv, ?_⟩
    rw [← hafter]
    exact lowersTo_follow h hprog (by simp) fun hmake ↦ hmake
  · intro source target data reply hreply hnew
    have hlowered := lowersTo_follow (i := .connect source target data) h hprog (by simp)
      fun hmake ↦ hmake
    obtain ⟨w, hw, hsource, htarget, hid, hcanvas⟩ := follow_connect_of_new hreply hnew
    rw [hcanvas] at hlowered ⊢
    refine ⟨w, hw, hsource, htarget, find?_putBy_self Wire.id w c.wires, ?_⟩
    rw [← hid]
    refine Iff.trans ⟨fun hjoined ↦ hjoined.eq.symm, fun hjoined ↦ ?_⟩
      (program_putWire_iff { c with ids := c.ids.afterWire } w)
    exact hjoined ▸ hlowered
  · intro v reply hreply
    obtain ⟨w, place, hv, hw, hafter⟩ :=
      program_follow_disconnect (consistent_of_run h).wireIds hreply
    refine ⟨w, place, hv, hw, ?_⟩
    rw [← hafter]
    exact lowersTo_follow h hprog (by simp) fun hmake ↦ hmake
  · intro i hi
    rw [← program_of_selects (p := p) (c := c) hi]
    exact lowersTo_follow h hprog (by rintro d rfl; cases hi) (by cases hi <;> exact id)

/-- A container is deleted around a block. The node of the block is free in the program then, and of
two connections the one at the container is gone. -/
theorem lowering_commutes_with_deletion :
    let p := Palette.bundled
    let made : String → Int → Action := fun type x ↦ .follow (.drop
      { type := .text type, position := .object [("x", .int x), ("y", .int 10)] })
    let joined : String → Action := fun source ↦
      .follow (.connect (.text source) (.text "node_2") .null)
    let actions : List Action := [made "function-definition" 0, made "debug" 60, made "debug" 900,
      joined "node_0", joined "node_1"]
    let c := run p actions
    let o := c.follow p (.delete (.text "node_0"))
    (∀ a ∈ actions, a.Checked) ∧ LowersTo p c c.program ∧ o.result = .ok .done ∧
      c.program.nodes.map (fun n ↦ (n.id, n.parent)) =
        [("node_0", none), ("node_1", some "node_0"), ("node_2", none)] ∧
      c.program.connections.map (fun k ↦ (k.source, k.target)) =
        [("node_0", "node_2"), ("node_1", "node_2")] ∧
      LowersTo p o.canvas (c.program.without "node_0") ∧
      (c.program.without "node_0").nodes.map (fun n ↦ (n.id, n.parent)) =
        [("node_1", none), ("node_2", none)] ∧
      (c.program.without "node_0").connections.map (fun k ↦ (k.source, k.target)) =
        [("node_1", "node_2")] := by
  intro p made joined actions c o
  have hchecked : ∀ a ∈ actions, a.Checked := by simp [actions, made, joined, Action.Checked]
  have hcalm : ∀ a ∈ actions, ¬ a.Interrupted p := by
    simp [actions, made, joined, Action.Interrupted, Action.drawing?]
  have hdone : o.result = .ok .done := by decide +kernel
  have hprog := lowersTo_of_nested hchecked (sound_of_calm hchecked hcalm).nested
  obtain ⟨id, hid, hafter⟩ := (lowering_commutes hchecked hprog).1.deleted _ _ hdone
  obtain rfl : "node_0" = id := Value.text.inj hid
  exact ⟨hchecked, hprog, hdone, by decide +kernel, by decide +kernel, hafter, by decide +kernel,
    by decide +kernel⟩

end Canvas

/-! ### A wire in the place of another -/

namespace Canvas

/-- **A new wire in the place of another.** After the interrupted load the next wire gets the id
that the loaded one has. The program has one connection before and one after. -/
theorem joined_over_wire :
    let p := Palette.bundled
    let blocks : List Block := [{ id := "a", type := "debug" }, { id := "b", type := "debug" }]
    let wires : List Wire := [{ id := "edge_0", source := "a", target := "b" }]
    let actions : List Action := [.openDocument (.ok (.interrupting blocks wires))]
    let join : Instruction := .connect (.text "b") (.text "a") .null
    (∀ a ∈ actions, a.Checked) ∧ LowersTo p (run p actions) (run p actions).program ∧
      (run p actions).program.connections.map (fun k ↦ (k.source, k.target)) = [("a", "b")] ∧
      ((run p actions).follow p join).result = .ok (.id "edge_0") ∧
      LowersTo p ((run p actions).follow p join).canvas
        ((run p actions).follow p join).canvas.program ∧
      ((run p actions).follow p join).canvas.program.connections.map
        (fun k ↦ (k.source, k.target)) = [("b", "a")] := by
  intro p blocks wires actions join
  have hnested : Nested p blocks := ⟨by simp [blocks], by simp [blocks]⟩
  have hrun : run p actions = _ := run_interrupting blocks wires (by decide) (by decide)
    ⟨by decide, by decide, by decide, by decide +kernel, by decide⟩ hnested (by decide)
  have hchecked : ∀ a ∈ actions, a.Checked := by simp [actions, Action.Checked]
  have hafter : Nested p (run p actions).blocks := by
    rw [hrun]
    exact Drawing.nested_interrupting hnested wires
  have hprog := lowersTo_of_nested hchecked hafter
  refine ⟨hchecked, hprog, ?_, ?_, lowersTo_follow hchecked hprog (by simp [join]) fun h ↦ h, ?_⟩
  all_goals
    rw [hrun]
    decide +kernel

end Canvas

end FlowCanvas
