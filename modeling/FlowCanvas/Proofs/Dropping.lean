import FlowCanvas.Proofs.Resolving

/-!
# Dropping is making and dragging

A block comes from the palette in two ways: it is dropped where it is to be, or it is made somewhere
and dragged there. **Both ends are the same canvas.**

Dropping looks for the container under the place before there is a block, and enters it with the new
block in place. Dragging looks for it with the block already there, and with whatever was written to
it. A new block stands on the canvas itself. Where such a block goes is decided by its type, its
place and the boxes of the others alone (`frameUnder`, `resolve_of_top`); so what is written to it
makes no difference (`resolve_writeEntries`), and dragging it comes through if resolving does
(`moveBlock_of_top`).

Dropping asks for one thing more, which dragging a container does not: that the look-up under the
place is not refused.
-/

namespace FlowCanvas

open Checks

variable {p : Palette}

/-! ### The frame of a block on the canvas itself -/

/-- The frame that a block on the canvas itself goes to: the container under it, and its place
there. -/
def frameUnder (p : Palette) (b : Block) (blocks : List Block) :
    Except Fault (Option (String × Point)) :=
  if p.isContainer b.type then .ok none
  else
    (firstHolding p b.position (some b.id) blocks).bind fun found ↦
      match found with
      | none => .ok none
      | some k => (b.position.minus k.position).map fun place ↦ some (k.id, place)

namespace Canvas

variable {c : Canvas} {id : String} {b : Block} {place : Point}

/-- What a search for containers rests on: ids are distinct, and containers stand on the canvas
itself. -/
structure Searchable (p : Palette) (blocks : List Block) : Prop where
  ids : (blocks.map Block.id).Nodup
  containers : ∀ k ∈ blocks, p.isContainer k.type = true → k.parent = none

/-- A new block on the canvas itself is no obstacle. -/
theorem Searchable.putBlock (hc : Searchable p c.blocks) (htop : b.parent = none) :
    Searchable p (c.putBlock b).blocks where
  ids := nodup_putBy Block.id b hc.ids
  containers k hk hcontainer := by
    rcases mem_putBy Block.id hk with rfl | hk
    · exact htop
    · exact hc.containers k hk hcontainer

/-- A block may be changed in all but its id, its type and its parent. -/
theorem Searchable.modifyBlock (hc : Searchable p c.blocks) {f : Block → Block}
    (hcore : ∀ b, core (f b) = core b) (hparent : ∀ b, (f b).parent = b.parent) (id : String) :
    Searchable p (c.modifyBlock id f).blocks where
  ids := by
    rw [(kept_modifyBlock c id hcore).blockIds]
    exact hc.ids
  containers k' hk' := by
    obtain ⟨k, hk, rfl⟩ := List.mem_map.1 hk'
    have htype : (f k).type = k.type := congrArg Prod.snd (hcore k)
    split
    · rw [htype, hparent]
      exact hc.containers k hk
    · exact hc.containers k hk

/-- The frame of a block does not depend on the block that stands for it among the others. -/
theorem frameUnder_modifyBlock {f : Block → Block} (hf : ∀ b, (f b).id = b.id) (b : Block) :
    frameUnder p b (c.modifyBlock b.id f).blocks = frameUnder p b c.blocks := by
  have hsearch : firstHolding p b.position (some b.id) (c.modifyBlock b.id f).blocks =
      firstHolding p b.position (some b.id) c.blocks :=
    firstHolding_modify p b.position b.id hf c.blocks
  rw [frameUnder, hsearch]
  rfl

/-- Puts a block on the canvas itself into a frame, if there is one. -/
def enter (c : Canvas) (id : String) : Option (String × Point) → Outcome Bool
  | none => .ok c false
  | some (q, place) =>
    ⟨.ok true, c.putUnder id (some q) place, [.blockReparented id (some q) none place]⟩

/-- A block on the canvas itself is put into a container at its place less the corner. -/
theorem reparent_of_top {k : Block} (hb : c.block? b.id = some b) (htop : b.parent = none)
    (hk : c.block? k.id = some k) (hktop : k.parent = none)
    (hallowed : c.checkParent p b.id k.id = .ok ()) :
    c.reparent p b.id (some k.id) .null = .given c (b.position.minus k.position) fun place ↦
      ⟨.ok (), c.putUnder b.id (some k.id) place,
        [.blockReparented b.id (some k.id) none place]⟩ := by
  have hnull : Value.null.isNull = true := rfl
  have hplaced : c.placeUnder b.id (some k.id) .null = b.position.minus k.position := by
    rw [placeUnder, if_pos hnull, absolute_of_top hb htop]
    show c.toRelative b.position k.id = _
    rw [toRelative, absolute_of_top hk hktop]
    rfl
  rw [reparent, block_eq_ok_iff.2 hb, hplaced, ← htop]
  show Outcome.given c (c.checkParent p b.id k.id) _ = _
  rw [hallowed]
  rfl

/-- **Resolving the parent of a block on the canvas itself** puts it into its frame. -/
theorem resolve_of_top (hc : Searchable p c.blocks) (hb : c.block? b.id = some b)
    (htop : b.parent = none) :
    c.resolve p b.id = .given c (frameUnder p b c.blocks) (c.enter b.id) := by
  by_cases hcontainer : p.isContainer b.type = true
  · rw [resolve_of_container hb hcontainer, frameUnder, if_pos hcontainer]
    rfl
  have hplain : p.isContainer b.type = false := by simpa using hcontainer
  rw [resolve, block_eq_ok_iff.2 hb, absolute_of_top hb htop, frameUnder, if_neg hcontainer]
  simp only [Outcome.given, if_neg hcontainer, containerAt_eq hc.ids hc.containers, htop]
  rcases hfound : firstHolding p b.position (some b.id) c.blocks with fault | - | k
  · rfl
  · rfl
  · obtain ⟨hk, hkcontainer, hne⟩ := mem_of_firstHolding hfound
    have hkid : k.id ≠ b.id := fun heq ↦ hne (congrArg some heq.symm)
    have hktop : k.parent = none := hc.containers k hk hkcontainer
    have hkfound : c.block? k.id = some k := (block?_eq_some_iff hc.ids).2 ⟨hk, rfl⟩
    have hallowed : c.checkParent p b.id k.id = .ok () := checkParent_eq_ok_iff.2
      ⟨k, hkfound, hkid, hkcontainer, hktop, (isContainer_eq hb).trans hplain⟩
    show (c.reparent p b.id (some k.id) .null).map (fun _ ↦ true) = _
    rw [reparent_of_top hb htop hkfound hktop hallowed]
    rcases hplace : b.position.minus k.position with fault | place
    · simp [hplace, Outcome.given, Except.bind, Except.map, Outcome.map, Outcome.fail]
    · simp [hplace, Outcome.given, Except.bind, Except.map, Outcome.map, enter]

/-! ### What is written to a block -/

/-- What is written to a block leaves its frame to be written. -/
theorem foldl_write_framed (entries : List (Value × Value)) (b : Block) (parent : Option String)
    (place : Point) :
    entries.foldl Block.write { b with parent := parent, position := place } =
      { entries.foldl Block.write b with parent := parent, position := place } := by
  induction entries generalizing b with
  | nil => rfl
  | cons e entries ih =>
    have hwrite : Block.write { b with parent := parent, position := place } e =
        { b.write e with parent := parent, position := place } := by
      unfold Block.write
      split <;> rfl
    rw [List.foldl_cons, List.foldl_cons, hwrite, ih]

theorem Searchable.writeEntries (hc : Searchable p c.blocks) (id : String)
    (entries : List (Value × Value)) : Searchable p (c.writeEntries id entries).blocks := by
  refine hc.modifyBlock (fun b ↦ ?_) (fun b ↦ ?_) id
  · obtain ⟨properties, strays, heq⟩ := write_eq b entries
    rw [heq]
    rfl
  · obtain ⟨properties, strays, heq⟩ := write_eq b entries
    rw [heq]

/-- Two changes of a block that do not interfere can come in either order. -/
theorem modifyBlock_comm {f g : Block → Block} (hf : ∀ b, (f b).id = b.id)
    (hg : ∀ b, (g b).id = b.id) (hcomm : ∀ b, f (g b) = g (f b)) :
    (c.modifyBlock id f).modifyBlock id g = (c.modifyBlock id g).modifyBlock id f := by
  rw [modifyBlock_modifyBlock hf, modifyBlock_modifyBlock hg]
  exact congrArg (c.modifyBlock id) (funext fun b ↦ (hcomm b).symm)

theorem putUnder_writeEntries (entries : List (Value × Value)) (parent : Option String)
    (place : Point) :
    (c.writeEntries id entries).putUnder id parent place =
      (c.putUnder id parent place).writeEntries id entries :=
  modifyBlock_comm (fun b ↦ id_foldl_write b entries) (fun _ ↦ rfl)
    (fun b ↦ foldl_write_framed entries b parent place)

theorem movedTo_writeEntries (entries : List (Value × Value)) (place : Point) :
    (c.writeEntries id entries).movedTo id place =
      (c.movedTo id place).writeEntries id entries := by
  refine modifyBlock_comm (fun b ↦ id_foldl_write b entries) (fun _ ↦ rfl) fun b ↦ ?_
  obtain ⟨properties, strays, heq⟩ := write_eq b entries
  have hframed := foldl_write_framed entries b b.parent place
  rw [heq] at hframed ⊢
  exact hframed

theorem block?_writeEntries (hb : c.block? id = some b) (entries : List (Value × Value)) :
    (c.writeEntries id entries).block? id = some (entries.foldl Block.write b) := by
  rw [writeEntries, block?_modifyBlock fun b ↦ id_foldl_write b entries, hb, Option.map_some,
    if_pos (mem_of_block? hb).2]

/-- **Where a block goes does not depend on what is written to it.** -/
theorem resolve_writeEntries (hc : Searchable p c.blocks) (hb : c.block? b.id = some b)
    (htop : b.parent = none) (entries : List (Value × Value)) :
    (c.writeEntries b.id entries).resolve p b.id =
      { c.resolve p b.id with
        canvas := (c.resolve p b.id).canvas.writeEntries b.id entries } := by
  have hwritten := block?_writeEntries hb entries
  obtain ⟨properties, strays, heq⟩ := write_eq b entries
  rw [heq] at hwritten
  have hframe : frameUnder p { b with properties := properties, strays := strays }
      (c.writeEntries b.id entries).blocks = frameUnder p b c.blocks :=
    frameUnder_modifyBlock (fun b ↦ id_foldl_write b entries) _
  have hresolved := resolve_of_top (b := { b with properties := properties, strays := strays })
    (hc.writeEntries b.id entries) hwritten htop
  rw [hframe] at hresolved
  rw [resolve_of_top hc hb htop]
  refine hresolved.trans ?_
  rcases frameUnder p b c.blocks with fault | - | ⟨q, place⟩
  · rfl
  · rfl
  · simp only [Outcome.given, enter, putUnder_writeEntries]

/-! ### Dragging a new block -/

theorem Searchable.movedTo (hc : Searchable p c.blocks) (id : String) (place : Point) :
    Searchable p (c.movedTo id place).blocks :=
  hc.modifyBlock (f := fun b ↦ { b with position := place }) (fun _ ↦ rfl) (fun _ ↦ rfl) id

/-- Where resolving comes through after the move, the look-up before it does. -/
theorem hitTest_of_resolve (hc : Searchable p c.blocks) (hb : c.block? b.id = some b)
    (htop : b.parent = none) {changed : Bool}
    (h : ((c.movedTo b.id place).resolve p b.id).result = .ok changed) :
    c.hitTest p (some b.id) place = .ok () := by
  have hmoved := block?_movedTo_self hb place
  rw [resolve_of_top (b := { b with position := place }) (hc.movedTo b.id place) hmoved htop] at h
  obtain ⟨frame, hframe, -⟩ := Outcome.given_eq_ok h
  rw [hitTest]
  by_cases hcontainer : p.isContainer b.type = true
  · simp [isContainer_eq hb, hcontainer]
  · rw [frameUnder, if_neg hcontainer] at hframe
    obtain ⟨found, hfound, -⟩ := bind_eq_ok_iff.1 hframe
    have hsearch : firstHolding p place (some b.id) c.blocks = .ok found :=
      (firstHolding_modify p place b.id (f := fun b ↦ { b with position := place }) (fun _ ↦ rfl)
        c.blocks).symm.trans hfound
    simp [isContainer_eq hb, hcontainer, containerAt_eq hc.ids hc.containers, hsearch, Except.map]

/-- **A block on the canvas itself can be dragged where resolving comes through.** -/
theorem moveBlock_of_top (hc : Searchable p c.blocks) (hb : c.block? b.id = some b)
    (htop : b.parent = none) {v : Value} (hplace : Point.ofValue v = .ok place) {changed : Bool}
    (h : ((c.movedTo b.id place).resolve p b.id).result = .ok changed) :
    c.moveBlock p b.id v =
      ((c.movedTo b.id place).resolve p b.id).after [.blockMoved b.id place] := by
  rw [moveBlock, block_eq_ok_iff.2 hb, hplace]
  show Outcome.given c (c.toAbsolute place b.parent) _ = _
  rw [htop]
  show Outcome.given c (c.hitTest p (some b.id) place) _ = _
  rw [hitTest_of_resolve hc hb htop h]
  rfl

/-- **Dragging a block to which entries were written** comes through where resolving does, and ends
in the same canvas but for the entries. -/
theorem moveBlock_writeEntries (hc : Searchable p c.blocks) (hb : c.block? b.id = some b)
    (htop : b.parent = none) {v : Value} (hplace : Point.ofValue v = .ok place)
    (entries : List (Value × Value)) (changed : Bool) :
    let dragged := (c.writeEntries b.id entries).moveBlock p b.id v
    let resolved := (c.movedTo b.id place).resolve p b.id
    (dragged.result = .ok changed ↔ resolved.result = .ok changed) ∧
      (dragged.result = .ok changed →
        dragged.canvas = resolved.canvas.writeEntries b.id entries) := by
  intro dragged resolved
  have hresolved : ((c.writeEntries b.id entries).movedTo b.id place).resolve p b.id =
      { resolved with canvas := resolved.canvas.writeEntries b.id entries } := by
    rw [movedTo_writeEntries]
    exact resolve_writeEntries (b := { b with position := place }) (hc.movedTo b.id place)
      (block?_movedTo_self hb place) htop entries
  have hforward : resolved.result = .ok changed → dragged =
      { resolved with canvas := resolved.canvas.writeEntries b.id entries }.after
        [.blockMoved b.id place] := by
    intro h
    have hwritten := block?_writeEntries hb entries
    obtain ⟨properties, strays, heq⟩ := write_eq b entries
    rw [heq] at hwritten
    rw [← hresolved]
    exact moveBlock_of_top (b := { b with properties := properties, strays := strays })
      (hc.writeEntries b.id entries) hwritten htop hplace
      ((congrArg Outcome.result hresolved).trans h)
  have hback : dragged.result = .ok changed → resolved.result = .ok changed := by
    intro h
    obtain ⟨_, place', _, -, hplace', -, -, hok, -⟩ := moveBlock_eq_ok h
    obtain rfl : place' = place := Except.ok.inj (hplace'.symm.trans hplace)
    exact (congrArg Outcome.result hresolved).symm.trans hok
  refine ⟨⟨hback, fun h ↦ ?_⟩, fun h ↦ ?_⟩
  · rw [hforward h]
    exact h
  · rw [hforward (hback h)]
    rfl

/-! ### Making a block elsewhere -/

/-- A change of a block that was just put on the canvas. -/
theorem modifyBlock_putBlock (hids : (c.blocks.map Block.id).Nodup) {f : Block → Block}
    (hf : ∀ b, (f b).id = b.id) : (c.putBlock b).modifyBlock b.id f = c.putBlock (f b) := by
  have hblocks : ∀ blocks : List Block, (blocks.map Block.id).Nodup →
      ((putBy Block.id b blocks).map fun k ↦ if k.id = b.id then f k else k) =
        putBy Block.id (f b) blocks := by
    intro blocks hnodup
    induction blocks with
    | nil => simp [putBy]
    | cons k rest ih =>
      rw [List.map_cons, List.nodup_cons] at hnodup
      by_cases hid : k.id = b.id
      · -- No other block has the id.
        have hrest : (rest.map fun k ↦ if k.id = b.id then f k else k) = rest := by
          refine (List.map_congr_left fun m hm ↦ if_neg ?_).trans (List.map_id rest)
          intro heq
          exact hnodup.1 (hid.trans heq.symm ▸ List.mem_map_of_mem hm)
        simp [putBy, hid, hf, hrest]
      · simp [putBy, hid, hf, ih hnodup.2]
  exact congrArg (fun blocks ↦ { c with blocks := blocks }) (hblocks c.blocks hids)

/-- **A block can be made at any place if it can be made somewhere**, and is the same but for its
place. -/
theorem createBlock_anywhere {n : NewBlock} (h : (c.createBlock p n).result = .ok id) :
    ∃ t properties label, id = c.ids.blockId ∧ ∀ v place, Point.ofValue v = .ok place →
      c.createBlock p { n with position := v } =
        ⟨.ok id, { c with ids := c.ids.afterBlock }.putBlock (c.newBlock t properties place label),
          [.blockCreated id n.type]⟩ := by
  rw [createBlock] at h
  obtain ⟨t, ht, h₁⟩ := Outcome.given_eq_ok h
  rw [h₁] at h
  obtain ⟨_, hdefaults, h₂⟩ := Outcome.given_eq_ok h
  rw [h₂] at h
  obtain ⟨properties, hproperties, h₃⟩ := Outcome.given_eq_ok h
  rw [h₃] at h
  split at h
  · exact absurd h (by simp [Outcome.fail])
  next hnames =>
  have hid : id = c.ids.blockId := by
    rcases hposition : Point.ofValue n.position with why | position
    · exact absurd h (by simp [hposition, Outcome.fail])
    · rw [hposition] at h
      exact (Except.ok.inj h).symm
  refine ⟨t, properties, (Fields.get? n.properties "label").getD n.label, hid,
    fun v place hplace ↦ ?_⟩
  rw [createBlock, ht]
  simp only [Outcome.given, hdefaults, hproperties, if_neg hnames, hplace, hid]
  rfl

/-- A new block stands on the canvas itself, and the canvas can be searched. -/
theorem createBlock_top (hc : Searchable p c.blocks) {n : NewBlock}
    (h : (c.createBlock p n).result = .ok id) :
    Searchable p (c.createBlock p n).canvas.blocks ∧
      ∃ b, b.id = id ∧ b.parent = none ∧ (c.createBlock p n).canvas.block? b.id = some b := by
  obtain ⟨t, properties, position, -, -, -, rfl, heq⟩ := createBlock_eq_ok h
  rw [heq]
  exact ⟨hc.putBlock rfl, _, rfl, rfl, find?_putBy_self Block.id _ c.blocks⟩

/-- **What dropping a block comes to**, where the container under the place can be looked up: the
block is made, put at the place, and its parent resolved. -/
theorem dropBlock_eq (hc : Searchable p c.blocks) {n : NewBlock}
    (hplace : Point.ofValue n.position = .ok place) (htest : c.hitTest p none place = .ok ())
    (h : (c.createBlock p { n with position := .null }).result = .ok id) :
    let made := c.createBlock p { n with position := .null }
    c.dropBlock p n = (((made.canvas.movedTo id place).resolve p id).map fun _ ↦ id).after
      made.events := by
  intro made
  obtain ⟨t, properties, label, hid, heq⟩ := createBlock_anywhere h
  have hmade := heq .null .origin rfl
  have hthere := heq n.position place hplace
  have hmoved : made.canvas.movedTo id place =
      { c with ids := c.ids.afterBlock }.putBlock (c.newBlock t properties place label) := by
    show (c.createBlock p _).canvas.movedTo id place = _
    rw [hmade, hid]
    exact modifyBlock_putBlock (c := { c with ids := c.ids.afterBlock })
      (b := c.newBlock t properties .origin label) (f := fun b ↦ { b with position := place })
      hc.ids fun _ ↦ rfl
  have hdrop : c.dropBlock p n =
      (c.createBlock p n).andThen fun id after ↦ (after.resolve p id).map fun _ ↦ id := by
    rw [dropBlock, hplace]
    show Outcome.given c (c.hitTest p none place) _ = _
    rw [htest]
    rfl
  replace hthere : c.createBlock p n = _ := hthere
  rw [hdrop, hthere, hmoved, show made.events = _ from congrArg Outcome.events hmade]
  rfl

/-! ### Instructions -/

/-- Writes entries to a block that was made. -/
def furnished (entries : List (Value × Value)) (o : Outcome String) : Outcome Reply :=
  o.andThen fun id after ↦ .ok (after.writeEntries id entries) (.id id)

theorem furnished_eq_ok {o : Outcome String} {entries : List (Value × Value)}
    (h : o.result = .ok id) :
    furnished entries o = ⟨.ok (.id id), o.canvas.writeEntries id entries, o.events⟩ := by
  rw [furnished, Outcome.andThen, h]
  simp [Outcome.after, Outcome.ok]

theorem of_furnished_eq_ok {o : Outcome String} {entries : List (Value × Value)} {reply : Reply}
    (h : (furnished entries o).result = .ok reply) : ∃ id, o.result = .ok id ∧ reply = .id id := by
  obtain ⟨id, hid, hreply, -⟩ := Outcome.andThen_eq_ok h
  exact ⟨id, hid, (Except.ok.inj hreply).symm⟩

theorem writeEntries_nil (c : Canvas) (id : String) : c.writeEntries id [] = c := by
  simp [writeEntries, modifyBlock]

/-- An edit that makes a block, with entries to be written or without. -/
theorem carryOut_making (edit : Edit) {o : Outcome String} (h : c.apply p edit = o.map .id) :
    c.carryOut p (.edit edit) = furnished [] o ∧
      ∀ entries, c.carryOut p (.furnish edit entries) = furnished entries o := by
  obtain ⟨fault | id, after, es⟩ := o
  · simp [carryOut, h, furnished, Outcome.map, Outcome.andThen, Except.map]
  · simp [carryOut, h, furnished, Outcome.map, Outcome.andThen, Except.map, writeEntries_nil,
      Outcome.ok, Outcome.after]

/-- **A request for a block is one new block with some entries**, wherever it is to be and whether
it is made or dropped. -/
theorem follow_making {make : NewBlock → Edit} {n : BlockRequest} {r : Reading}
    (h : Instruction.readBlock p c make n = .ok r) :
    ∃ (new : NewBlock) (entries : List (Value × Value)), ∀ v,
      c.follow p (.create { n with position := v }) =
        furnished entries (c.createBlock p { new with position := v }) ∧
      ∀ spot, Point.ofValue v = .ok spot → c.hitTest p none spot = .ok () →
        c.follow p (.drop { n with position := v }) =
          furnished entries (c.dropBlock p { new with position := v }) := by
  have hdrop : ∀ v spot, Point.ofValue v = .ok spot → c.hitTest p none spot = .ok () →
      c.follow p (.drop { n with position := v }) =
        .given c (Instruction.readBlock p c .drop { n with position := v }) (c.carryOut p) := by
    intro v spot hspot htest
    rw [follow, Instruction.read, hspot]
    show Outcome.given c ((c.hitTest p none spot).bind _) _ = _
    rw [htest]
    rfl
  obtain ⟨new, -, hread⟩ := readBlock_remade h
  have hmake := fun v ↦ carryOut_making (p := p) (c := c) (.create { new with position := v })
    (o := c.createBlock p { new with position := v }) rfl
  have hput := fun v ↦ carryOut_making (p := p) (c := c) (.drop { new with position := v })
    (o := c.dropBlock p { new with position := v }) rfl
  obtain ⟨-, hread⟩ | ⟨others, -, hread⟩ := hread
  · refine ⟨new, [], fun v ↦ ⟨?_, fun spot hspot htest ↦ ?_⟩⟩
    · rw [follow, Instruction.read, hread .create v]
      exact (hmake v).1
    · rw [hdrop v spot hspot htest, hread .drop v]
      exact (hput v).1
  · refine ⟨new, others, fun v ↦ ⟨?_, fun spot hspot htest ↦ ?_⟩⟩
    · rw [follow, Instruction.read, hread .create v]
      exact (hmake v).2 others
    · rw [hdrop v spot hspot htest, hread .drop v]
      exact (hput v).2 others

/-- **Dragging a block that was made, and dropping it**: one comes through if the other does, and
they end in the same canvas. -/
theorem drag_iff_drop (hc : Searchable p c.blocks) {new : NewBlock} {v : Value}
    (hplace : Point.ofValue v = .ok place) (htest : c.hitTest p none place = .ok ())
    (hmade : (c.createBlock p { new with position := .null }).result = .ok id)
    (entries : List (Value × Value)) :
    let made := furnished entries (c.createBlock p { new with position := .null })
    let dragged := made.canvas.follow p (.move (.text id) v)
    let dropped := furnished entries (c.dropBlock p { new with position := v })
    (∀ reply, dragged.result = .ok reply → dropped.result = .ok (.id id)) ∧
      ∀ reply, dropped.result = .ok reply → ∃ changed, reply = .id id ∧
        dragged.result = .ok (.changed changed) ∧ dragged.canvas = dropped.canvas := by
  intro made dragged dropped
  have hdrop := dropBlock_eq (n := { new with position := v }) hc hplace htest hmade
  obtain ⟨hfree, b, rfl, htop, hb⟩ := createBlock_top hc hmade
  have hdrag := moveBlock_writeEntries hfree hb htop hplace entries
  have hdragged : dragged = (((c.createBlock p { new with position := .null }).canvas.writeEntries
      b.id entries).moveBlock p b.id v).map .changed := by
    show made.canvas.follow p _ = _
    rw [show made = _ from furnished_eq_ok hmade]
    exact follow_move_eq (block?_writeEntries hb entries) v
  constructor
  · intro reply hreply
    obtain ⟨changed, hmoved, -⟩ :=
      map_eq_ok_iff.1 ((congrArg Outcome.result hdragged).symm.trans hreply)
    have hput : (c.dropBlock p { new with position := v }).result = .ok b.id := by
      rw [hdrop]
      exact map_eq_ok_iff.2 ⟨changed, (hdrag changed).1.1 hmoved, rfl⟩
    exact congrArg Outcome.result (furnished_eq_ok hput)
  · intro reply hreply
    obtain ⟨id, hput, rfl⟩ := of_furnished_eq_ok hreply
    obtain ⟨changed, hresolved, rfl⟩ :=
      map_eq_ok_iff.1 ((congrArg Outcome.result hdrop).symm.trans hput)
    have hmoved := (hdrag changed).1.2 hresolved
    refine ⟨changed, rfl, ?_, ?_⟩
    · rw [hdragged]
      exact map_eq_ok_iff.2 ⟨changed, hmoved, rfl⟩
    · rw [hdragged, show dropped = _ from furnished_eq_ok hput, hdrop]
      exact (hdrag changed).2 hmoved

/-! ### Runs -/

/-- **Dropping is making and dragging.** After any run of actions that loads documents only, on any
palette, let a block be dropped. From the same canvas it can be made without a place and then be
dragged to where it was dropped. It gets the same id, and both ways end in the same canvas: blocks,
wires, selection and counters.

The other way round, a block that can be made and dragged can be dropped, if the container under the
place can be looked up. -/
theorem drop_is_make_then_drag {actions : List Action} (h : ∀ a ∈ actions, a.Checked)
    (n : BlockRequest) :
    let c := run p actions
    let dropped := c.follow p (.drop n)
    let made := c.follow p (.create { n with position := .null })
    let dragged := fun id ↦ made.canvas.follow p (.move (.text id) n.position)
    (∀ reply, dropped.result = .ok reply → ∃ id changed, reply = .id id ∧
      made.result = .ok (.id id) ∧ (dragged id).result = .ok (.changed changed) ∧
      (dragged id).canvas = dropped.canvas) ∧
    (∀ id reply spot, made.result = .ok (.id id) → (dragged id).result = .ok reply →
      Point.ofValue n.position = .ok spot → c.hitTest p none spot = .ok () →
      dropped.result = .ok (.id id)) := by
  intro c dropped made dragged
  have hc : Searchable p c.blocks := ⟨(consistent_of_run h).blockIds, (hung_of_run h).containers⟩
  constructor
  · intro reply hreply
    obtain ⟨reading, hreading, -⟩ := Outcome.given_eq_ok hreply
    simp only [Instruction.read, bind_eq_ok_iff] at hreading
    obtain ⟨spot, hspot, ⟨⟩, htest, hread⟩ := hreading
    replace hspot : Point.ofValue n.position = .ok spot := mapError_eq_ok_iff.1 hspot
    obtain ⟨new, entries, hfollow⟩ := follow_making hread
    have hdropped :
        dropped = furnished entries (c.dropBlock p { new with position := n.position }) :=
      (hfollow n.position).2 spot hspot htest
    have hmade : made = furnished entries (c.createBlock p { new with position := .null }) :=
      (hfollow .null).1
    rw [hdropped] at hreply
    obtain ⟨id, hput, -⟩ := of_furnished_eq_ok hreply
    -- What can be dropped can be made at its place, and so anywhere.
    obtain ⟨t, properties, label, -, hanywhere⟩ := createBlock_anywhere (dropBlock_eq_ok hput).1
    have hid : (c.createBlock p { new with position := .null }).result = .ok id :=
      congrArg Outcome.result (hanywhere .null .origin rfl)
    obtain ⟨changed, rfl, hmoved, hsame⟩ :=
      (drag_iff_drop hc hspot htest hid entries).2 reply hreply
    refine ⟨id, changed, rfl, ?_, ?_, ?_⟩
    · rw [hmade]
      exact congrArg Outcome.result (furnished_eq_ok hid)
    · show (made.canvas.follow p _).result = _
      rw [hmade]
      exact hmoved
    · show (made.canvas.follow p _).canvas = _
      rw [hmade, hdropped]
      exact hsame
  · intro id reply spot hmade hdragged hspot htest
    obtain ⟨reading, hread, -⟩ := Outcome.given_eq_ok hmade
    obtain ⟨new, entries, hfollow⟩ := follow_making hread
    have hdropped :
        dropped = furnished entries (c.dropBlock p { new with position := n.position }) :=
      (hfollow n.position).2 spot hspot htest
    have heq : made = furnished entries (c.createBlock p { new with position := .null }) :=
      (hfollow .null).1
    rw [heq] at hmade
    obtain ⟨id', hid, hsame⟩ := of_furnished_eq_ok hmade
    obtain rfl : id = id' := Reply.id.inj hsame
    replace hdragged : (made.canvas.follow p (.move (.text id) n.position)).result = .ok reply :=
      hdragged
    rw [heq] at hdragged
    rw [hdropped]
    exact (drag_iff_drop hc hspot htest hid entries).1 reply hdragged

/-- A block that is dropped into a container. Made without a place it is at the origin first, and
has no parent. -/
theorem drop_into_container :
    let p := Palette.bundled
    let point : Float → Float → Value := fun x y ↦ .object [("x", .float x), ("y", .float y)]
    let actions : List Action :=
      [.follow (.create { type := .text "function-definition", position := point 100 100 })]
    let n : BlockRequest := { type := .text "debug", position := point 160.5 130 }
    let c := run p actions
    let dropped := c.follow p (.drop n)
    let made := c.follow p (.create { n with position := .null })
    (∀ a ∈ actions, a.Checked) ∧ dropped.result = .ok (.id "node_1") ∧
      (dropped.canvas.block? "node_1").map (fun b ↦ (b.parent, b.position)) =
        some (some "node_0", .ofFloats 60.5 30) ∧
      (made.canvas.block? "node_1").map (fun b ↦ (b.parent, b.position)) = some (none, .origin) ∧
      (made.canvas.follow p (.move (.text "node_1") n.position)).canvas = dropped.canvas := by
  intro p point actions n c dropped made
  have hchecked : ∀ a ∈ actions, a.Checked := by simp [actions, Action.Checked]
  have hdropped : dropped.result = .ok (.id "node_1") := by decide +kernel
  obtain ⟨id, changed, hid, -, -, hcanvas⟩ := (drop_is_make_then_drag hchecked n).1 _ hdropped
  obtain rfl : "node_1" = id := Reply.id.inj hid
  exact ⟨hchecked, hdropped, by decide +kernel, by decide +kernel, hcanvas⟩

end Canvas

end FlowCanvas
