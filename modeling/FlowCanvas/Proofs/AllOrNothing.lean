import FlowCanvas.Proofs.Chains
import FlowCanvas.Proofs.Invariant
import FlowCanvas.Proofs.Written

/-!
# All or nothing

What a refused action leaves behind. **Nothing but the counters may have moved** (`Untouched`): the
blocks with all they hold, the wires, the selection and the creation stamp are those from before,
and nothing was reported.

Most operations see to this by checking first and writing last; when they are refused, they have
done nothing at all (`Outcome.Spares`). Three write before they are done:

* moving and dropping a block write its place and then resolve its parent. That resolving comes
  through rests on the look-up in front of the write: it searches the same containers for the same
  point, so what was found before is found again, and a block that is no container can be put into a
  container on the canvas itself (`resolve_isOk`).
* deleting a container sets the blocks inside free one by one. Places that are floats have sums.

All three need the rules of the canvas, places that are floats and a new id for a new block, which
is what runs without an interrupted load have. **An interrupted load is the one exception**, and it
is one whenever its drawing is not what the canvas shows already (`refused_untouched_iff`).

Callers are held to the shapes that operations declare (`Action.Declared`): no live points for
places, records for patches, and documents for what is loaded.
-/

namespace FlowCanvas

open Checks

/-- What may be handed over from outside: anything but a live point for a place. -/
def Supply.outside : Supply := ⟨fun v ↦ ∀ x y, v ≠ .point x y, fun _ ↦ True⟩

/-- **Nothing but the counters has moved**, and they have not gone back. -/
structure Canvas.Untouched (c c' : Canvas) : Prop where
  blocks : c'.blocks = c.blocks
  wires : c'.wires = c.wires
  selection : c'.selection = c.selection
  created : c'.created = c.created
  nextBlock : c.ids.nextBlock ≤ c'.ids.nextBlock
  nextWire : c.ids.nextWire ≤ c'.ids.nextWire

theorem Canvas.Untouched.refl (c : Canvas) : c.Untouched c :=
  ⟨rfl, rfl, rfl, rfl, Int.le_refl _, Int.le_refl _⟩

instance : Std.Refl Canvas.Untouched := ⟨.refl⟩

/-- If an operation on a canvas is refused for one of some reasons, the canvas is kept in some
sense, and nothing was reported. -/
def Outcome.Leaves {α : Type} (kept : Canvas → Canvas → Prop) (reasons : Fault → Prop)
    (o : Outcome α) (c : Canvas) : Prop :=
  ∀ fault, reasons fault → o.result = .error fault → kept c o.canvas ∧ o.events = []

/-- If an operation on a canvas is refused, the canvas is untouched and nothing was reported. -/
abbrev Outcome.AllOrNothing {α : Type} (o : Outcome α) (c : Canvas) : Prop :=
  o.Leaves Canvas.Untouched (fun _ ↦ True) c

/-- If an operation is refused for one of some reasons, it has done nothing at all. -/
abbrev Outcome.Spares {α : Type} (reasons : Fault → Prop) (o : Outcome α) (c : Canvas) : Prop :=
  o.Leaves Eq reasons c

namespace Outcome.Leaves

variable {α β : Type} {kept : Canvas → Canvas → Prop} {reasons : Fault → Prop} {c : Canvas}

theorem fail [Std.Refl kept] (fault : Fault) :
    (Outcome.fail c fault : Outcome α).Leaves kept reasons c :=
  fun _ _ _ ↦ ⟨Std.Refl.refl c, rfl⟩

/-- Nothing is asked of an operation that comes through. -/
theorem of_ok {o : Outcome α} {a : α} (h : o.result = .ok a) : o.Leaves kept reasons c :=
  fun _ _ hfault ↦ absurd (h.symm.trans hfault) (by simp)

theorem map {o : Outcome α} (f : α → β) (h : o.Leaves kept reasons c) :
    (o.map f).Leaves kept reasons c := by
  intro fault hreason hfault
  rcases hresult : o.result with fault' | a
  · obtain rfl : fault' = fault := by simpa [Outcome.map, hresult, Except.map] using hfault
    exact h fault' hreason hresult
  · exact absurd hfault (by simp [Outcome.map, hresult, Except.map])

theorem given [Std.Refl kept] {check : Except Fault α} {f : α → Outcome β}
    (h : ∀ a, check = .ok a → (f a).Leaves kept reasons c) :
    (Outcome.given c check f).Leaves kept reasons c := by
  cases check with
  | error fault => exact fail fault
  | ok a => exact h a rfl

/-- A second operation that always comes through adds nothing to what may be refused. -/
theorem andThen {o : Outcome α} {f : α → Canvas → Outcome β} (h : o.Leaves kept reasons c)
    (hf : ∀ a, o.result = .ok a → ∃ b, (f a o.canvas).result = .ok b) :
    (o.andThen f).Leaves kept reasons c := by
  unfold Outcome.andThen
  split
  · next fault hfault =>
    intro fault' hreason hfault'
    obtain rfl := Except.error.inj hfault'
    exact h fault hreason hfault
  · next a ha =>
    obtain ⟨b, hb⟩ := hf a ha
    exact of_ok (a := b) hb

/-- An operation that does nothing when it is refused, for whatever reason. -/
theorem allOrNothing {o : Outcome α} (h : o.Spares (fun _ ↦ True) c) : o.AllOrNothing c := by
  intro fault hreason hfault
  obtain ⟨hcanvas, hevents⟩ := h fault hreason hfault
  exact ⟨hcanvas ▸ .refl c, hevents⟩

end Outcome.Leaves

namespace Canvas

variable {p : Palette} {c : Canvas} {id : String} {reasons : Fault → Prop}

/-! ### Operations that check first -/

/-- A block is made whole, or its number is used up in vain. -/
theorem createBlock_allOrNothing {n : NewBlock} : (c.createBlock p n).AllOrNothing c := by
  refine .given fun t _ ↦ .given fun _ _ ↦ .given fun properties _ ↦ ?_
  split
  · exact .fail _
  · split
    · -- The number of the block is used up.
      intro _ _ _
      exact ⟨⟨rfl, rfl, rfl, rfl, Int.le_of_lt (Int.lt_succ _), Int.le_refl _⟩, rfl⟩
    · exact .of_ok rfl

/-- A patch is checked before any of it is written. -/
theorem updateBlock_spares {patch : Fields Value} :
    (c.updateBlock p id patch).Spares reasons c :=
  .given fun _ _ ↦ .given fun _ _ ↦ .of_ok rfl

theorem bindCall_spares {name : Value} : (c.bindCall p id name).Spares reasons c := by
  refine .given fun b _ ↦ ?_
  split
  · exact .fail _
  · split
    · exact .fail _
    · split
      · exact .fail _
      · exact updateBlock_spares

theorem reparent_spares {parent : Option String} {position : Value} :
    (c.reparent p id parent position).Spares reasons c :=
  .given fun _ _ ↦ .given fun _ _ ↦ .given fun _ _ ↦ .of_ok rfl

/-- The parent of a block is looked for before the block is put there. -/
theorem resolve_spares : (c.resolve p id).Spares reasons c := by
  refine .given fun b _ ↦ ?_
  split
  · exact .of_ok rfl
  · refine .given fun spot _ ↦ .given fun found _ ↦ ?_
    split
    · split
      · exact .of_ok rfl
      · exact .map _ reparent_spares
    · split
      · exact .map _ reparent_spares
      · exact .of_ok rfl

/-- The ends and the data of a wire are checked before it is made. -/
theorem createWire_spares {source target : String} {data : Fields Value} :
    (c.createWire source target data).Spares reasons c := by
  refine .given fun _ _ ↦ ?_
  split
  · exact .of_ok rfl
  · refine .given fun wired _ ↦ ?_
    obtain ⟨kind, mapping⟩ := wired
    dsimp only
    split
    · exact .fail _
    · exact .of_ok rfl

theorem deleteWire_spares : (c.deleteWire id).Spares reasons c :=
  .given fun _ _ ↦ .of_ok rfl

theorem updateWire_spares {patch : Fields Value} : (c.updateWire id patch).Spares reasons c :=
  .given fun _ _ ↦ .given fun _ _ ↦ .of_ok rfl

theorem select_spares {selection : Selection} : (c.select selection).Spares reasons c :=
  .given fun _ _ ↦ .of_ok rfl

/-! ### Resolving the parent of a block -/

theorem Sound.hung (hc : Sound p c) : Hung p c.blocks :=
  hc.nested.hung hc.consistent.blockIds

/-- A block that is no container can be put into a container, or out of one. -/
theorem reparent_isOk (hids : (c.blocks.map Block.id).Nodup) (hh : Hung p c.blocks)
    (hplaced : Placed c.blocks) {b : Block}
    (hb : c.block? id = some b) (hplain : p.isContainer b.type = false) {parent : Option String}
    (hparent : ∀ q, parent = some q → q ≠ id ∧
      ∃ k ∈ c.blocks, k.id = q ∧ p.isContainer k.type = true) :
    (c.reparent p id parent .null).result = .ok () := by
  have hblock : c.block id = .ok b := block_eq_ok_iff.2 hb
  have hself : c.isContainer p id = false := (isContainer_eq hb).trans hplain
  have hnull : Value.null.isNull = true := rfl
  obtain ⟨spot, hspot, hfloat⟩ := absolute_isOk hh hplaced hb
  unfold reparent
  rw [hblock]
  -- Without a place of its own the block keeps its place on the canvas, seen from its new parent.
  rcases parent with - | q
  · have hplace : c.placeUnder id none .null = .ok spot := by
      rw [placeUnder, if_pos hnull, hspot]
    rw [hplace]
    rfl
  · obtain ⟨hne, k, hk, rfl, hcontainer⟩ := hparent q rfl
    have hfound : c.block? k.id = some k := (block?_eq_some_iff hids).2 ⟨hk, rfl⟩
    have htop : k.parent = none := hh.containers k hk hcontainer
    have hallowed : c.checkParent p id k.id = .ok () :=
      checkParent_eq_ok_iff.2 ⟨k, hfound, hne, hcontainer, htop, hself⟩
    obtain ⟨difference, hdifference, -⟩ := hfloat.minus (hplaced k hk)
    have hplace : c.placeUnder id (some k.id) .null = .ok difference := by
      rw [placeUnder, if_pos hnull, hspot]
      show c.toRelative spot k.id = .ok difference
      rw [toRelative, absolute_of_top hfound htop]
      exact hdifference
    rw [hplace]
    show (Outcome.given c (c.checkParent p id k.id) _).result = .ok ()
    rw [hallowed]
    rfl

/-- **Resolving comes through where the container under the block can be looked up.** -/
theorem resolve_isOk (hids : (c.blocks.map Block.id).Nodup) (hh : Hung p c.blocks)
    (hplaced : Placed c.blocks) {b : Block}
    (hb : c.block? id = some b)
    (hlookup : p.isContainer b.type = false → ∃ spot found, c.absolute id = .ok spot ∧
      c.containerAt p spot (some id) = .ok found) :
    ∃ changed, (c.resolve p id).result = .ok changed := by
  have hblock : c.block id = .ok b := block_eq_ok_iff.2 hb
  unfold resolve
  rw [hblock]
  show ∃ changed, (if p.isContainer b.type = true then Outcome.ok c false else _).result =
    .ok changed
  by_cases hplain : p.isContainer b.type = true
  · rw [if_pos hplain]
    exact ⟨false, rfl⟩
  · rw [Bool.not_eq_true] at hplain
    obtain ⟨spot, found, hspot, hfound⟩ := hlookup hplain
    rw [if_neg (by simp [hplain]), hspot]
    show ∃ changed, (Outcome.given c (c.containerAt p spot (some id)) _).result = .ok changed
    have hmap : ∀ parent, (c.reparent p id parent .null).result = .ok () →
        ((c.reparent p id parent .null).map fun _ ↦ true).result = .ok true := by
      intro parent hok
      rw [Outcome.map, hok]
      rfl
    rcases found with - | k
    · rw [hfound]
      show ∃ changed, (if b.parent.isSome = true then _ else Outcome.ok c false).result =
        .ok changed
      split
      · exact ⟨true, hmap none (reparent_isOk hids hh hplaced hb hplain (by simp))⟩
      · exact ⟨false, rfl⟩
    · -- What the search finds is a container on the canvas, and another block.
      have hsearch := hfound
      rw [containerAt_eq hids hh.containers] at hsearch
      obtain ⟨hk, hcontainer, hne⟩ := mem_of_firstHolding hsearch
      rw [hfound]
      show ∃ changed,
        (if b.parent = some k.id then Outcome.ok c false else _).result = .ok changed
      split
      · exact ⟨false, rfl⟩
      · refine ⟨true, hmap (some k.id) (reparent_isOk hids hh hplaced hb hplain ?_)⟩
        rintro q ⟨⟩
        exact ⟨fun heq ↦ hne (by rw [heq]), k, hk, rfl, hcontainer⟩

/-! ### Moving -/

/-- The canvas with a block at another place. -/
def movedTo (c : Canvas) (id : String) (place : Point) : Canvas :=
  c.modifyBlock id fun b ↦ { b with position := place }

theorem block?_movedTo (c : Canvas) (id : String) (place : Point) (k : String) :
    (c.movedTo id place).block? k =
      (c.block? k).map fun b ↦ if b.id = id then { b with position := place } else b :=
  block?_modifyBlock (f := fun b ↦ { b with position := place }) (fun _ ↦ rfl) k

theorem block?_movedTo_self {b : Block} (hb : c.block? id = some b) (place : Point) :
    (c.movedTo id place).block? id = some { b with position := place } := by
  rw [block?_movedTo, hb, Option.map_some, if_pos (mem_of_block? hb).2]

/-- The place on the canvas of a block after its move is the one computed before. -/
theorem absolute_movedTo (hc : Sound p c) {b : Block} (hb : c.block? id = some b)
    (hplain : p.isContainer b.type = false) {place spot : Point}
    (hafter : Sound p (c.movedTo id place)) (hspot : c.toAbsolute place b.parent = .ok spot) :
    (c.movedTo id place).absolute id = .ok spot := by
  have hmem := (mem_of_block? hb).1
  have hids := hc.consistent.blockIds
  rw [absolute_eq hafter.consistent.blockIds hafter.nested (block?_movedTo_self hb place)]
  rcases hparent : b.parent with - | q
  · rw [hparent] at hspot
    exact hspot
  · -- The parent is a container, hence another block, and stands where it stood.
    obtain ⟨k, hk, rfl, hcontainer, htop⟩ := hc.nested.parents b hmem q hparent
    have hfound : c.block? k.id = some k := (block?_eq_some_iff hids).2 ⟨hk, rfl⟩
    have hne : k.id ≠ id := by
      intro heq
      obtain rfl : b = k := Option.some.inj (hb.symm.trans (heq ▸ hfound))
      rw [hplain] at hcontainer
      exact absurd hcontainer (by simp)
    have hstill : (c.movedTo id place).block? k.id = some k := by
      rw [block?_movedTo, hfound, Option.map_some, if_neg hne]
    rw [hparent, toAbsolute, absolute_of_top hfound htop] at hspot
    show toAbsolute _ place (some k.id) = .ok spot
    rw [toAbsolute, absolute_of_top hstill htop]
    exact hspot

/-- **Looking up the container under a block sees the same after its move**: the block itself is
left out, and no other box has changed. -/
theorem containerAt_movedTo (hc : Sound p c) {place : Point} (hafter : Sound p (c.movedTo id place))
    (point : Point) :
    (c.movedTo id place).containerAt p point (some id) = c.containerAt p point (some id) := by
  rw [containerAt_eq hafter.consistent.blockIds hafter.nested.containers,
    containerAt_eq hc.consistent.blockIds hc.nested.containers]
  exact firstHolding_modify p point id (f := fun b ↦ { b with position := place }) (fun _ ↦ rfl)
    c.blocks

/-- **A block is moved or nothing is.** -/
theorem moveBlock_allOrNothing (hc : Sound p c) (hplaced : Placed c.blocks) {position : Value}
    (hposition : Supply.outside.place position) : (c.moveBlock p id position).AllOrNothing c := by
  refine .given fun b hblock ↦ ?_
  have hb : c.block? id = some b := block_eq_ok_iff.1 hblock
  split
  · exact .fail _
  · next place hplace =>
    refine .given fun spot hspot ↦ .given fun _ htest ↦ ?_
    have hstep : Retouch p .outside c [.blockMoved id place] (c.movedTo id place) :=
      .move c id b position place hb hposition hplace
    have hafter : Sound p (c.movedTo id place) := (Change.retouch hstep).sound hc
    have hplaced' : Placed (c.movedTo id place).blocks :=
      hstep.placed (fun _ ↦ Value.floating_of_ne_point) hplaced
    -- The container is looked up as before the move, from the same place.
    have hlookup : p.isContainer b.type = false → ∃ spot found,
        (c.movedTo id place).absolute id = .ok spot ∧
        (c.movedTo id place).containerAt p spot (some id) = .ok found := by
      intro hplain
      have hbefore : ((c.containerAt p spot (some id)).map fun _ ↦ ()) = .ok () := by
        have hnests : (!c.isContainer p id) = true := by simpa [isContainer_eq hb] using hplain
        rw [hitTest] at htest
        simpa [hnests] using htest
      obtain ⟨found, hfound, -⟩ := map_eq_ok_iff.1 hbefore
      exact ⟨spot, found, absolute_movedTo hc hb hplain hafter hspot,
        (containerAt_movedTo hc hafter spot).trans hfound⟩
    obtain ⟨changed, hresolve⟩ :=
      resolve_isOk hafter.consistent.blockIds hafter.hung hplaced' (block?_movedTo_self hb place)
        hlookup
    exact .of_ok hresolve

/-! ### Dropping -/

/-- **Looking up the container under a new block sees what was seen before it was there.** -/
theorem containerAt_concat {c' : Canvas} (hc : Sound p c) (hafter : Sound p c') {new : Block}
    (hnew : new.id ∉ c.blocks.map Block.id) (hblocks : c'.blocks = c.blocks ++ [new])
    (point : Point) : c'.containerAt p point (some new.id) = c.containerAt p point none := by
  rw [containerAt_eq hafter.consistent.blockIds hafter.nested.containers,
    containerAt_eq hc.consistent.blockIds hc.nested.containers, hblocks]
  exact firstHolding_concat hnew

/-- **A block is dropped or nothing is**, where the id it gets is new. -/
theorem dropBlock_allOrNothing (hc : Sound p c) (hplaced : Placed c.blocks)
    (hfresh : c.ids.blockId ∉ c.blocks.map Block.id) {n : NewBlock} (hn : n.Within .outside) :
    (c.dropBlock p n).AllOrNothing c := by
  unfold dropBlock
  split
  · exact .fail _
  · next spot hspot =>
    -- Making the block is all or nothing; it is left to see that resolving comes through after it.
    refine .given fun _ htest ↦ .andThen createBlock_allOrNothing fun id hid ↦ ?_
    obtain ⟨t, properties, position, htype, -, hposition, rfl, heq⟩ := createBlock_eq_ok hid
    obtain rfl : position = spot := Except.ok.inj (hposition.symm.trans hspot)
    have hmade : (c.createBlock p n).Made p .outside c := createBlock_made hn
    have hroom : ¬ Evicts p c (c.createBlock p n).events := by
      rw [heq]
      refine not_evicts_of_fresh hc.nested fun id hid ↦ ?_
      obtain rfl : id = c.ids.blockId := List.mem_singleton.1 hid
      exact hfresh
    have hafter : Sound p (c.createBlock p n).canvas := (hmade.sound_iff hc).2 hroom
    have hplaced' : Placed (c.createBlock p n).canvas.blocks :=
      hmade.traced.placed (fun _ ↦ Value.floating_of_ne_point) hplaced
    generalize hnew : c.newBlock t properties position
      ((Fields.get? n.properties "label").getD n.label) = new at heq
    obtain ⟨hnewId, htop, hplace⟩ : new.id = c.ids.blockId ∧ new.parent = none ∧
        new.position = position := by
      rw [← hnew]
      exact ⟨rfl, rfl, rfl⟩
    rw [heq] at hafter hplaced' ⊢
    have hblocks : ({ c with ids := c.ids.afterBlock }.putBlock new).blocks = c.blocks ++ [new] :=
      putBy_of_not_mem Block.id (hnewId ▸ hfresh)
    have hfound : ({ c with ids := c.ids.afterBlock }.putBlock new).block? c.ids.blockId =
        some new := hnewId ▸ find?_putBy_self Block.id new c.blocks
    have hresolved := resolve_isOk hafter.consistent.blockIds hafter.hung hplaced' hfound
    obtain ⟨changed, hresolve⟩ := hresolved fun _ ↦ by
      obtain ⟨found, hlookup, -⟩ := map_eq_ok_iff.1 (show ((c.containerAt p position none).map
        fun _ ↦ ()) = .ok () from htest)
      have hsame := containerAt_concat hc hafter (hnewId ▸ hfresh) hblocks position
      rw [hnewId] at hsame
      exact ⟨position, found, hplace ▸ absolute_of_top hfound htop, hsame.trans hlookup⟩
    refine ⟨c.ids.blockId, ?_⟩
    show ((resolve p c.ids.blockId _).result).map _ = .ok _
    rw [hresolve]
    rfl

/-! ### Deleting -/

/-- Places that are floats can all be set free. -/
theorem freed_isOk {corner : Point} (hcorner : corner.IsFloat) {blocks : List Block}
    (hplaced : Placed blocks) : (freed id corner blocks).2 = .ok () := by
  induction blocks with
  | nil => rfl
  | cons b rest ih =>
    obtain ⟨hb, hrest⟩ := List.forall_mem_cons.1 hplaced
    obtain ⟨spot, hspot, -⟩ := hb.plus hcorner
    rw [freed]
    split
    · rw [hspot]
      exact ih hrest
    · exact ih hrest

/-- Where every place is made of floats, all that is inside a block can be set free. -/
theorem freeChildren_isOk (hh : Hung p c.blocks) (hplaced : Placed c.blocks) {b : Block}
    (hb : c.block? id = some b) : (c.freeChildren id).result = .ok () := by
  obtain ⟨corner, hcorner, hfloat⟩ := absolute_isOk hh hplaced hb
  unfold freeChildren
  split
  · rfl
  · rw [hcorner]
    exact freed_isOk hfloat hplaced

/-- **A block is deleted or nothing is done.** -/
theorem deleteBlock_spares (hh : Hung p c.blocks) (hplaced : Placed c.blocks) :
    (c.deleteBlock p id).Spares reasons c := by
  refine .given fun b hb ↦ ?_
  split
  · exact .fail _
  · have hfree := freeChildren_isOk hh hplaced (block_eq_ok_iff.1 hb)
    exact .andThen (.of_ok hfree) fun _ _ ↦ ⟨(), rfl⟩

/-! ### Edits and instructions -/

/-- **An edit from outside is carried out whole or not at all.** -/
theorem apply_allOrNothing (hc : Sound p c) (hplaced : Placed c.blocks)
    (hfresh : c.ids.blockId ∉ c.blocks.map Block.id) {edit : Edit} (h : edit.Within .outside)
    (hload : ∀ d, edit ≠ .load d) : (c.apply p edit).AllOrNothing c := by
  cases edit with
  | create n => exact .map _ createBlock_allOrNothing
  | drop n => exact .map _ (dropBlock_allOrNothing hc hplaced hfresh h)
  | delete id => exact .map _ (deleteBlock_spares hc.hung hplaced).allOrNothing
  | update id patch => exact .map _ updateBlock_spares.allOrNothing
  | move id position => exact .map _ (moveBlock_allOrNothing hc hplaced h)
  | reparent id parent position => exact .map _ reparent_spares.allOrNothing
  | resolve id => exact .map _ resolve_spares.allOrNothing
  | connect source target data => exact .map _ createWire_spares.allOrNothing
  | disconnect id => exact .map _ deleteWire_spares.allOrNothing
  | rewire id patch => exact .map _ updateWire_spares.allOrNothing
  | select selection => exact .map _ select_spares.allOrNothing
  | bindCall id name => exact .map _ bindCall_spares.allOrNothing
  | load d => exact absurd rfl (hload d)

end Canvas

/-- The entries of a record have texts for names. -/
theorem textFields?_map_text (fields : Fields Value) :
    textFields? (fields.map fun e ↦ (.text e.1, e.2)) = some fields := by
  induction fields with
  | nil => rfl
  | cons e rest ih =>
    rw [List.map_cons, textFields?, ih]
    rfl

/-- **The shapes that operations declare**: no live points for places, and a record or nothing for a
patch. -/
def Instruction.Declared (i : Instruction) : Prop :=
  i.Within .outside ∧ (∀ d, i ≠ .load d) ∧
    ∀ id patch, i = .update id patch → patch = .null ∨ ∃ fields, patch = .object fields

namespace Canvas

variable {p : Palette} {c : Canvas} {i : Instruction}

/-- **An instruction of a declared shape is followed or nothing is done.** -/
theorem follow_allOrNothing (hc : Sound p c) (hplaced : Placed c.blocks)
    (hfresh : c.ids.blockId ∉ c.blocks.map Block.id) (hi : i.Declared) :
    (c.follow p i).AllOrNothing c := by
  obtain ⟨hwithin, hload, hpatch⟩ := hi
  refine .given fun reading hr ↦ ?_
  by_cases hmake : i.MakesBlock
  · have happly : ∀ {make : NewBlock → Edit} {n : NewBlock}, make = .create ∨ make = .drop →
        n.Within .outside → (c.apply p (make n)).AllOrNothing c := by
      rintro make n (rfl | rfl) hn
      · exact apply_allOrNothing hc hplaced hfresh hn (by simp)
      · exact apply_allOrNothing hc hplaced hfresh hn (by simp)
    cases Instruction.read_making hwithin hmake hr with
    | edit make n makes h => exact happly makes h
    | furnish make n raw entries makes h values valid =>
      -- The entries were checked before; writing them is not refused.
      refine .andThen (happly makes h) fun reply _ ↦ ?_
      cases reply <;> exact ⟨_, rfl⟩
  · cases Instruction.read_changing hwithin hload hmake hr with
    | edit e h unloaded unmade => exact apply_allOrNothing hc hplaced hfresh h unloaded
    | write named patch id entries update record odd values =>
      -- A record has texts for names.
      rcases hpatch named patch update with rfl | ⟨fields, rfl⟩
      · exact absurd record (by simp [Instruction.recordOf, Value.record, Value.items?,
          Except.mapError])
      · obtain rfl : fields.map (fun e ↦ (Value.text e.1, e.2)) = entries := Except.ok.inj record
        exact absurd odd (by simp [textFields?_map_text])

end Canvas

/-! ### Runs -/

/-- A document of one block can be handed over as a value. -/
theorem Document.portable_lone (id : String) : (Document.lone id).Portable where
  blocks := by
    intro r hr
    rw [List.mem_singleton.1 hr]
    exact ⟨⟨0, 0, rfl⟩, fun e he ↦ absurd he List.not_mem_nil⟩
  wires := fun w hw ↦ absurd hw List.not_mem_nil

/-- **The shapes that actions declare.** What is opened has been read from some input. -/
def Action.Declared : Action → Prop
  | follow i => i.Declared
  | openDocument source => ∃ v, source = Document.ofInput v

/-- **What comes from outside**: no live points for places, and nothing but documents is loaded. -/
def Action.FromOutside : Action → Prop
  | follow i => i.Within .outside ∧ ∀ d, i ≠ .load d
  | openDocument source => ∃ v, source = Document.ofInput v

theorem Action.Declared.fromOutside {a : Action} (ha : a.Declared) : a.FromOutside := by
  cases a with
  | openDocument source => exact ha
  | follow i => exact ⟨ha.1, ha.2.1⟩

theorem Action.FromOutside.checked {a : Action} (ha : a.FromOutside) : a.Checked := by
  cases a with
  | openDocument source => exact trivial
  | follow i =>
    cases i with
    | load d => exact absurd rfl (ha.2 d)
    | _ => exact trivial

theorem Action.FromOutside.within {a : Action} (ha : a.FromOutside) : a.Within .outside := by
  cases a with
  | openDocument source => exact trivial
  | follow i => exact ha.1

open Canvas

variable {p : Palette} {c : Canvas}

/-- What is loaded from a document has floats for places. -/
theorem placed_of_drawing? {a : Action} (ha : a.FromOutside) {d : Drawing}
    (h : a.drawing? p = some d) : Placed d.blocks := by
  cases a with
  | follow i =>
    cases i with
    | load d' => exact absurd rfl (ha.2 d')
    | _ => exact absurd h (by simp [Action.drawing?])
  | openDocument source =>
    obtain ⟨v, rfl⟩ := ha
    rcases hread : Document.ofInput v with complaints | document
    · exact absurd h (by simp [Action.drawing?, hread, Document.open?, Except.toOption])
    · rcases hopen : document.toDrawing (some p) with fault | d'
      · exact absurd h (by simp [Action.drawing?, hread, Document.open?, hopen, Except.toOption])
      · obtain rfl : d' = d := by
          simpa [Action.drawing?, hread, Document.open?, hopen, Except.toOption] using h
        intro b hb
        obtain ⟨-, hblocks, -⟩ := Document.toDrawing_eq_ok hopen
        obtain ⟨r, hr, hrb⟩ := exists_of_forall₂ hblocks hb
        obtain ⟨properties, -, rfl⟩ := Document.BlockRecord.toBlock_eq_ok_iff.1 hrb
        exact (Document.ofInput_eq_ok hread r hr).1

/-- Places are floats after every run of actions from outside. -/
theorem placed_run {actions : List Action} (h : ∀ a ∈ actions, a.FromOutside) :
    Placed (run p actions).blocks :=
  graph_induction (P := fun blocks _ ↦ Placed blocks) (fun _ hb ↦ absurd hb List.not_mem_nil)
    (fun step _ hplaced ↦ step.placed (fun _ ↦ Value.floating_of_ne_point) hplaced) fun a ha ↦
      ⟨(h a ha).checked, (h a ha).within, fun _ hd _ ↦ placed_of_drawing? (h a ha) hd⟩

/-- An action that loads nothing and is refused touches nothing. -/
theorem untouched_of_refused (hc : Sound p c) (hplaced : Placed c.blocks)
    (hfresh : c.ids.blockId ∉ c.blocks.map Block.id) {a : Action} (ha : a.Declared)
    (hnone : a.drawing? p = none) (hrefused : (a.effect p c).refused = true) :
    c.Untouched (a.effect p c).canvas ∧ (a.effect p c).events = [] := by
  cases a with
  | openDocument source =>
    rcases hopen : Document.open? (some p) source with fault | d
    · simp only [Action.effect, hopen, and_true]
      exact .refl c
    · exact absurd hnone (by simp [Action.drawing?, hopen, Except.toOption])
  | follow i =>
    rcases hresult : (c.follow p i).result with fault | reply
    · exact follow_allOrNothing hc hplaced hfresh ha fault trivial hresult
    · exact absurd hrefused
        (by simp [Action.effect, Outcome.effect, Effect.refused, hresult, Except.toOption])

/-- **What a load that is refused leaves**: everything as it was, unless it was interrupted with a
drawing that the canvas does not show already. -/
theorem untouched_load_iff {d : Drawing} (hd : Consistent p d.blocks d.wires) {fault : Fault}
    (hrefused : (c.load d).result = .error fault) :
    (c.Untouched (c.load d).canvas ∧ (c.load d).events = []) ↔
      (d.Interrupts → d.blocks = c.blocks ∧ d.wires = c.wires ∧ d.created = c.created) := by
  have hload := load_cases d c
  have hlaid := laid_eq (c := c) hd
  generalize c.load d = o at hload hrefused
  cases hload with
  | refused deep =>
    refine ⟨fun _ hinterrupts ↦ ?_, fun _ ↦ ⟨.refl c, rfl⟩⟩
    obtain ⟨b, hb, hdeep⟩ := deep
    exact absurd (hinterrupts.1 b hb) (by simp [hdeep])
  | stoppedAtBlock interrupts long =>
    -- The drawing is there already; selection and counters are still those of before.
    rw [hlaid]
    constructor
    · exact fun h _ ↦ ⟨h.1.blocks, h.1.wires, h.1.created⟩
    · intro h
      obtain ⟨hblocks, hwires, hcreated⟩ := h interrupts
      exact ⟨⟨hblocks, hwires, rfl, hcreated, Int.le_refl _, Int.le_refl _⟩, rfl⟩
  | stoppedAtWire interrupts readable =>
    rw [hlaid]
    constructor
    · exact fun h _ ↦ ⟨h.1.blocks, h.1.wires, h.1.created⟩
    · intro h
      obtain ⟨hblocks, hwires, hcreated⟩ := h interrupts
      exact ⟨⟨hblocks, hwires, rfl, hcreated, Int.le_max_left _ _, Int.le_max_left _ _⟩, rfl⟩
  | complete copyable readable => exact absurd hrefused (by simp)

/-- **All or nothing, along every run.** After any run of actions of declared shapes, none of them
an interrupted load, let an action of a declared shape be refused, for whatever reason. Then blocks,
wires, selection and creation stamp are exactly what they were, the counters have not gone back and
nothing was reported, **unless** the action is a load that was interrupted, with a drawing that is
not what the canvas shows. -/
theorem refused_untouched_iff (p : Palette) {actions : List Action} {a : Action}
    (hactions : ∀ x ∈ actions, x.Declared ∧ ¬ x.Interrupted p) (ha : a.Declared)
    (hrefused : (a.effect p (run p actions)).refused = true) :
    ((run p actions).Untouched (a.effect p (run p actions)).canvas ∧
        (a.effect p (run p actions)).events = []) ↔
      ∀ d, a.drawing? p = some d → d.Interrupts →
        d.blocks = (run p actions).blocks ∧ d.wires = (run p actions).wires ∧
          d.created = (run p actions).created := by
  have hcalm : ∀ x ∈ actions, ¬ x.Interrupted p := fun x hx ↦ (hactions x hx).2
  have hsound : Sound p (run p actions) :=
    sound_of_calm (fun x hx ↦ (hactions x hx).1.fromOutside.checked) hcalm
  have hbelow : Item.block.Below (run p actions) := Item.below_run hcalm
  have hfresh := hbelow.blockId_not_mem
  have hplaced : Placed (run p actions).blocks :=
    placed_run fun x hx ↦ (hactions x hx).1.fromOutside
  -- From here on the run does not matter, only what it leaves: rules, float places and a new id.
  generalize run p actions = c at hrefused hsound hfresh hplaced ⊢
  rcases hd : a.drawing? p with - | d
  · exact ⟨fun _ d h ↦ absurd h (by simp),
      fun _ ↦ untouched_of_refused hsound hplaced hfresh ha hd hrefused⟩
  · have heffect : a.effect p c = ((c.load d).map fun _ ↦ Reply.done).effect :=
      Action.effect_of_drawing? hd
    rcases hresult : (c.load d).result with fault | done
    · have hload := untouched_load_iff (rules_of_drawing? ha.fromOutside.checked hd).1 hresult
      rw [heffect]
      refine hload.trans ⟨fun h d' hd' ↦ ?_, fun h ↦ h d rfl⟩
      obtain rfl := Option.some.inj hd'
      exact h
    · rw [heffect] at hrefused
      have haccepted : ¬((c.load d).map fun _ ↦ Reply.done).effect.refused := by
        simp [Outcome.effect, Outcome.map, Effect.refused, hresult, Except.map, Except.toOption]
      exact absurd hrefused haccepted

/-- A container is given a width that is no number, which its type does not forbid; then a block is
moved, and refused because nobody can tell whether it is inside. It stays where it is. -/
theorem refused_move_untouched :
    let box : BlockType := { id := "box", name := .text "Box", container := true }
    let p : Palette := ⟨[box, Palette.debugPrint]⟩
    let actions : List Action := [.follow (.create { type := .text "box" }),
      .follow (.create { type := .text "debug" }),
      .follow (.update (.text "node_0") (.object [("width", .text "wide")])),
      .follow (.selectBlock (.text "node_1"))]
    let moved : Action := .follow (.move (.text "node_1") (.object [("x", .int 7), ("y", .int 7)]))
    (∀ a ∈ actions, a.Declared ∧ ¬ a.Interrupted p) ∧ moved.Declared ∧
      (moved.effect p (run p actions)).refused = true ∧
      (run p actions).blocks.map Block.id = ["node_0", "node_1"] ∧
      (run p actions).Untouched (moved.effect p (run p actions)).canvas ∧
      (moved.effect p (run p actions)).events = [] := by
  intro box p actions moved
  have hactions : ∀ a ∈ actions, a.Declared ∧ ¬ a.Interrupted p := by
    simp [actions, Action.Declared, Instruction.Declared, Instruction.Within, Supply.outside,
      Supply.record, Action.Interrupted, Action.drawing?]
  have hmoved : moved.Declared := by
    simp [moved, Action.Declared, Instruction.Declared, Instruction.Within, Supply.outside]
  have hrefused : (moved.effect p (run p actions)).refused = true := by decide +kernel
  exact ⟨hactions, hmoved, hrefused, by decide +kernel,
    (refused_untouched_iff p hactions hmoved hrefused).2 fun d hd ↦ absurd hd (by simp [moved,
      Action.drawing?])⟩

/-- **An interrupted load is refused and touches the canvas.** A document whose only block has an
overlong id is opened on the empty canvas. -/
theorem refused_load_touches :
    let p := Palette.bundled
    let opened : Action := .openDocument (Document.ofInput (Document.lone overlongId).toValue)
    opened.Declared ∧ (opened.effect p (run p [])).refused = true ∧
      (run p []).blocks = [] ∧
      (opened.effect p (run p [])).canvas.blocks.map Block.id = [overlongId] ∧
      ¬ (run p []).Untouched (opened.effect p (run p [])).canvas := by
  intro p opened
  have hread : Document.ofInput (Document.lone overlongId).toValue = .ok (.lone overlongId) :=
    Document.ofInput_toValue (Document.portable_lone overlongId)
  have hopened : opened = .openDocument (.ok (.lone overlongId)) := congrArg _ hread
  refine ⟨⟨_, rfl⟩, ?_⟩
  rw [hopened, Action.effect_lone isOverlongId_overlongId]
  refine ⟨rfl, rfl, blockIds_laid_lone _ overlongId, fun huntouched ↦ ?_⟩
  have hids := blockIds_laid_lone (run p []) overlongId
  rw [huntouched.blocks] at hids
  exact absurd hids (List.cons_ne_nil _ _).symm

end FlowCanvas
