import FlowCanvas.Proofs.Mirror

/-!
# Blocks that are not where they were

An editor that shows a canvas learns from the events where a block has gone. A block is *announced*
if the last event that reports a place for it reports the place where it is, and, where its parent
has changed, some event reports the new one (`Block.Announced`).

The parent and the place of a block are written by moving it, by giving it a parent and by resolving
its parent; all of these report. **Deleting a container writes them too**, for each block inside,
and reports the container alone. And a block that is created under an id that is taken stands in the
place of another, wherever that was; only an interrupted load leaves such ids.

What an operation that comes through does to a block is one of four things (`Told`): it leaves the
block where it is, announces it, sets it free or replaces it. Each operation has one lemma for this.
The main statement is an `iff` (`announced_iff`): a block that is not where it was is announced
unless it was set free with its container or replaced.
-/

namespace FlowCanvas

open Checks

/-- The place that an event reports for a block. -/
def Event.placeOf? (id : String) : Event → Option Point
  | blockMoved k position | blockReparented k _ _ position => if k = id then some position else none
  | _ => none

/-- The last place that is reported for a block. -/
def Event.lastPlace? (id : String) (es : List Event) : Option Point :=
  (es.filterMap (placeOf? id)).getLast?

namespace Block

/-- **Where a block is now has been told**: its place, and its parent if that is another one. -/
structure Announced (es : List Event) (b b' : Block) : Prop where
  place : Event.lastPlace? b.id es = some b'.position
  parent : b'.parent ≠ b.parent → ∃ previous place,
    Event.blockReparented b.id b'.parent previous place ∈ es

/-- The container of a block was deleted. -/
def SetFree (es : List Event) (b : Block) : Prop :=
  ∃ k wires, b.parent = some k ∧ Event.blockDeleted k wires ∈ es

/-- A block was made under the id of a block, and was not put into a container. -/
def Replaced (es : List Event) (b b' : Block) : Prop :=
  b'.parent = none ∧ ∃ type, Event.blockCreated b.id type ∈ es

/-- A block is where it was: it has its parent and its place. -/
def InPlace (b b' : Block) : Prop := b'.parent = b.parent ∧ b'.position = b.position

end Block

open Event (lastPlace?)

/-- **What becomes of a block**, and what is told of it. -/
inductive Told (c : Canvas) (es : List Event) (b b' : Block) : Prop
  | inPlace (h : b.InPlace b')
  | announced (h : b.Announced es b') (free : ¬ b.SetFree es) (replaced : ¬ b.Replaced es b')
  | setFree (h : b.SetFree es) (silent : lastPlace? b.id es = none) (top : b'.parent = none)
      (place : ∃ k corner, b.parent = some k ∧ c.absolute k = .ok corner ∧
        b.position.plus corner = .ok b'.position)
  | replaced (h : b.Replaced es b') (silent : lastPlace? b.id es = none) (free : ¬ b.SetFree es)

/-- What is written later to a block that stays where it is changes nothing of what was told. -/
theorem Told.then_inPlace {c : Canvas} {es : List Event} {b b' b'' : Block} (h : Told c es b b')
    (h' : b'.InPlace b'') : Told c es b b'' := by
  obtain ⟨hparent, hposition⟩ := h'
  have hreplaced : b.Replaced es b'' ↔ b.Replaced es b' := by
    rw [Block.Replaced, Block.Replaced, hparent]
  cases h with
  | inPlace h => exact .inPlace ⟨hparent.trans h.1, hposition.trans h.2⟩
  | announced h free replaced =>
    refine .announced ⟨hposition ▸ h.place, fun hne ↦ ?_⟩ free (fun h ↦ replaced (hreplaced.1 h))
    rw [hparent] at hne ⊢
    exact h.parent hne
  | setFree h silent top place =>
    exact .setFree h silent (hparent.trans top) (hposition ▸ place)
  | replaced h silent free => exact .replaced (hreplaced.2 h) silent free

namespace Outcome

variable {α β : Type} {c : Canvas}

/-- Whatever happened, the blocks that are left are where they were. -/
def InPlace (o : Outcome α) (c : Canvas) : Prop :=
  ∀ k b b', c.block? k = some b → o.canvas.block? k = some b' → b.InPlace b'

/-- What became of the blocks, and what was told of them. -/
def Tells (o : Outcome α) (c : Canvas) : Prop :=
  ∀ k b b', c.block? k = some b → o.canvas.block? k = some b' → Told c o.events b b'

theorem InPlace.tells {o : Outcome α} (h : o.InPlace c) : o.Tells c :=
  fun k b b' hb hb' ↦ .inPlace (h k b b' hb hb')

/-- Where the blocks are the same, they are where they were. -/
theorem InPlace.of_blocks {o : Outcome α} (h : o.canvas.blocks = c.blocks) : o.InPlace c := by
  intro k b b' hb hb'
  rw [Canvas.block?, h] at hb'
  obtain rfl : b = b' := Option.some.inj (hb.symm.trans hb')
  exact ⟨rfl, rfl⟩

theorem InPlace.fail (fault : Fault) : (Outcome.fail c fault : Outcome α).InPlace c :=
  .of_blocks rfl

theorem InPlace.given {check : Except Fault α} {f : α → Outcome β}
    (h : ∀ a, check = .ok a → (f a).InPlace c) : (Outcome.given c check f).InPlace c := by
  cases check with
  | error fault => exact .fail fault
  | ok a => exact h a rfl

end Outcome

namespace Canvas

variable {p : Palette} {c : Canvas} {id : String}

/-- What is found after a block was changed under its id: what it became, or another block. -/
theorem exists_of_block?_modifyBlock {f : Block → Block} {k : String} {b' : Block}
    (h : (c.modifyBlock id f).block? k = some b') (hf : ∀ b, (f b).id = b.id) :
    ∃ b, c.block? k = some b ∧ ((b.id = id ∧ b' = f b) ∨ (b.id ≠ id ∧ b' = b)) := by
  rw [block?_modifyBlock hf] at h
  obtain ⟨b, hb, rfl⟩ := Option.map_eq_some_iff.1 h
  refine ⟨b, hb, ?_⟩
  by_cases hid : b.id = id
  · exact .inl ⟨hid, if_pos hid⟩
  · exact .inr ⟨hid, if_neg hid⟩

/-- What a block becomes that is changed under its id. -/
theorem of_block?_modifyBlock {f : Block → Block} {k : String} {b b' : Block}
    (hb : c.block? k = some b) (hb' : (c.modifyBlock id f).block? k = some b')
    (hf : ∀ b, (f b).id = b.id) : (b.id = id ∧ b' = f b) ∨ (b.id ≠ id ∧ b' = b) := by
  obtain ⟨m, hm, h⟩ := exists_of_block?_modifyBlock hb' hf
  obtain rfl : m = b := Option.some.inj (hm.symm.trans hb)
  exact h

/-- Writing to a block what is no parent and no place leaves all blocks where they are. -/
theorem inPlace_modifyBlock {f : Block → Block} {k : String} {b b' : Block}
    (hb : c.block? k = some b) (hb' : (c.modifyBlock id f).block? k = some b')
    (hid : ∀ b, (f b).id = b.id) (hf : ∀ b : Block, b.InPlace (f b)) : b.InPlace b' := by
  obtain ⟨-, rfl⟩ | ⟨-, rfl⟩ := of_block?_modifyBlock hb hb' hid
  · exact hf b
  · exact ⟨rfl, rfl⟩

theorem inPlace_writeEntries {entries : List (Value × Value)} {k : String} {b b' : Block}
    (hb : c.block? k = some b) (hb' : (c.writeEntries id entries).block? k = some b') :
    b.InPlace b' := by
  refine inPlace_modifyBlock hb hb' (fun b ↦ ?_) fun b ↦ ?_
  · obtain ⟨properties, strays, h⟩ := write_eq b entries
    rw [h]
  · obtain ⟨properties, strays, h⟩ := write_eq b entries
    rw [h]
    exact ⟨rfl, rfl⟩

/-! ### Operations that move nothing -/

theorem updateBlock_inPlace {patch : Fields Value} : (c.updateBlock p id patch).InPlace c := by
  refine .given fun b _ ↦ .given fun properties _ ↦ ?_
  intro k b b' hb hb'
  exact inPlace_modifyBlock hb hb' (fun _ ↦ rfl) fun _ ↦ ⟨rfl, rfl⟩

theorem bindCall_inPlace {name : Value} : (c.bindCall p id name).InPlace c := by
  refine .given fun b _ ↦ ?_
  split
  · exact .fail _
  · split
    · exact .fail _
    · split
      · exact .fail _
      · exact updateBlock_inPlace

theorem updateEntries_inPlace {entries : List (Value × Value)} :
    (c.updateEntries p id entries).InPlace c := by
  refine .given fun b _ ↦ .given fun others _ ↦ ?_
  -- Reported or not, the entries are written and then the label.
  have hwritten : ∀ k b b', c.block? k = some b →
      ((c.writeEntries id others).modifyBlock id fun b ↦
        { b with label := (takeLabel entries).1.getD b.label }).block? k = some b' →
      b.InPlace b' := by
    intro k b b' hb hb'
    obtain ⟨m, hm, -⟩ := exists_of_block?_modifyBlock hb' fun _ ↦ rfl
    obtain ⟨hparent, hposition⟩ := inPlace_writeEntries hb hm
    have hlabelled : m.InPlace b' :=
      inPlace_modifyBlock hm hb' (fun _ ↦ rfl) fun _ ↦ ⟨rfl, rfl⟩
    exact ⟨hlabelled.1.trans hparent, hlabelled.2.trans hposition⟩
  split
  · exact hwritten
  · exact hwritten

theorem createWire_inPlace {source target : String} {data : Fields Value} :
    (c.createWire source target data).InPlace c := by
  refine .given fun _ _ ↦ ?_
  split
  · exact .of_blocks rfl
  · refine .given fun wired _ ↦ ?_
    obtain ⟨kind, mapping⟩ := wired
    dsimp only
    split
    · exact .fail _
    · exact .of_blocks rfl

theorem deleteWire_inPlace : (c.deleteWire id).InPlace c := by
  refine .given fun w _ ↦ .of_blocks ?_
  show (deselecting (c.selection = .wire id) (c.withoutWire id)).1.blocks = c.blocks
  rw [deselecting_eq]
  rfl

theorem updateWire_inPlace {patch : Fields Value} : (c.updateWire id patch).InPlace c :=
  .given fun _ _ ↦ .given fun _ _ ↦ .of_blocks rfl

theorem select_inPlace {selection : Selection} : (c.select selection).InPlace c := by
  refine .given fun _ _ ↦ .of_blocks ?_
  show (c.selecting selection).1.blocks = c.blocks
  rw [selecting_eq]

/-! ### Operations that move blocks -/

/-- An event for the parent and the place of a block announces it, whatever was reported before. -/
theorem announced_concat {b b' : Block} (es : List Event) {parent previous : Option String}
    {place : Point} (hparent : b'.parent = parent) (hplace : b'.position = place) :
    b.Announced (es ++ [.blockReparented b.id parent previous place]) b' where
  place := by
    rw [Event.lastPlace?, List.filterMap_append, hplace]
    simp [Event.placeOf?]
  parent := by
    intro _
    rw [hparent]
    exact ⟨previous, place, List.mem_append_right _ (List.mem_singleton_self _)⟩

/-- A block that gets a parent and a place is announced, and the others are where they were. -/
theorem told_of_reparented {parent previous : Option String} {place : Point} {k : String}
    {b b' : Block} (hb : c.block? k = some b)
    (hb' : (c.modifyBlock id fun b ↦ { b with parent := parent, position := place }).block? k =
      some b') : Told c [.blockReparented id parent previous place] b b' := by
  obtain ⟨rfl, rfl⟩ | ⟨-, rfl⟩ := of_block?_modifyBlock hb hb' fun _ ↦ rfl
  · exact .announced (announced_concat [] rfl rfl) (by simp [Block.SetFree])
      (by simp [Block.Replaced])
  · exact .inPlace ⟨rfl, rfl⟩

/-- **Putting a block under a parent tells of it.** -/
theorem reparent_tells {parent : Option String} {position : Value}
    (h : (c.reparent p id parent position).result = .ok ()) :
    (c.reparent p id parent position).Tells c := by
  obtain ⟨m, place, hm, -, -, heq⟩ := reparent_eq_ok h
  intro k b b' hb hb'
  rw [heq] at hb' ⊢
  exact told_of_reparented hb hb'

/-- **Resolving leaves everything as it is, or gives the block another parent and reports it.** -/
theorem resolve_settled {changed : Bool} (h : (c.resolve p id).result = .ok changed) :
    (c.resolve p id).canvas = c ∧ (c.resolve p id).events = [] ∨
      ∃ b parent place, c.block? id = some b ∧ parent ≠ b.parent ∧
        (c.resolve p id).canvas =
          c.modifyBlock id (fun b ↦ { b with parent := parent, position := place }) ∧
        (c.resolve p id).events = [.blockReparented id parent b.parent place] := by
  obtain ⟨b, hb, ⟨-, heq⟩ | ⟨-, spot, found, -, -, ⟨-, heq⟩ | ⟨hother, hok, heq⟩⟩⟩ :=
    resolve_eq_ok h
  · rw [heq]
    exact .inl ⟨rfl, rfl⟩
  · rw [heq]
    exact .inl ⟨rfl, rfl⟩
  · obtain ⟨m, place, hm, -, -, hreparent⟩ := reparent_eq_ok hok
    obtain rfl : m = b := Option.some.inj (hm.symm.trans hb)
    rw [heq, hreparent]
    exact .inr ⟨m, found.map Block.id, place, hb, Ne.symm hother, rfl, rfl⟩

/-- **Resolving tells of the block that it moves.** -/
theorem resolve_tells {changed : Bool} (h : (c.resolve p id).result = .ok changed) :
    (c.resolve p id).Tells c := by
  intro k b b' hb hb'
  obtain ⟨hcanvas, -⟩ | ⟨m, parent, place, hm, -, hcanvas, hevents⟩ := resolve_settled h
  · rw [hcanvas] at hb'
    obtain rfl : b = b' := Option.some.inj (hb.symm.trans hb')
    exact .inPlace ⟨rfl, rfl⟩
  · rw [hcanvas] at hb'
    rw [hevents]
    exact told_of_reparented hb hb'

/-- **Moving tells of the block**, which may come under another parent. -/
theorem moveBlock_tells {position : Value} {changed : Bool}
    (h : (c.moveBlock p id position).result = .ok changed) :
    (c.moveBlock p id position).Tells c := by
  obtain ⟨m, place, spot, hm, -, -, -, hresolve, heq⟩ := moveBlock_eq_ok h
  intro k b b' hb hb'
  rw [heq] at hb' ⊢
  replace hb' : ((c.modifyBlock id fun b ↦ { b with position := place }).resolve p
    id).canvas.block? k = some b' := hb'
  show Told c ([.blockMoved id place] ++ _) b b'
  obtain ⟨hcanvas, hevents⟩ | ⟨x, parent, place', -, -, hcanvas, hevents⟩ :=
    resolve_settled hresolve
  · rw [hcanvas] at hb'
    rw [hevents]
    obtain ⟨rfl, rfl⟩ | ⟨-, rfl⟩ := of_block?_modifyBlock hb hb' fun _ ↦ rfl
    · -- The block was moved in its frame, and that frame is still the right one.
      refine .announced ⟨?_, fun hne ↦ absurd rfl hne⟩ (by simp [Block.SetFree])
        (by simp [Block.Replaced])
      simp [Event.lastPlace?, Event.placeOf?]
    · exact .inPlace ⟨rfl, rfl⟩
  · rw [hcanvas] at hb'
    rw [hevents]
    obtain ⟨b₁, hb₁, hlast⟩ := exists_of_block?_modifyBlock hb' fun _ ↦ rfl
    obtain ⟨rfl, rfl⟩ | ⟨hid, rfl⟩ := of_block?_modifyBlock hb hb₁ fun _ ↦ rfl
    · obtain ⟨-, rfl⟩ | ⟨hne, -⟩ := hlast
      · exact .announced (announced_concat [.blockMoved b.id place] rfl rfl)
          (by simp [Block.SetFree]) (by simp [Block.Replaced])
      · exact absurd rfl hne
    · obtain ⟨heq, -⟩ | ⟨-, rfl⟩ := hlast
      · exact absurd heq hid
      · exact .inPlace ⟨rfl, rfl⟩

/-- Blocks inside a deleted container are set free, without a word; the others are where they
were. -/
theorem deleteBlock_tells (h : (c.deleteBlock p id).result = .ok ()) :
    (c.deleteBlock p id).Tells c := by
  obtain ⟨es, hes, hevents, hleft⟩ := deleteBlock_eq_ok h
  intro k b b' hb hb'
  obtain ⟨hreleased, -⟩ := hleft hb hb'
  obtain rfl | ⟨corner, spot, hcorner, hparent, hspot, rfl⟩ := hreleased
  · exact .inPlace ⟨rfl, rfl⟩
  · rw [hevents]
    refine .setFree ⟨id, _, hparent, List.mem_append_right _ (List.mem_singleton_self _)⟩ ?_ rfl
      ⟨id, corner, hparent, hcorner, hspot⟩
    have hsilent : ∀ e ∈ es ++ [.blockDeleted id (c.wireIdsOf id)], e.placeOf? b.id = none := by
      intro e he
      rcases List.mem_append.1 he with he | he
      · rw [hes e he]
        rfl
      · rw [List.mem_singleton.1 he]
        rfl
    rw [Event.lastPlace?, List.filterMap_eq_nil_iff.2 hsilent]
    rfl

/-! ### Operations that make blocks -/

/-- What stands under an id after a block was made. -/
theorem createBlock_found {n : NewBlock} (h : (c.createBlock p n).result = .ok id) {k : String}
    {b b' : Block} (hb : c.block? k = some b)
    (hb' : (c.createBlock p n).canvas.block? k = some b') :
    (b.id = id ∧ b'.id = id ∧ b'.parent = none) ∨ (b.id ≠ id ∧ b' = b) := by
  obtain ⟨t, properties, position, -, -, -, rfl, heq⟩ := createBlock_eq_ok h
  obtain ⟨-, rfl⟩ := mem_of_block? hb
  rw [heq] at hb'
  generalize hnew : c.newBlock t properties position
    ((Fields.get? n.properties "label").getD n.label) = new at hb'
  obtain ⟨hid, htop⟩ : new.id = c.ids.blockId ∧ new.parent = none := by
    rw [← hnew]
    exact ⟨rfl, rfl⟩
  by_cases htaken : b.id = c.ids.blockId
  · have hself : ({ c with ids := c.ids.afterBlock }.putBlock new).block? b.id = some new := by
      rw [htaken, ← hid]
      exact find?_putBy_self Block.id new c.blocks
    obtain rfl : new = b' := Option.some.inj (hself.symm.trans hb')
    exact .inl ⟨htaken, hid, htop⟩
  · have hother : ({ c with ids := c.ids.afterBlock }.putBlock new).block? b.id = c.block? b.id :=
      find?_putBy_of_ne Block.id (fun heq ↦ htaken (heq.symm.trans hid)) c.blocks
    exact .inr ⟨htaken, Option.some.inj (hb'.symm.trans (hother.trans hb))⟩

/-- Making a block is told by one event. -/
theorem createBlock_events {n : NewBlock} (h : (c.createBlock p n).result = .ok id) :
    (c.createBlock p n).events = [.blockCreated id n.type] := by
  obtain ⟨t, properties, position, -, -, -, -, heq⟩ := createBlock_eq_ok h
  rw [heq]

/-- Only the report that a block was made is there of a block that it replaces. -/
theorem told_of_created {b b' : Block} (type : String) (htop : b'.parent = none) :
    Told c [.blockCreated b.id type] b b' :=
  .replaced ⟨htop, type, List.mem_singleton_self _⟩ rfl (by simp [Block.SetFree])

theorem createBlock_tells {n : NewBlock} (h : (c.createBlock p n).result = .ok id) :
    (c.createBlock p n).Tells c := by
  intro k b b' hb hb'
  rw [createBlock_events h]
  obtain ⟨rfl, -, htop⟩ | ⟨-, rfl⟩ := createBlock_found h hb hb'
  · exact told_of_created n.type htop
  · exact .inPlace ⟨rfl, rfl⟩

/-- **Dropping a block tells of it**, also where it takes the place of another. -/
theorem dropBlock_tells {n : NewBlock} (h : (c.dropBlock p n).result = .ok id) :
    (c.dropBlock p n).Tells c := by
  obtain ⟨hmade, ⟨changed, hresolve⟩, hcanvas, hevents⟩ := dropBlock_eq_ok h
  intro k b b' hb hb'
  rw [hcanvas] at hb'
  rw [hevents, createBlock_events hmade]
  obtain ⟨hstill, hquiet⟩ | ⟨x, parent, place, hx, hother, hmoved, hreport⟩ :=
    resolve_settled hresolve
  · -- The new block stays where it was dropped.
    rw [hstill] at hb'
    rw [hquiet]
    obtain ⟨rfl, -, htop⟩ | ⟨-, rfl⟩ := createBlock_found hmade hb hb'
    · exact told_of_created n.type htop
    · exact .inPlace ⟨rfl, rfl⟩
  · rw [hmoved] at hb'
    rw [hreport]
    obtain ⟨b₁, hb₁, hlast⟩ := exists_of_block?_modifyBlock hb' fun _ ↦ rfl
    obtain ⟨rfl, hid, htop⟩ | ⟨hid, rfl⟩ := createBlock_found hmade hb hb₁
    · -- A block that was replaced: the new one has no parent yet, so it has got one.
      obtain ⟨-, rfl⟩ | ⟨hne, -⟩ := hlast
      · obtain rfl : k = b.id := (mem_of_block? hb).2.symm
        obtain rfl : b₁ = x := Option.some.inj (hb₁.symm.trans hx)
        rw [htop] at hother
        exact .announced (announced_concat [.blockCreated b.id n.type] rfl rfl)
          (by simp [Block.SetFree]) (by simp [Block.Replaced, hother])
      · exact absurd hid hne
    · obtain ⟨heq, -⟩ | ⟨-, rfl⟩ := hlast
      · exact absurd heq hid
      · exact .inPlace ⟨rfl, rfl⟩

/-! ### Instructions -/

/-- An edit that comes through and loads nothing tells. -/
theorem apply_tells {edit : Edit} (hload : ∀ d, edit ≠ .load d) {reply : Reply}
    (h : (c.apply p edit).result = .ok reply) : (c.apply p edit).Tells c := by
  cases edit with
  | create n =>
    obtain ⟨id, hid, -⟩ := map_eq_ok_iff.1 h
    exact createBlock_tells hid
  | drop n =>
    obtain ⟨id, hid, -⟩ := map_eq_ok_iff.1 h
    exact dropBlock_tells hid
  | delete id =>
    obtain ⟨_, hdone, -⟩ := map_eq_ok_iff.1 h
    exact deleteBlock_tells hdone
  | update id patch => exact updateBlock_inPlace.tells
  | move id position =>
    obtain ⟨changed, hdone, -⟩ := map_eq_ok_iff.1 h
    exact moveBlock_tells hdone
  | reparent id parent position =>
    obtain ⟨_, hdone, -⟩ := map_eq_ok_iff.1 h
    exact reparent_tells hdone
  | resolve id =>
    obtain ⟨changed, hdone, -⟩ := map_eq_ok_iff.1 h
    exact resolve_tells hdone
  | connect source target data => exact createWire_inPlace.tells
  | disconnect id => exact deleteWire_inPlace.tells
  | rewire id patch => exact updateWire_inPlace.tells
  | select selection => exact select_inPlace.tells
  | bindCall id name => exact bindCall_inPlace.tells
  | load d => exact absurd rfl (hload d)

/-- A block that is made and then has entries written to it tells what it told when it was made. -/
theorem furnish_tells {edit : Edit} {entries : List (Value × Value)} (hload : ∀ d, edit ≠ .load d)
    {reply : Reply} (h : (c.carryOut p (.furnish edit entries)).result = .ok reply) :
    (c.carryOut p (.furnish edit entries)).Tells c := by
  obtain ⟨made, hmade, -, heq⟩ := Outcome.andThen_eq_ok h
  have hthen : c.carryOut p (.furnish edit entries) = _ := heq
  intro k b b' hb hb'
  rw [hthen] at hb' ⊢
  have htells := apply_tells hload hmade
  cases made with
  | id id =>
    show Told c ((c.apply p edit).events ++ []) b b'
    rw [List.append_nil]
    replace hb' : ((c.apply p edit).canvas.writeEntries id entries).block? k = some b' := hb'
    obtain ⟨m, hm, -⟩ := exists_of_block?_modifyBlock hb' fun b ↦ by
      obtain ⟨properties, strays, h⟩ := write_eq b entries
      rw [h]
    exact (htells k b m hb hm).then_inPlace (inPlace_writeEntries hm hb')
  | done | changed flag =>
    show Told c ((c.apply p edit).events ++ []) b b'
    rw [List.append_nil]
    exact htells k b b' hb hb'

/-- **An instruction that comes through and loads nothing tells.** -/
theorem follow_tells {i : Instruction} (hload : ∀ d, i ≠ .load d) {reply : Reply}
    (h : (c.follow p i).result = .ok reply) : (c.follow p i).Tells c := by
  have hwithin : i.Within .anything := Action.within_anything (.follow i)
  obtain ⟨reading, hread, heq⟩ := Outcome.given_eq_ok h
  have hfollow : c.follow p i = c.carryOut p reading := heq
  rw [hfollow] at h ⊢
  by_cases hmake : i.MakesBlock
  · have hunloaded : ∀ {make : NewBlock → Edit} {n : NewBlock}, make = .create ∨ make = .drop →
        ∀ d, make n ≠ .load d := by
      rintro make n (rfl | rfl) d
      · simp
      · simp
    cases Instruction.read_making hwithin hmake hread with
    | edit make n makes _ => exact apply_tells (hunloaded makes) h
    | furnish make n raw entries makes _ values valid => exact furnish_tells (hunloaded makes) h
  · cases Instruction.read_changing hwithin hload hmake hread with
    | edit e _ unloaded unmade => exact apply_tells unloaded h
    | write named patch id entries update record odd values => exact updateEntries_inPlace.tells

end Canvas

open Canvas

/-! ### Runs -/

/-- **What an action that is not a load tells** of a block that was there before and after. -/
theorem Action.effect_tells {p : Palette} {c : Canvas} {a : Action} (hnone : a.drawing? p = none)
    (hdone : (a.effect p c).refused = false) {k : String} {b b' : Block}
    (hb : c.block? k = some b) (hb' : (a.effect p c).canvas.block? k = some b') :
    Told c (a.effect p c).events b b' := by
  cases a with
  | openDocument source =>
    rcases hopen : Document.open? (some p) source with fault | d
    · simp [effect, hopen, Effect.refused] at hdone
    · simp [drawing?, hopen, Except.toOption] at hnone
  | follow i =>
    have hload : ∀ d, i ≠ .load d := by
      rintro d rfl
      simp [drawing?] at hnone
    rcases hresult : (c.follow p i).result with fault | reply
    · simp [effect, Outcome.effect, Effect.refused, hresult, Except.toOption] at hdone
    · exact follow_tells hload hresult k b b' hb hb'

/-- **Which blocks are announced when they are not where they were.** After any run, let an action
that loads nothing come through, and let a block be there before and after it, with another parent
or in another place.

* The block is announced **unless** it was inside a container that was deleted, or another block was
  made under its id and put into no container.
* If its container was deleted, it has no parent any more and is at its old place on the canvas: its
  place in the container and the place of the container add up to where it is.
* If no load of the run was interrupted, no block is replaced. -/
theorem announced_iff {p : Palette} {actions : List Action} {a : Action} {id : String}
    {b b' : Block} (hnone : a.drawing? p = none)
    (hdone : (a.effect p (run p actions)).refused = false)
    (hb : (run p actions).block? id = some b)
    (hb' : (a.effect p (run p actions)).canvas.block? id = some b')
    (hmoved : b'.parent ≠ b.parent ∨ b'.position ≠ b.position) :
    (b.Announced (a.effect p (run p actions)).events b' ↔
        ¬ (b.SetFree (a.effect p (run p actions)).events ∨
          b.Replaced (a.effect p (run p actions)).events b')) ∧
      (b.SetFree (a.effect p (run p actions)).events → b'.parent = none ∧
        ∃ k corner, b.parent = some k ∧ (run p actions).absolute k = .ok corner ∧
          b.position.plus corner = .ok b'.position) ∧
      ((∀ x ∈ actions, ¬ x.Interrupted p) →
        ¬ b.Replaced (a.effect p (run p actions)).events b') := by
  have htold := Action.effect_tells hnone hdone hb hb'
  refine ⟨?_, fun hfree ↦ ?_, fun hcalm ↦ ?_⟩
  · cases htold with
    | inPlace h => exact absurd h (by simpa [Block.InPlace, imp_iff_not_or] using hmoved)
    | announced h free replaced => exact iff_of_true h (not_or.2 ⟨free, replaced⟩)
    | setFree h silent top place =>
      refine iff_of_false (fun hannounced ↦ ?_) (fun hnot ↦ hnot (.inl h))
      exact absurd (silent.symm.trans hannounced.place) (by simp)
    | replaced h silent free =>
      refine iff_of_false (fun hannounced ↦ ?_) (fun hnot ↦ hnot (.inr h))
      exact absurd (silent.symm.trans hannounced.place) (by simp)
  · cases htold with
    | inPlace h => exact absurd h (by simpa [Block.InPlace, imp_iff_not_or] using hmoved)
    | announced h free replaced => exact absurd hfree free
    | setFree h silent top place => exact ⟨top, place⟩
    | replaced h silent free => exact absurd hfree free
  · rintro ⟨-, type, hcreated⟩
    -- What is given out is not taken, as long as the counters are ahead of all ids.
    have huntaken : (run p actions).Untaken (a.effect p (run p actions)).events :=
      a.untaken_of_below fun item ↦ Item.below_run hcalm
    have hgiven : b.id ∈ Item.block.allocated (a.effect p (run p actions)).events :=
      List.mem_filterMap.2 ⟨_, hcreated, rfl⟩
    exact huntaken .block b.id hgiven (List.mem_map_of_mem (mem_of_block? hb).1)

/-- A block is dragged out of its container: it is told where it has gone, first in its old frame
and then on the canvas. -/
theorem announced_when_dragged_out :
    let p := Palette.bundled
    let point : Int → Int → Value := fun x y ↦ .object [("x", .int x), ("y", .int y)]
    let actions : List Action :=
      [.follow (.create { type := .text "function-definition", position := point 100 50 }),
        .follow (.drop { type := .text "debug", position := point 120 80 })]
    let a : Action := .follow (.move (.text "node_1") (point 1000 1000))
    ∃ b b', (run p actions).block? "node_1" = some b ∧
      (a.effect p (run p actions)).canvas.block? "node_1" = some b' ∧
      b.parent = some "node_0" ∧ b'.parent = none ∧
      (a.effect p (run p actions)).events = [.blockMoved "node_1" (.ofFloats 1000 1000),
        .blockReparented "node_1" none (some "node_0") (.ofFloats 1100 1050)] ∧
      b.Announced (a.effect p (run p actions)).events b' := by
  intro p point actions a
  obtain ⟨b, hb⟩ : ∃ b, (run p actions).block? "node_1" = some b :=
    Option.isSome_iff_exists.1 (by decide +kernel)
  obtain ⟨b', hb'⟩ : ∃ b', (a.effect p (run p actions)).canvas.block? "node_1" = some b' :=
    Option.isSome_iff_exists.1 (by decide +kernel)
  have hinside : ((run p actions).block? "node_1").map Block.parent = some (some "node_0") := by
    decide +kernel
  have hout : ((a.effect p (run p actions)).canvas.block? "node_1").map Block.parent =
      some none := by decide +kernel
  have hevents : (a.effect p (run p actions)).events =
      [.blockMoved "node_1" (.ofFloats 1000 1000),
        .blockReparented "node_1" none (some "node_0") (.ofFloats 1100 1050)] := by decide +kernel
  rw [hb, Option.map_some, Option.some.injEq] at hinside
  rw [hb', Option.map_some, Option.some.injEq] at hout
  refine ⟨b, b', hb, hb', hinside, hout, hevents, ?_⟩
  refine (announced_iff rfl (by decide +kernel) hb hb' (.inl (by simp [hinside, hout]))).1.2 ?_
  rw [hevents]
  simp [Block.SetFree, Block.Replaced]

/-- **A block that is set free is not announced.** A block is dropped into a container, and the
container is deleted. The block has another parent and another place than before, and the only event
is about the container. -/
theorem freed_block_not_announced :
    let p := Palette.bundled
    let point : Int → Int → Value := fun x y ↦ .object [("x", .int x), ("y", .int y)]
    let actions : List Action :=
      [.follow (.create { type := .text "function-definition", position := point 100 50 }),
        .follow (.drop { type := .text "debug", position := point 120 80 })]
    let a : Action := .follow (.delete (.text "node_0"))
    ∃ b b', (run p actions).block? "node_1" = some b ∧
      (a.effect p (run p actions)).canvas.block? "node_1" = some b' ∧
      (a.effect p (run p actions)).refused = false ∧
      (b.parent, b.position) = (some "node_0", .ofFloats 20 30) ∧
      (b'.parent, b'.position) = (none, .ofFloats 120 80) ∧
      (a.effect p (run p actions)).events = [.blockDeleted "node_0" []] ∧
      ¬ b.Announced (a.effect p (run p actions)).events b' := by
  intro p point actions a
  obtain ⟨b, hb⟩ : ∃ b, (run p actions).block? "node_1" = some b :=
    Option.isSome_iff_exists.1 (by decide +kernel)
  obtain ⟨b', hb'⟩ : ∃ b', (a.effect p (run p actions)).canvas.block? "node_1" = some b' :=
    Option.isSome_iff_exists.1 (by decide +kernel)
  have hbefore : ((run p actions).block? "node_1").map (fun b ↦ (b.parent, b.position)) =
      some (some "node_0", .ofFloats 20 30) := by decide +kernel
  have hafter : ((a.effect p (run p actions)).canvas.block? "node_1").map
      (fun b ↦ (b.parent, b.position)) = some (none, .ofFloats 120 80) := by decide +kernel
  have hevents : (a.effect p (run p actions)).events = [.blockDeleted "node_0" []] := by
    decide +kernel
  rw [hb, Option.map_some, Option.some.injEq] at hbefore
  rw [hb', Option.map_some, Option.some.injEq] at hafter
  refine ⟨b, b', hb, hb', by decide +kernel, hbefore, hafter, hevents, fun hannounced ↦ ?_⟩
  have hplace := hannounced.place
  rw [hevents] at hplace
  exact absurd hplace (by simp [Event.lastPlace?, Event.placeOf?])

end FlowCanvas
