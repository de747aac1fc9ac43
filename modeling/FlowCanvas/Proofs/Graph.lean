import FlowCanvas.Proofs.Operations

/-!
# The rules of a graph

What the blocks and wires of a flow have to satisfy, and that no step breaks it. The rules are
stated of lists of blocks and wires, so that they can be asked of a canvas and of a drawing alike.

They come in two groups, since they rest on different facts.

* `Consistent`: ids are distinct, wires join blocks that exist, one block at most is an entry point,
  and simple wires map nothing. **Every** step keeps this, whatever the counters stand at: putting a
  block under an id that is taken replaces the block, and the id stays unique.
* `Nested`: parents are containers that exist and have no parent, and containers have none. Every
  change keeps this. A block that is made keeps it **unless** it evicts a container: takes the id of
  one that has blocks inside, without being one itself (`Create.nested`, `Made.not_nested`).

`Canvas.Has` is the rule for the selection: what is selected exists (`Step.has_selection`).
-/

namespace FlowCanvas

/-- **Distinct ids, wires between blocks that exist, one entry point at most, and simple wires
without a mapping.** -/
structure Consistent (p : Palette) (blocks : List Block) (wires : List Wire) : Prop where
  blockIds : (blocks.map Block.id).Nodup
  wireIds : (wires.map Wire.id).Nodup
  ends : ∀ w ∈ wires, w.source ∈ blocks.map Block.id ∧ w.target ∈ blocks.map Block.id
  entryPoint : (blocks.countP fun b ↦ p.isEntryPoint b.type) ≤ 1
  simple : ∀ w ∈ wires, w.kind = some .simple → w.mapping = []

/-- **Parents are containers on the canvas itself, and containers have no parent.** -/
structure Nested (p : Palette) (blocks : List Block) : Prop where
  parents : ∀ b ∈ blocks, ∀ q, b.parent = some q →
    ∃ k ∈ blocks, k.id = q ∧ p.isContainer k.type = true ∧ k.parent = none
  containers : ∀ b ∈ blocks, p.isContainer b.type = true → b.parent = none

namespace Canvas

open Checks

variable {p : Palette} {s : Supply} {c c' : Canvas} {es : List Event}

theorem consistent_empty (p : Palette) : Consistent p empty.blocks empty.wires where
  blockIds := List.nodup_nil
  wireIds := List.nodup_nil
  ends := fun _ h ↦ absurd h List.not_mem_nil
  entryPoint := Nat.zero_le 1
  simple := fun _ h ↦ absurd h List.not_mem_nil

theorem nested_empty (p : Palette) : Nested p empty.blocks where
  parents := fun _ h ↦ absurd h List.not_mem_nil
  containers := fun _ h ↦ absurd h List.not_mem_nil

/-! ### Consistency -/

theorem Kept.consistent (hkept : Kept c c') (hc : Consistent p c.blocks c.wires) :
    Consistent p c'.blocks c'.wires where
  blockIds := hkept.blockIds ▸ hc.blockIds
  wireIds := hkept.wireIds ▸ hc.wireIds
  ends := by
    intro w hw
    have hcore : wireCore w ∈ c.wires.map wireCore := hkept.wires ▸ List.mem_map_of_mem hw
    obtain ⟨v, hv, hvw⟩ := List.mem_map.1 hcore
    simp only [wireCore, Prod.mk.injEq] at hvw
    rw [hkept.blockIds, ← hvw.2.1, ← hvw.2.2]
    exact hc.ends v hv
  entryPoint := by
    have hcount : ∀ blocks : List Block, (blocks.countP fun b ↦ p.isEntryPoint b.type) =
        (blocks.map core).countP fun k ↦ p.isEntryPoint k.2 := fun blocks ↦ by
      rw [List.countP_map]
      rfl
    rw [hcount, hkept.blocks, ← hcount]
    exact hc.entryPoint
  simple := fun w hw ↦ (hkept.simple w hw).elim (hc.simple w) id

/-- A type that is asked for tells whether its blocks are entry points. -/
theorem isEntryPoint_of_get? {type : String} {t : BlockType} (h : p.get? type = some t) :
    p.isEntryPoint t.id = t.entryPoint := by
  rw [Palette.id_of_get? h, Palette.isEntryPoint, h]

/-- Making a block, even under an id that is taken, leaves the graph consistent. -/
theorem consistent_putBlock (hc : Consistent p c.blocks c.wires) (b : Block)
    (hentry : p.isEntryPoint b.type = true → c.entryBlock? p = none) :
    Consistent p (c.putBlock b).blocks (c.putBlock b).wires where
  blockIds := nodup_putBy Block.id b hc.blockIds
  wireIds := hc.wireIds
  ends := fun w hw ↦ ⟨(mem_map_putBy Block.id).2 (.inr (hc.ends w hw).1),
    (mem_map_putBy Block.id).2 (.inr (hc.ends w hw).2)⟩
  entryPoint := by
    have hle := countP_putBy_le Block.id (fun b ↦ p.isEntryPoint b.type) b c.blocks
    refine Nat.le_trans hle ?_
    split
    · next hb =>
      have hnone : (c.blocks.countP fun b ↦ p.isEntryPoint b.type) = 0 := by
        rw [List.countP_eq_zero]
        exact List.find?_eq_none.1 (hentry hb)
      omega
    · exact hc.entryPoint
  simple := hc.simple

theorem consistent_without (hc : Consistent p c.blocks c.wires) (id : String) :
    Consistent p (c.without id).blocks (c.without id).wires where
  blockIds := hc.blockIds.sublist (List.filter_sublist.map Block.id)
  wireIds := hc.wireIds.sublist (List.filter_sublist.map Wire.id)
  ends := by
    intro w hw
    obtain ⟨hw, huntouched⟩ := List.mem_filter.1 hw
    simp only [touches, Bool.not_or, Bool.and_eq_true, Bool.not_eq_true', beq_eq_false_iff_ne]
      at huntouched
    -- An end that is not the deleted block is still there.
    have hkept : ∀ k, k ≠ id → k ∈ c.blocks.map Block.id →
        k ∈ (c.without id).blocks.map Block.id := by
      intro k hk hmem
      obtain ⟨b, hb, rfl⟩ := List.mem_map.1 hmem
      exact List.mem_map_of_mem (List.mem_filter.2 ⟨hb, by simpa using hk⟩)
    exact ⟨hkept _ huntouched.1 (hc.ends w hw).1, hkept _ huntouched.2 (hc.ends w hw).2⟩
  entryPoint := Nat.le_trans (List.filter_sublist.countP_le) hc.entryPoint
  simple := fun w hw ↦ hc.simple w (List.mem_of_mem_filter hw)

theorem checkEndpoints_eq_ok_iff {source target : String} :
    c.checkEndpoints source target = .ok () ↔
      source ∈ c.blocks.map Block.id ∧ target ∈ c.blocks.map Block.id := by
  have hnone : ∀ id, (c.block? id).isNone = true ↔ id ∉ c.blocks.map Block.id := fun id ↦ by
    rw [Option.isNone_iff_eq_none]
    exact find?_key_eq_none_iff Block.id
  unfold checkEndpoints
  by_cases hsource : source ∈ c.blocks.map Block.id
  · by_cases htarget : target ∈ c.blocks.map Block.id
    · rw [if_neg (by simpa [hnone] using hsource), if_neg (by simpa [hnone] using htarget)]
      simp [hsource, htarget]
    · rw [if_neg (by simpa [hnone] using hsource), if_pos ((hnone target).2 htarget)]
      simp [htarget]
  · rw [if_pos ((hnone source).2 hsource)]
    simp [hsource]

theorem consistent_putWire (hc : Consistent p c.blocks c.wires) {w : Wire}
    (hends : w.source ∈ c.blocks.map Block.id ∧ w.target ∈ c.blocks.map Block.id)
    (hsimple : w.kind = some .simple → w.mapping = []) :
    Consistent p (c.putWire w).blocks (c.putWire w).wires where
  blockIds := hc.blockIds
  wireIds := nodup_putBy Wire.id w hc.wireIds
  ends := by
    intro v hv
    rcases mem_putBy Wire.id hv with rfl | hv
    · exact hends
    · exact hc.ends v hv
  entryPoint := hc.entryPoint
  simple := by
    intro v hv
    rcases mem_putBy Wire.id hv with rfl | hv
    · exact hsimple
    · exact hc.simple v hv

theorem Change.consistent (h : Change p s c es c') (hc : Consistent p c.blocks c.wires) :
    Consistent p c'.blocks c'.wires := by
  cases h with
  | retouch h => exact h.kept.consistent hc
  | remove id b block plain childless =>
    rw [deselecting_eq]
    exact consistent_without hc id
  | connect source target data kind mapping ends new valid =>
    refine consistent_putWire (c := { c with ids := c.ids.afterWire }) hc
      (checkEndpoints_eq_ok_iff.1 ends) fun hkind ↦ ?_
    obtain rfl : kind = .simple := by simpa using hkind
    exact patchedWire_simple valid
  | disconnect id w wire =>
    rw [deselecting_eq]
    exact {
      blockIds := hc.blockIds
      wireIds := hc.wireIds.sublist (List.filter_sublist.map Wire.id)
      ends := fun w hw ↦ hc.ends w (List.mem_of_mem_filter hw)
      entryPoint := hc.entryPoint
      simple := fun w hw ↦ hc.simple w (List.mem_of_mem_filter hw) }
  | select selection known =>
    rw [selecting_eq]
    exact hc

/-- **No step makes a graph inconsistent.** -/
theorem Step.consistent (h : Step p s c es c') (hc : Consistent p c.blocks c.wires) :
    Consistent p c'.blocks c'.wires := by
  cases h with
  | change h => exact h.consistent hc
  | create h =>
    obtain ⟨n, t, properties, position, within, type, defaults, valid, place⟩ := h
    obtain ⟨hget, hentry⟩ := checkType_eq_ok_iff.1 type
    refine consistent_putBlock (c := { c with ids := c.ids.afterBlock }) hc _ fun hb ↦ hentry ?_
    rw [← isEntryPoint_of_get? hget]
    exact hb

/-! ### Nesting -/

/-- The block of an id, where ids are distinct. -/
theorem block?_eq_some_iff (hids : (c.blocks.map Block.id).Nodup) {id : String} {b : Block} :
    c.block? id = some b ↔ b ∈ c.blocks ∧ b.id = id :=
  find?_key_eq_some_iff Block.id hids

/-- **When a block may be the parent of another.** -/
theorem checkParent_eq_ok_iff {id q : String} :
    c.checkParent p id q = .ok () ↔
      ∃ k, c.block? q = some k ∧ q ≠ id ∧ p.isContainer k.type = true ∧ k.parent = none ∧
        c.isContainer p id = false := by
  simp only [checkParent, bind_eq_ok_iff, block_eq_ok_iff, ite_throw_eq_ok_iff]
  refine exists_congr fun k ↦ and_congr_right fun _ ↦ and_congr_right fun _ ↦ ?_
  refine and_congr (by simp) (and_congr (by simp) ?_)
  split
  · next h => simp [throw_eq_ok_iff, h]
  · next h => simp [pure_eq_ok_iff, h]

/-- A block keeps its id and its type, and its parent or loses it. -/
def Loosened (b b' : Block) : Prop :=
  b'.id = b.id ∧ b'.type = b.type ∧ (b'.parent = b.parent ∨ b'.parent = none)

theorem Freed.loosened {id : String} {corner : Point} {b b' : Block} (h : Freed id corner b b') :
    Loosened b b' := by
  obtain rfl | ⟨spot, -, -, rfl⟩ := h
  · exact ⟨rfl, rfl, .inl rfl⟩
  · exact ⟨rfl, rfl, .inr rfl⟩

/-- Containers that had no parent get none by losing it. -/
theorem containers_of_loosened {blocks blocks' : List Block}
    (h : List.Forall₂ Loosened blocks blocks')
    (htop : ∀ b ∈ blocks, p.isContainer b.type = true → b.parent = none) :
    ∀ b ∈ blocks', p.isContainer b.type = true → b.parent = none := by
  intro b' hb' hcontainer
  obtain ⟨b, hb, -, htype, hparent⟩ := exists_of_forall₂ h hb'
  rcases hparent with hparent | hparent
  · rw [hparent]
    exact htop b hb (by rw [← htype, hcontainer])
  · exact hparent

/-- Blocks that lose their parents are nested as before. -/
theorem nested_of_loosened {blocks blocks' : List Block}
    (h : List.Forall₂ Loosened blocks blocks') (hn : Nested p blocks) : Nested p blocks' where
  parents := by
    intro b' hb' q hq
    obtain ⟨b, hb, -, -, hparent⟩ := exists_of_forall₂ h hb'
    obtain ⟨k, hk, hid, hcontainer, htop⟩ : ∃ k ∈ blocks, k.id = q ∧
        p.isContainer k.type = true ∧ k.parent = none := by
      refine hn.parents b hb q ?_
      rcases hparent with hparent | hparent
      · rw [← hparent, hq]
      · exact absurd hq (by simp [hparent])
    -- The parent may have been touched as well; it had no parent to lose.
    obtain ⟨k', hk', hid', htype', hparent'⟩ := exists_of_forall₂ h.flip hk
    refine ⟨k', hk', hid'.trans hid, by rw [htype', hcontainer], ?_⟩
    rcases hparent' with hparent' | hparent'
    · rw [hparent', htop]
    · exact hparent'
  containers := containers_of_loosened h hn.containers

theorem loosened_modifyBlock {id : String} {f : Block → Block} (hf : ∀ b, Loosened b (f b)) :
    List.Forall₂ Loosened c.blocks (c.modifyBlock id f).blocks := by
  refine List.forall₂_map_right_iff.2 (List.forall₂_same.2 fun b _ ↦ ?_)
  split
  · exact hf b
  · exact ⟨rfl, rfl, .inl rfl⟩

/-- The canvas with a block inside a container. -/
def nestedIn (c : Canvas) (id q : String) (place : Point) : Canvas :=
  c.modifyBlock id fun b ↦ { b with parent := some q, position := place }

/-- **Retouching loosens blocks, or puts one of them into a container.** -/
theorem Retouch.loosens_or_nests (h : Retouch p s c es c') :
    List.Forall₂ Loosened c.blocks c'.blocks ∨
      ∃ id q place, c.checkParent p id q = .ok () ∧ c' = c.nestedIn id q place := by
  have hsame : ∀ {id : String} {f : Block → Block},
      (∀ b, (f b).id = b.id ∧ (f b).type = b.type ∧ (f b).parent = b.parent) →
        List.Forall₂ Loosened c.blocks (c.modifyBlock id f).blocks := fun hf ↦
    loosened_modifyBlock fun b ↦ ⟨(hf b).1, (hf b).2.1, .inl (hf b).2.2⟩
  cases h with
  | number => exact .inl (List.forall₂_same.2 fun b _ ↦ ⟨rfl, rfl, .inl rfl⟩)
  | update id b patch properties keys => exact .inl (hsame fun b ↦ ⟨rfl, rfl, rfl⟩)
  | write id b raw entries =>
    refine .inl (hsame fun b ↦ ?_)
    obtain ⟨properties, strays, h⟩ := write_eq b entries
    rw [h]
    exact ⟨rfl, rfl, rfl⟩
  | relabel id label => exact .inl (hsame fun b ↦ ⟨rfl, rfl, rfl⟩)
  | move id b position place => exact .inl (hsame fun b ↦ ⟨rfl, rfl, rfl⟩)
  | nest id b parent position place block within allowed found =>
    cases parent with
    | none => exact .inl (loosened_modifyBlock fun b ↦ ⟨rfl, rfl, .inr rfl⟩)
    | some q => exact .inr ⟨id, q, place, allowed q rfl, rfl⟩
  | free id corner => exact .inl ((freed_forall₂ id corner c.blocks).imp fun _ _ ↦ Freed.loosened)
  | rewire => exact .inl (List.forall₂_same.2 fun b _ ↦ ⟨rfl, rfl, .inl rfl⟩)

section Nesting

variable {id q : String} {place : Point}

/-- A block that may be put into a container is none. -/
theorem plain_of_checkParent (hids : (c.blocks.map Block.id).Nodup)
    (h : c.checkParent p id q = .ok ()) :
    ∀ b ∈ c.blocks, b.id = id → p.isContainer b.type = false := by
  intro b hb hbid
  obtain ⟨k, -, -, -, -, hplain⟩ := checkParent_eq_ok_iff.1 h
  have hfound : c.block? id = some b := (block?_eq_some_iff hids).2 ⟨hb, hbid⟩
  simpa [isContainer, hfound] using hplain

/-- Putting a block into a container leaves the containers without parents. -/
theorem containers_nestedIn (hids : (c.blocks.map Block.id).Nodup)
    (hallowed : c.checkParent p id q = .ok ())
    (htop : ∀ b ∈ c.blocks, p.isContainer b.type = true → b.parent = none) :
    ∀ b ∈ (c.nestedIn id q place).blocks, p.isContainer b.type = true → b.parent = none := by
  intro b' hb' hcontainer
  obtain ⟨b, hb, rfl⟩ := List.mem_map.1 hb'
  split at hcontainer
  · next hbid => exact absurd hcontainer (by simp [plain_of_checkParent hids hallowed b hb hbid])
  · next hbid =>
    rw [if_neg hbid]
    exact htop b hb hcontainer

/-- Putting a block that is no container into a container keeps blocks nested. -/
theorem nested_nestedIn (hids : (c.blocks.map Block.id).Nodup) (hn : Nested p c.blocks)
    (hallowed : c.checkParent p id q = .ok ()) : Nested p (c.nestedIn id q place).blocks := by
  obtain ⟨k, hk, -, hkcontainer, hktop, -⟩ := checkParent_eq_ok_iff.1 hallowed
  obtain ⟨hkmem, rfl⟩ := (block?_eq_some_iff hids).1 hk
  -- Blocks of the moved id are no containers, so none of the other blocks is inside them.
  have hkept : ∀ b ∈ c.blocks, p.isContainer b.type = true →
      b ∈ (c.nestedIn id k.id place).blocks := by
    intro b hb hcontainer
    refine List.mem_map.2 ⟨b, hb, if_neg fun hbid ↦ ?_⟩
    exact absurd hcontainer (by simp [plain_of_checkParent hids hallowed b hb hbid])
  refine ⟨fun b' hb' r hr ↦ ?_, containers_nestedIn hids hallowed hn.containers⟩
  obtain ⟨b, hb, rfl⟩ := List.mem_map.1 hb'
  split at hr
  · obtain rfl : k.id = r := by simpa using hr
    exact ⟨k, hkept k hkmem hkcontainer, rfl, hkcontainer, hktop⟩
  · obtain ⟨k', hk', hid', hcontainer', htop'⟩ := hn.parents b hb r hr
    exact ⟨k', hkept k' hk' hcontainer', hid', hcontainer', htop'⟩

end Nesting

theorem Retouch.nested (h : Retouch p s c es c') (hids : (c.blocks.map Block.id).Nodup)
    (hn : Nested p c.blocks) : Nested p c'.blocks := by
  rcases h.loosens_or_nests with hloosened | ⟨id, q, place, hallowed, rfl⟩
  · exact nested_of_loosened hloosened hn
  · exact nested_nestedIn hids hn hallowed

/-- **No change breaks the nesting of blocks.** -/
theorem Change.nested (h : Change p s c es c') (hids : (c.blocks.map Block.id).Nodup)
    (hn : Nested p c.blocks) : Nested p c'.blocks := by
  cases h with
  | retouch h => exact h.nested hids hn
  | remove id b block plain childless =>
    rw [deselecting_eq]
    refine ⟨fun b hb q hq ↦ ?_, fun b hb ↦ hn.containers b (List.mem_of_mem_filter hb)⟩
    obtain ⟨k, hk, rfl, hkept⟩ := hn.parents b (List.mem_of_mem_filter hb) q hq
    refine ⟨k, List.mem_filter.2 ⟨hk, ?_⟩, rfl, hkept⟩
    have hne : k.id ≠ id := by
      rintro rfl
      exact childless b (List.mem_of_mem_filter hb) hq
    simpa using hne
  | connect => exact hn
  | disconnect =>
    rw [deselecting_eq]
    exact hn
  | select =>
    rw [selecting_eq]
    exact hn

/-- **A block that is no container takes the id of one that has blocks inside.** -/
def Evicts (p : Palette) (c : Canvas) (es : List Event) : Prop :=
  ∃ id type, .blockCreated id type ∈ es ∧ p.isContainer type = false ∧
    ∃ b ∈ c.blocks, b.parent = some id

/-- A block that is made and evicts nothing keeps blocks nested. -/
theorem Create.nested (h : Create p s c es c') (hn : Nested p c.blocks)
    (hroom : ¬ Evicts p c es) : Nested p c'.blocks := by
  obtain ⟨n, t, properties, position, within, type, defaults, valid, place⟩ := h
  have hid : t.id = n.type := Palette.id_of_get? (checkType_eq_ok_iff.1 type).1
  generalize hb : c.newBlock t properties position
    ((Fields.get? n.properties "label").getD n.label) = new
  obtain ⟨hnewId, htop, htype⟩ : new.id = c.ids.blockId ∧ new.parent = none ∧
      new.type = n.type := by
    rw [← hb]
    exact ⟨rfl, rfl, hid⟩
  refine ⟨fun b hb q hq ↦ ?_, fun b hb hcontainer ↦ ?_⟩
  · rcases mem_putBy Block.id hb with rfl | hb
    · exact absurd hq (by simp [htop])
    · obtain ⟨k, hk, rfl, hkept⟩ := hn.parents b hb q hq
      by_cases hnew : k.id = new.id
      · -- The parent was replaced: the new block must be a container too.
        refine ⟨new, mem_putBy_self Block.id, hnew.symm, not_not.1 fun hplain ↦ ?_, htop⟩
        refine hroom ⟨c.ids.blockId, n.type, List.mem_singleton_self _, ?_, b, hb, ?_⟩
        · simpa [htype] using hplain
        · rw [hq, hnew, hnewId]
      · exact ⟨k, mem_putBy_of_ne Block.id hk hnew, rfl, hkept⟩
  · rcases mem_putBy Block.id hb with rfl | hb
    · exact htop
    · exact hn.containers b hb hcontainer

/-! ### The selection -/

theorem has_block_iff {id : String} : c.Has (.block id) ↔ id ∈ c.blocks.map Block.id := by
  rw [List.mem_map]
  rfl

theorem has_wire_iff {id : String} : c.Has (.wire id) ↔ id ∈ c.wires.map Wire.id := by
  rw [List.mem_map]
  rfl

/-- What a canvas has, a canvas with more ids has too. -/
theorem Has.mono {selection : Selection} (h : c.Has selection)
    (hblocks : c.blocks.map Block.id ⊆ c'.blocks.map Block.id)
    (hwires : c.wires.map Wire.id ⊆ c'.wires.map Wire.id) : c'.Has selection := by
  cases selection with
  | nothing => exact trivial
  | block id => exact has_block_iff.2 (hblocks (has_block_iff.1 h))
  | wire id => exact has_wire_iff.2 (hwires (has_wire_iff.1 h))

/-- What does not go with a block is still there without it. -/
theorem has_without {id : String} (h : c.Has c.selection)
    (hlost : c.losesSelection id (c.wireIdsOf id) = false) : (c.without id).Has c.selection := by
  unfold losesSelection at hlost
  rcases hs : c.selection with - | k | k
  · exact trivial
  · rw [hs] at h hlost
    obtain ⟨b, hb, rfl⟩ := h
    exact ⟨b, List.mem_filter.2 ⟨hb, by simpa using hlost⟩, rfl⟩
  · rw [hs] at h hlost
    obtain ⟨w, hw, rfl⟩ := h
    -- A wire at the block would have been lost with it.
    have huntouched : touches id w = false := by
      rw [Bool.eq_false_iff]
      intro htouches
      have hmem : w.id ∈ c.wireIdsOf id :=
        List.mem_map_of_mem (List.mem_filter.2 ⟨hw, htouches⟩)
      simp [hmem] at hlost
    exact ⟨w, List.mem_filter.2 ⟨hw, by simpa using huntouched⟩, rfl⟩

theorem has_withoutWire {id : String} (h : c.Has c.selection) (hlost : c.selection ≠ .wire id) :
    (c.withoutWire id).Has c.selection := by
  rcases hs : c.selection with - | k | k
  · exact trivial
  · rw [hs] at h
    exact h
  · rw [hs] at h hlost
    obtain ⟨w, hw, rfl⟩ := h
    refine ⟨w, List.mem_filter.2 ⟨hw, ?_⟩, rfl⟩
    have hne : w.id ≠ id := fun heq ↦ hlost (heq ▸ rfl)
    simpa using hne

theorem Change.has_selection (h : Change p s c es c') (hc : c.Has c.selection) :
    c'.Has c'.selection := by
  cases h with
  | retouch h =>
    rw [h.kept.selection]
    exact hc.mono (h.kept.blockIds ▸ List.Subset.refl _) (h.kept.wireIds ▸ List.Subset.refl _)
  | remove id b block plain childless =>
    rw [deselecting_eq]
    show (c.without id).Has (if c.losesSelection id (c.wireIdsOf id) then .nothing else c.selection)
    split
    · exact trivial
    · next hlost => exact has_without hc (by simpa using hlost)
  | connect source target data kind mapping ends new valid =>
    exact hc.mono (List.Subset.refl _) fun id hid ↦ (mem_map_putBy Wire.id).2 (.inr hid)
  | disconnect id w wire =>
    rw [deselecting_eq]
    show (c.withoutWire id).Has (if c.selection = .wire id then .nothing else c.selection)
    split
    · exact trivial
    · next hlost => exact has_withoutWire hc hlost
  | select selection known =>
    rw [selecting_eq]
    cases selection <;> exact known

/-- **What is selected exists**, after every step. -/
theorem Step.has_selection (h : Step p s c es c') (hc : c.Has c.selection) :
    c'.Has c'.selection := by
  cases h with
  | change h => exact h.has_selection hc
  | create h =>
    obtain ⟨n, t, properties, position, within, type, defaults, valid, place⟩ := h
    exact hc.mono (fun id hid ↦ (mem_map_putBy Block.id).2 (.inr hid)) (List.Subset.refl _)

end Canvas

end FlowCanvas
