import FlowCanvas.Proofs.Places
import Mathlib.Data.List.Perm.Subperm

/-!
# Chains of parents

That every block has a place on the canvas, whatever the run. Nesting may break: an interrupted load
can leave a container behind whose id a new block takes, and the blocks inside then have a parent
that is no container. Such a parent may be put into another container, so chains of parents can have
any length. **They still come to an end**, since a block is only ever put into a container, and a
container has no parent at that moment.

`Hung` says this with a rank: it falls from a block to its parent. Putting a block into a container
gives that container the least rank of all, which is possible as nothing is below it
(`hung_nestedIn`). Making a block, even in the place of another, takes links away and adds none. So
**every** step keeps blocks hung, where only some keep them nested.

The walk up the parents meets every block once at most, so it has come to an end before its bound
(`sumParents_isOk`).
-/

namespace FlowCanvas

/-- **Blocks hang from the canvas**: containers are on the canvas itself, and going from a block to
its parent comes to an end. -/
structure Hung (p : Palette) (blocks : List Block) : Prop where
  containers : ∀ b ∈ blocks, p.isContainer b.type = true → b.parent = none
  ranked : ∃ rank : String → Nat, ∀ b ∈ blocks, ∀ q, b.parent = some q →
    q ∈ blocks.map Block.id ∧ rank q < rank b.id

/-- Blocks that are nested hang from the canvas, by one link at most. -/
theorem Nested.hung {p : Palette} {blocks : List Block} (hids : (blocks.map Block.id).Nodup)
    (hn : Nested p blocks) : Hung p blocks := by
  refine ⟨hn.containers,
    fun id ↦ if blocks.any fun b ↦ b.id == id && b.parent.isSome then 1 else 0, fun b hb q hq ↦ ?_⟩
  obtain ⟨k, hk, rfl, -, htop⟩ := hn.parents b hb q hq
  have hbelow : (blocks.any fun b' ↦ b'.id == b.id && b'.parent.isSome) = true :=
    List.any_eq_true.2 ⟨b, hb, by simp [hq]⟩
  have hground : (blocks.any fun b' ↦ b'.id == k.id && b'.parent.isSome) = false := by
    rw [List.any_eq_false]
    intro b' hb' h
    rw [Bool.and_eq_true, beq_iff_eq] at h
    obtain rfl : b' = k := List.inj_on_of_nodup_map hids hb' hk h.1
    simp [htop] at h
  refine ⟨List.mem_map_of_mem hk, ?_⟩
  simp [hbelow, hground]

namespace Canvas

open Checks

variable {p : Palette} {s : Supply} {c c' : Canvas} {es : List Event} {id : String}

/-! ### No step unhooks a block -/

theorem hung_empty (p : Palette) : Hung p empty.blocks where
  containers := fun _ h ↦ absurd h List.not_mem_nil
  ranked := ⟨fun _ ↦ 0, fun _ h ↦ absurd h List.not_mem_nil⟩

theorem hung_of_loosened {blocks blocks' : List Block} (h : List.Forall₂ Loosened blocks blocks')
    (hh : Hung p blocks) : Hung p blocks' := by
  obtain ⟨rank, hrank⟩ := hh.ranked
  refine ⟨containers_of_loosened h hh.containers, rank, fun b' hb' q hq ↦ ?_⟩
  have hids : blocks'.map Block.id = blocks.map Block.id :=
    map_forall₂ (fun _ _ h ↦ h.1) h
  obtain ⟨b, hb, hid, -, hparent | hparent⟩ := exists_of_forall₂ h hb'
  · rw [hids, hid]
    exact hrank b hb q (hparent ▸ hq)
  · exact absurd hq (by simp [hparent])

/-- **Putting a block into a container keeps blocks hung.** The container gets the least rank. -/
theorem hung_nestedIn (hids : (c.blocks.map Block.id).Nodup) (hh : Hung p c.blocks) {q : String}
    {place : Point} (hallowed : c.checkParent p id q = .ok ()) :
    Hung p (c.nestedIn id q place).blocks := by
  obtain ⟨k, hk, hself, -, hktop, -⟩ := checkParent_eq_ok_iff.1 hallowed
  obtain ⟨hkmem, rfl⟩ := (block?_eq_some_iff hids).1 hk
  obtain ⟨rank, hrank⟩ := hh.ranked
  refine ⟨containers_nestedIn hids hallowed hh.containers,
    fun i ↦ if i = k.id then 0 else rank i + 1, fun b' hb' r hr ↦ ?_⟩
  have hsame : (c.nestedIn id k.id place).blocks.map Block.id = c.blocks.map Block.id :=
    (kept_modifyBlock c id (f := fun b ↦ { b with parent := some k.id, position := place })
      fun _ ↦ rfl).blockIds
  obtain ⟨b, hb, rfl⟩ := List.mem_map.1 hb'
  rw [hsame]
  split at hr
  · -- The link that is new leads to the container.
    next hbid =>
    obtain rfl : k.id = r := by simpa using hr
    have hne : id ≠ k.id := fun heq ↦ hself heq.symm
    refine ⟨List.mem_map_of_mem hkmem, ?_⟩
    simp [hbid, hne]
  · next hbid =>
    obtain ⟨hknown, hlower⟩ := hrank b hb r hr
    -- The container has no parent, so no other link begins there.
    have hne : b.id ≠ k.id := by
      intro heq
      obtain rfl : b = k := List.inj_on_of_nodup_map hids hb hkmem heq
      exact absurd hr (by simp [hktop])
    refine ⟨hknown, ?_⟩
    simp only [if_neg hbid, if_neg hne]
    split <;> omega

theorem Retouch.hung (h : Retouch p s c es c') (hids : (c.blocks.map Block.id).Nodup)
    (hh : Hung p c.blocks) : Hung p c'.blocks := by
  rcases h.loosens_or_nests with hloosened | ⟨id, q, place, hallowed, rfl⟩
  · exact hung_of_loosened hloosened hh
  · exact hung_nestedIn hids hh hallowed

/-- **Every step keeps blocks hung from the canvas.** -/
theorem Step.hung (h : Step p s c es c') (hids : (c.blocks.map Block.id).Nodup)
    (hh : Hung p c.blocks) : Hung p c'.blocks := by
  cases h with
  | change h =>
    cases h with
    | retouch h => exact h.hung hids hh
    | remove id b block plain childless =>
      obtain ⟨rank, hrank⟩ := hh.ranked
      rw [deselecting_eq]
      refine ⟨fun b hb ↦ hh.containers b (List.mem_of_mem_filter hb), rank, fun b hb q hq ↦ ?_⟩
      have hmem : b ∈ c.blocks := List.mem_of_mem_filter hb
      obtain ⟨hknown, hlower⟩ := hrank b hmem q hq
      obtain ⟨k, hk, rfl⟩ := List.mem_map.1 hknown
      have hne : k.id ≠ id := by
        rintro rfl
        exact childless b hmem hq
      exact ⟨List.mem_map_of_mem (List.mem_filter.2 ⟨hk, by simpa using hne⟩), hlower⟩
    | connect => exact hh
    | disconnect =>
      rw [deselecting_eq]
      exact hh
    | select =>
      rw [selecting_eq]
      exact hh
  | create h =>
    obtain ⟨n, t, properties, position, within, type, defaults, valid, place⟩ := h
    obtain ⟨rank, hrank⟩ := hh.ranked
    refine ⟨fun b hb hcontainer ↦ ?_, rank, fun b hb q hq ↦ ?_⟩
    · rcases mem_putBy Block.id hb with rfl | hb
      · rfl
      · exact hh.containers b hb hcontainer
    · rcases mem_putBy Block.id hb with rfl | hb
      · exact absurd hq (by simp [newBlock])
      · exact ⟨(mem_map_putBy Block.id).2 (.inr (hrank b hb q hq).1), (hrank b hb q hq).2⟩

/-! ### Every block has a place -/

theorem exists_block? (h : id ∈ c.blocks.map Block.id) : ∃ b, c.block? id = some b :=
  Option.ne_none_iff_exists'.1 fun hnone ↦ (find?_key_eq_none_iff Block.id).1 hnone h

/-- **The walk up the parents comes to its end** before its bound: all it has seen are different
blocks, and the next one is below them. -/
theorem sumParents_isOk {rank : String → Nat}
    (hrank : ∀ b ∈ c.blocks, ∀ q, b.parent = some q →
      q ∈ c.blocks.map Block.id ∧ rank q < rank b.id)
    (hplaced : Placed c.blocks) {fuel : Nat} {seen : List String} {point : Point}
    {parent : Option String} (hpoint : point.IsFloat) (hdistinct : seen.Nodup)
    (hknown : seen ⊆ c.blocks.map Block.id) (hroom : c.blocks.length < seen.length + fuel)
    (hparent : ∀ q, parent = some q → q ∈ c.blocks.map Block.id ∧ ∀ i ∈ seen, rank q < rank i) :
    ∃ spot, c.sumParents fuel seen point parent = .ok spot := by
  induction fuel generalizing seen point parent with
  | zero =>
    have hle : seen.length ≤ (c.blocks.map Block.id).length :=
      (List.subperm_of_subset hdistinct hknown).length_le
    rw [List.length_map] at hle
    omega
  | succ fuel ih =>
    rcases parent with - | q
    · exact ⟨point, rfl⟩
    · obtain ⟨hq, hlower⟩ := hparent q rfl
      have hunseen : seen.contains q = false := by
        rw [List.contains_eq_mem, decide_eq_false_iff_not]
        exact fun hmem ↦ Nat.lt_irrefl _ (hlower q hmem)
      obtain ⟨b, hb⟩ := exists_block? hq
      obtain ⟨hmem, rfl⟩ := mem_of_block? hb
      obtain ⟨sum, hsum, hfloat⟩ := hpoint.plus (hplaced b hmem)
      simp only [sumParents, hunseen, hb, hsum, Bool.false_eq_true, if_false]
      refine ih hfloat (List.nodup_cons.2 ⟨by simpa using hunseen, hdistinct⟩)
        (List.cons_subset.2 ⟨hq, hknown⟩) (by simp only [List.length_cons]; omega) fun r hr ↦ ?_
      obtain ⟨hrknown, hrlower⟩ := hrank b hmem r hr
      refine ⟨hrknown, List.forall_mem_cons.2 ⟨hrlower, fun i hi ↦ ?_⟩⟩
      exact Nat.lt_trans hrlower (hlower i hi)

/-- **Every block has a place on the canvas**, where blocks hang from it and places are floats. -/
theorem absolute_isOk (hh : Hung p c.blocks) (hplaced : Placed c.blocks) {b : Block}
    (hb : c.block? id = some b) : ∃ spot, c.absolute id = .ok spot ∧ spot.IsFloat := by
  obtain ⟨rank, hrank⟩ := hh.ranked
  obtain ⟨hmem, rfl⟩ := mem_of_block? hb
  have hwalk : ∃ spot, c.sumParents (c.blocks.length + 1) [b.id] b.position b.parent =
      .ok spot := by
    refine sumParents_isOk hrank hplaced (hplaced b hmem) (List.nodup_singleton _)
      (by simpa using List.mem_map_of_mem hmem) (by simp only [List.length_singleton]; omega)
      fun q hq ↦ ?_
    obtain ⟨hknown, hlower⟩ := hrank b hmem q hq
    exact ⟨hknown, by simpa using hlower⟩
  obtain ⟨spot, hspot⟩ := hwalk
  have habsolute : c.absolute b.id = .ok spot := by
    rw [absolute, hb]
    exact hspot
  exact ⟨spot, habsolute, isFloat_absolute hplaced habsolute⟩

end Canvas

end FlowCanvas
