import FlowCanvas.Proofs.Resolving

/-!
# Changing frames moves nothing

The place of a block is stored as seen from its parent. Giving a block a parent, resolving its
parent and deleting a container change such frames, and with them places, but **should leave every
block where it is on the canvas**.

A block is where the walk up its parents comes to (`absolute_eq_ok_iff`). So nothing that is not
inside the block whose frame changes can move: the walk never comes near it
(`Reframed.absolute_eq`). What is inside may move: with a parent that has a parent, three places are
added, and floats do not add up to the same in another order. Where blocks are nested there are no
such parents, and **all** blocks stay (`keepsPlaces_of_framed`, `keepsPlaces_of_left`). Only a block
that enters a container is seen from another corner, and stays if its spot comes back from there.

`reframing_keeps_places` says so for runs. In a run without an interrupted load blocks are nested;
after one, what is inside may move (`freed_block_moves_what_is_inside`).
-/

namespace FlowCanvas

open Checks

namespace Canvas

variable {p : Palette} {c c' : Canvas} {id n m : String} {b : Block} {place spot : Point}

/-! ### Where the walk up the parents comes to -/

/-- **The walk up the parents comes to the spot**: it has not seen the next block yet, and its bound
is far enough. -/
theorem sumParents_of_at {rank : String → Nat}
    (hrank : ∀ b ∈ c.blocks, ∀ q, b.parent = some q →
      q ∈ c.blocks.map Block.id ∧ rank q < rank b.id)
    {parent : Option String} (hat : c.At place parent spot) {fuel : Nat} {seen : List String}
    (hdistinct : seen.Nodup) (hknown : seen ⊆ c.blocks.map Block.id)
    (hroom : c.blocks.length < seen.length + fuel)
    (hlower : ∀ q, parent = some q → ∀ i ∈ seen, rank q < rank i) :
    c.sumParents fuel seen place parent = .ok spot := by
  induction hat generalizing fuel seen with
  | top place => cases fuel <;> rfl
  | @inside place sum spot q k hk hsum rest ih =>
    have hq := hlower q rfl
    have hunseen : q ∉ seen := fun hmem ↦ Nat.lt_irrefl _ (hq q hmem)
    obtain ⟨hmem, rfl⟩ := mem_of_block? hk
    cases fuel with
    | zero =>
      have hle : seen.length ≤ (c.blocks.map Block.id).length :=
        (List.subperm_of_subset hdistinct hknown).length_le
      rw [List.length_map] at hle
      omega
    | succ fuel =>
      have hcontains : seen.contains k.id = false := by simpa using hunseen
      simp only [sumParents, hcontains, hk, hsum, Bool.false_eq_true, if_false]
      refine ih (List.nodup_cons.2 ⟨hunseen, hdistinct⟩)
        (List.cons_subset.2 ⟨List.mem_map_of_mem hmem, hknown⟩)
        (by rw [List.length_cons]; omega) fun r hr ↦ ?_
      have hrlower := (hrank k hmem r hr).2
      exact List.forall_mem_cons.2 ⟨hrlower, fun i hi ↦ Nat.lt_trans hrlower (hq i hi)⟩

/-- **A block is where its place in the frame of its parent is.** -/
theorem absolute_eq_ok_iff (hh : Hung p c.blocks) :
    c.absolute id = .ok spot ↔ ∃ b, c.block? id = some b ∧ c.At b.position b.parent spot := by
  rw [absolute]
  rcases hb : c.block? id with - | b
  · simp
  · simp only [Option.some.injEq, exists_eq_left']
    constructor
    · exact at_of_sumParents fun _ _ ↦ rfl
    · intro hat
      obtain ⟨rank, hrank⟩ := hh.ranked
      obtain ⟨hmem, rfl⟩ := mem_of_block? hb
      refine sumParents_of_at hrank hat (List.nodup_singleton _)
        (by simpa using List.mem_map_of_mem hmem) (by rw [List.length_singleton]; omega)
        fun q hq ↦ ?_
      simpa using (hrank b hmem q hq).2

/-! ### What is inside -/

/-- **A block is inside another**: that one is its parent, or its parent is inside that one. -/
inductive Inside (c : Canvas) (n : String) : String → Prop
  | child {m : String} {b : Block} (found : c.block? m = some b) (parent : b.parent = some n) :
      Inside c n m
  | deeper {m q : String} {b : Block} (found : c.block? m = some b) (parent : b.parent = some q)
      (rest : Inside c n q) : Inside c n m

/-- Where blocks are nested, what is inside a block has it for a parent, and it is a container on
the canvas itself. -/
theorem Inside.of_nested (hids : (c.blocks.map Block.id).Nodup) (hn : Nested p c.blocks)
    (h : c.Inside n m) : ∃ b k, c.block? m = some b ∧ b.parent = some n ∧ c.block? n = some k ∧
      p.isContainer k.type = true ∧ k.parent = none := by
  induction h with
  | @child m b hb hparent =>
    obtain ⟨k, hk, rfl, hcontainer, htop⟩ := hn.parents b (mem_of_block? hb).1 n hparent
    exact ⟨b, k, hb, hparent, (block?_eq_some_iff hids).2 ⟨hk, rfl⟩, hcontainer, htop⟩
  | @deeper m q b hb hparent rest ih =>
    obtain ⟨k, -, hk, hinner, -⟩ := ih
    obtain ⟨k', hk', rfl, -, htop⟩ := hn.parents b (mem_of_block? hb).1 q hparent
    obtain rfl : k = k' :=
      Option.some.inj (hk.symm.trans ((block?_eq_some_iff hids).2 ⟨hk', rfl⟩))
    exact absurd (htop.symm.trans hinner) (by simp)

/-- **The frame of one block has changed**: whatever is not inside it is as it was. -/
def Reframed (c c' : Canvas) (n : String) : Prop :=
  ∀ k, k ≠ n → ¬ c.Inside n k → c'.block? k = c.block? k

/-- The walk up from outside comes to the same spot. -/
theorem Reframed.at_iff (h : c.Reframed c' n) {parent : Option String}
    (hout : ∀ q, parent = some q → q ≠ n ∧ ¬ c.Inside n q) :
    c'.At place parent spot ↔ c.At place parent spot := by
  -- The parent of a block outside is outside, so the walk does not leave what is as it was.
  have hnext : ∀ {q : String} {k : Block}, c.block? q = some k → ¬ c.Inside n q →
      ∀ r, k.parent = some r → r ≠ n ∧ ¬ c.Inside n r := by
    intro q k hk hq r hr
    refine ⟨?_, fun hr' ↦ hq (.deeper hk hr hr')⟩
    rintro rfl
    exact hq (.child hk hr)
  constructor
  · intro hat
    induction hat with
    | top place => exact .top place
    | @inside place sum spot q k hk hsum rest ih =>
      obtain ⟨hne, hq⟩ := hout q rfl
      rw [h q hne hq] at hk
      exact .inside hk hsum (ih (hnext hk hq))
  · intro hat
    induction hat with
    | top place => exact .top place
    | @inside place sum spot q k hk hsum rest ih =>
      obtain ⟨hne, hq⟩ := hout q rfl
      exact .inside ((h q hne hq).trans hk) hsum (ih (hnext hk hq))

/-- **What is not inside stays where it is.** -/
theorem Reframed.absolute_eq (h : c.Reframed c' n) (hh : Hung p c.blocks) (hh' : Hung p c'.blocks)
    (hne : m ≠ n) (hout : ¬ c.Inside n m) :
    (c'.absolute m).toOption = (c.absolute m).toOption := by
  ext spot
  rw [toOption_eq_some_iff, toOption_eq_some_iff, absolute_eq_ok_iff hh, absolute_eq_ok_iff hh',
    h m hne hout]
  refine exists_congr fun b ↦ and_congr_right fun hb ↦ h.at_iff fun q hq ↦ ?_
  refine ⟨?_, fun hq' ↦ hout (.deeper hb hq hq')⟩
  rintro rfl
  exact hout (.child hb hq)

/-! ### Giving a block a parent -/

/-- **What giving a block a parent comes to**, its place not given: nothing, or the block is under
the parent, at the place that keeps it where it is. -/
inductive Framed (p : Palette) (c : Canvas) (n : String) : Canvas → List Event → Prop
  | same : Framed p c n c []
  | under (b : Block) (parent : Option String) (place : Point) (found : c.block? n = some b)
      (allowed : ∀ q, parent = some q → c.checkParent p n q = .ok ())
      (placed : c.placeUnder n parent .null = .ok place) :
      Framed p c n (c.putUnder n parent place) [.blockReparented n parent b.parent place]

theorem framed_of_reparent {parent : Option String}
    (h : (c.reparent p n parent .null).result = .ok ()) :
    Framed p c n (c.reparent p n parent .null).canvas (c.reparent p n parent .null).events := by
  obtain ⟨b, place, hb, hallowed, hplaced, heq⟩ := reparent_eq_ok h
  rw [heq]
  exact .under b parent place hb hallowed hplaced

theorem framed_of_resolve {changed : Bool} (h : (c.resolve p n).result = .ok changed) :
    Framed p c n (c.resolve p n).canvas (c.resolve p n).events := by
  obtain ⟨b, -, ⟨-, heq⟩ | ⟨-, spot, found, -, -, ⟨-, heq⟩ | ⟨-, hok, heq⟩⟩⟩ := resolve_eq_ok h
  · rw [heq]
    exact .same
  · rw [heq]
    exact .same
  · rw [heq]
    exact framed_of_reparent hok

theorem Framed.block?_of_ne {es : List Event} (h : Framed p c n c' es) (hne : m ≠ n) :
    c'.block? m = c.block? m := by
  cases h with
  | same => rfl
  | under b parent place found allowed placed => exact block?_putUnder_of_ne parent place hne

/-- The place of a block under a parent, and where it is then. -/
theorem placeUnder_null_eq_ok {parent : Option String}
    (h : c.placeUnder n parent .null = .ok place) :
    ∃ spot, c.absolute n = .ok spot ∧
      ((parent = none ∧ place = spot) ∨
        ∃ q, parent = some q ∧ c.toRelative spot q = .ok place) := by
  have hnull : Value.null.isNull = true := rfl
  rw [placeUnder, if_pos hnull] at h
  rcases hspot : c.absolute n with fault | spot
  · exact absurd h (by simp [hspot])
  · rw [hspot] at h
    refine ⟨spot, rfl, ?_⟩
    rcases parent with - | q
    · exact .inl ⟨rfl, (Except.ok.inj h).symm⟩
    · exact .inr ⟨q, rfl, h⟩

/-- A change that leaves the block as it is leaves the canvas as it is. -/
theorem modifyBlock_eq_self (hids : (c.blocks.map Block.id).Nodup) (hb : c.block? n = some b)
    {f : Block → Block} (hf : f b = b) : c.modifyBlock n f = c := by
  have hblocks : (c.blocks.map fun k ↦ if k.id = n then f k else k) = c.blocks := by
    refine (List.map_congr_left fun k hk ↦ ?_).trans (List.map_id c.blocks)
    by_cases hid : k.id = n
    · obtain rfl : k = b :=
        Option.some.inj (((block?_eq_some_iff hids).2 ⟨hk, hid⟩).symm.trans hb)
      rw [if_pos hid, hf]
      rfl
    · rw [if_neg hid]
      rfl
  rw [modifyBlock, hblocks]

/-- **A container is only ever given the frame it has.** -/
theorem Framed.eq_of_container {es : List Event} (h : Framed p c n c' es)
    (hids : (c.blocks.map Block.id).Nodup) (hb : c.block? n = some b)
    (hcontainer : p.isContainer b.type = true) (htop : b.parent = none) : c' = c := by
  cases h with
  | same => rfl
  | under b' parent place found allowed placed =>
    obtain ⟨spot, hspot, ⟨rfl, rfl⟩ | ⟨q, rfl, -⟩⟩ := placeUnder_null_eq_ok placed
    · obtain rfl : place = b.position :=
        Except.ok.inj (hspot.symm.trans (absolute_of_top hb htop))
      refine modifyBlock_eq_self hids hb ?_
      rw [← htop]
    · -- A container is never put into another.
      obtain ⟨k, -, -, -, -, hplain⟩ := checkParent_eq_ok_iff.1 (allowed q rfl)
      rw [isContainer_eq hb, hcontainer] at hplain
      exact absurd hplain (by simp)

/-! ### Places that are kept -/

/-- **An operation on the frame of a block moves nothing on the canvas.** -/
structure KeepsPlaces (p : Palette) (c : Canvas) (n : String) (o : Outcome Reply) : Prop where
  /-- Every other block is where it was, if blocks are nested or it is not inside the block. -/
  others : ∀ m, m ≠ n → Nested p c.blocks ∨ ¬ c.Inside n m →
    (o.canvas.absolute m).toOption = (c.absolute m).toOption
  /-- The block is where it was, if it has no parent then or nothing has happened. -/
  own : ∀ b, o.canvas.block? n = some b → b.parent = none ∨ o.events = [] →
    o.canvas.absolute n = c.absolute n
  /-- A block that has entered a container is where it was if its spot comes back from there. -/
  entered : ∀ b k spot, o.canvas.block? n = some b → k ∈ c.blocks → b.parent = some k.id →
    o.events ≠ [] → c.absolute n = .ok spot → spot.Returns k.position →
    ∃ back, o.canvas.absolute n = .ok back ∧ spot.same back = true

theorem keepsPlaces_of_framed {o : Outcome Reply} (h : Framed p c n o.canvas o.events)
    (hids : (c.blocks.map Block.id).Nodup) (hh : Hung p c.blocks) (hh' : Hung p o.canvas.blocks) :
    KeepsPlaces p c n o where
  others m hne hfar := by
    by_cases hin : c.Inside n m
    · have hnested : Nested p c.blocks := hfar.resolve_right fun hout ↦ hout hin
      obtain ⟨-, k, -, -, hk, hcontainer, htop⟩ := hin.of_nested hids hnested
      rw [h.eq_of_container hids hk hcontainer htop]
    · exact Reframed.absolute_eq (fun k hk _ ↦ h.block?_of_ne hk) hh hh' hne hin
  own b hb hstill := by
    obtain ⟨result, c', es⟩ := o
    cases h with
    | same => rfl
    | under b₀ parent place found allowed placed =>
      have hself := block?_putUnder_self parent place found
      obtain rfl : { b₀ with parent := parent, position := place } = b :=
        Option.some.inj (hself.symm.trans hb)
      obtain ⟨spot, hspot, ⟨rfl, rfl⟩ | ⟨q, rfl, -⟩⟩ := placeUnder_null_eq_ok placed
      · rw [hspot]
        exact absolute_of_top hself rfl
      · exact absurd hstill (by simp)
  entered b k spot hb hk hparent hdone hspot hreturns := by
    obtain ⟨result, c', es⟩ := o
    cases h with
    | same => exact absurd rfl hdone
    | under b₀ parent place found allowed placed =>
      have hself := block?_putUnder_self parent place found
      obtain rfl : { b₀ with parent := parent, position := place } = b :=
        Option.some.inj (hself.symm.trans hb)
      obtain rfl : parent = some k.id := hparent
      obtain ⟨k', hk', hne, -, htop, -⟩ := checkParent_eq_ok_iff.1 (allowed k.id rfl)
      obtain rfl : k' = k :=
        Option.some.inj (hk'.symm.trans ((block?_eq_some_iff hids).2 ⟨hk, rfl⟩))
      obtain ⟨spot', hspot', ⟨hnone, -⟩ | ⟨q, hq, hplace⟩⟩ := placeUnder_null_eq_ok placed
      · exact absurd hnone (by simp)
      obtain rfl : spot' = spot := Except.ok.inj (hspot'.symm.trans hspot)
      obtain rfl : k'.id = q := Option.some.inj hq
      rw [toRelative, absolute_of_top hk' htop] at hplace
      obtain ⟨back, hback, hsame⟩ := hreturns.exists_back hplace
      exact ⟨back, (absolute_putUnder place found hk' hne htop).trans hback, hsame⟩

/-! ### Deleting a block -/

section Deleted

variable {blocks : List Block}

/-- The other blocks are found among those that are left. -/
theorem block?_of_left (hleft : c'.blocks = blocks.filter fun b ↦ b.id != n) (hne : m ≠ n) :
    c'.block? m = blocks.find? fun b ↦ b.id == m := by
  rw [block?, hleft, List.find?_filter]
  refine congrArg (blocks.find? ·) (funext fun k ↦ ?_)
  by_cases hk : k.id = m
  · simp [hk, hne]
  · simp [hk]

theorem block?_of_left_self (hleft : c'.blocks = blocks.filter fun b ↦ b.id != n) :
    c'.block? n = none := by
  rw [block?, hleft, List.find?_eq_none]
  intro b hb
  simpa using (List.mem_filter.1 hb).2

/-- Deleting a block changes nothing that is not inside it. -/
theorem reframed_of_left (hblocks : List.Forall₂ (c.Released n) c.blocks blocks)
    (hleft : c'.blocks = blocks.filter fun b ↦ b.id != n) : c.Reframed c' n := by
  intro k hne hout
  rw [block?_of_left hleft hne]
  rcases hb : c.block? k with - | b
  · have hids : blocks.map Block.id = c.blocks.map Block.id :=
      map_forall₂ (fun _ _ h ↦ h.id_eq) hblocks
    rw [find?_key_eq_none_iff Block.id, hids]
    exact (find?_key_eq_none_iff Block.id).1 hb
  · obtain ⟨b', hb', rfl | ⟨-, -, -, hparent, -⟩⟩ :=
      find?_key_forall₂ Block.id Released.id_eq hblocks hb
    · exact hb'
    · exact absurd (.child hb hparent) hout

theorem keepsPlaces_of_left (hids : (c.blocks.map Block.id).Nodup) (hh : Hung p c.blocks)
    (hblocks : List.Forall₂ (c.Released n) c.blocks blocks)
    (hchildless : ∀ b ∈ blocks, b.parent ≠ some n) {o : Outcome Reply}
    (hh' : Hung p o.canvas.blocks)
    (hleft : o.canvas.blocks = blocks.filter fun b ↦ b.id != n) : KeepsPlaces p c n o := by
  have hgone := block?_of_left_self hleft
  refine ⟨fun m hne hfar ↦ ?_, fun b hb ↦ ?_, fun b k spot hb ↦ ?_⟩
  · by_cases hin : c.Inside n m
    · -- The block was inside a container, and is set free where it was.
      have hnested : Nested p c.blocks := hfar.resolve_right fun hout ↦ hout hin
      obtain ⟨b, k, hb, hparent, hk, hcontainer, htop⟩ := hin.of_nested hids hnested
      obtain ⟨-, rfl⟩ := mem_of_block? hk
      obtain ⟨b', hb', hreleased⟩ := find?_key_forall₂ Block.id Released.id_eq hblocks hb
      obtain rfl | ⟨corner, spot, hcorner, -, hspot, rfl⟩ := hreleased
      · exact absurd hparent (hchildless b' (List.mem_of_find?_eq_some hb'))
      obtain rfl : corner = k.position :=
        Except.ok.inj (hcorner.symm.trans (absolute_of_top hk htop))
      have hafter : o.canvas.absolute m = .ok spot :=
        absolute_of_top ((block?_of_left hleft hne).trans hb') rfl
      rw [hafter, absolute_of_inside hb hk hparent hne.symm htop, hspot]
    · exact (reframed_of_left hblocks hleft).absolute_eq hh hh' hne hin
  · exact absurd (hgone.symm.trans hb) (by simp)
  · exact absurd (hgone.symm.trans hb) (by simp)

end Deleted

end Canvas

/-! ### Runs -/

/-- The instructions that change the frame of a block and give it no place: to have another parent,
or none, to have its parent resolved, and to be deleted. -/
inductive Instruction.Reframes (n : String) : Instruction → Prop
  | reparent (parent : Option String) : Reframes n (.reparent (.text n) (.ofText? parent) .null)
  | resolve : Reframes n (.resolve (.text n))
  | delete : Reframes n (.delete (.text n))

namespace Canvas

variable {p : Palette} {n : String}

/-- **Changing frames moves nothing.** After any run of actions that loads documents only, on any
palette, let an instruction come through that changes the frame of a block without giving it a
place.

* Every block that is not inside that block is where it was on the canvas, and the block itself too
  if it has no parent then. If it has entered a container, it is where it was if its spot comes back
  from the frame of the container.
* What is inside is where it was if blocks are nested, as they are **as long as no load of the run
  was interrupted**. This covers what was inside a container that is deleted.
* The block has the parent that it was to have, or is gone. -/
theorem reframing_keeps_places {actions : List Action} (h : ∀ a ∈ actions, a.Checked)
    {i : Instruction} (hi : i.Reframes n) {reply : Reply}
    (hreply : ((run p actions).follow p i).result = .ok reply) :
    let c := run p actions
    let o := c.follow p i
    KeepsPlaces p c n o ∧ ((∀ a ∈ actions, ¬ a.Interrupted p) → Nested p c.blocks) ∧
      (∀ parent, i = .reparent (.text n) (.ofText? parent) .null →
        (o.canvas.block? n).map Block.parent = some parent) ∧
      (i = .delete (.text n) → o.canvas.block? n = none) := by
  intro c o
  have hids : (c.blocks.map Block.id).Nodup := (consistent_of_run h).blockIds
  have hh : Hung p c.blocks := hung_of_run h
  have hh' : Hung p o.canvas.blocks := by
    have hall : ∀ a ∈ actions ++ [.follow i], a.Checked := by
      rw [List.forall_mem_append]
      refine ⟨h, List.forall_mem_singleton.2 ?_⟩
      cases hi <;> trivial
    have hrun := hung_of_run (p := p) hall
    rwa [run_concat] at hrun
  have hcalm : (∀ a ∈ actions, ¬ a.Interrupted p) → Nested p c.blocks :=
    fun hcalm ↦ (sound_of_calm h hcalm).nested
  cases hi with
  | reparent parent =>
    obtain ⟨b, q, hb, hq, heq⟩ := follow_reparent_eq_ok hreply
    obtain rfl : n = b.id := Value.text.inj hb
    obtain rfl : parent = q := ofText?_inj hq
    replace heq : o = (c.reparent p b.id parent .null).map fun _ ↦ .done := heq
    obtain ⟨⟨⟩, hok, -⟩ := map_eq_ok_iff.1 ((congrArg Outcome.result heq).symm.trans hreply)
    refine ⟨keepsPlaces_of_framed (heq ▸ framed_of_reparent hok) hids hh hh', hcalm, ?_, by simp⟩
    intro parent' hparent'
    obtain rfl : parent = parent' := ofText?_inj (Instruction.reparent.inj hparent').2.1
    obtain ⟨k, place, hk, -, -, hafter⟩ := reparent_eq_ok hok
    rw [heq, hafter]
    exact congrArg (Option.map Block.parent) (block?_putUnder_self parent place hk)
  | resolve =>
    obtain ⟨b, hb, -, heq⟩ := follow_named_eq_ok rfl hreply
    obtain rfl : n = b.id := Value.text.inj hb
    replace heq : o = (c.resolve p b.id).map .changed := heq
    obtain ⟨changed, hok, -⟩ := map_eq_ok_iff.1 ((congrArg Outcome.result heq).symm.trans hreply)
    exact ⟨keepsPlaces_of_framed (heq ▸ framed_of_resolve hok) hids hh hh', hcalm, by simp, by simp⟩
  | delete =>
    obtain ⟨b, hb, -, heq⟩ := follow_named_eq_ok rfl hreply
    obtain rfl : n = b.id := Value.text.inj hb
    replace heq : o = (c.deleteBlock p b.id).map fun _ ↦ .done := heq
    obtain ⟨⟨⟩, hok, -⟩ := map_eq_ok_iff.1 ((congrArg Outcome.result heq).symm.trans hreply)
    obtain ⟨blocks, hblocks, hchildless, hafter⟩ := deleteBlock_inv hok
    have hleft : o.canvas.blocks = blocks.filter fun k ↦ k.id != b.id := by
      rw [heq, hafter]
      exact congrArg Canvas.blocks (deselecting_eq _ _)
    exact ⟨keepsPlaces_of_left hids hh hblocks hchildless hh' hleft, hcalm, by simp,
      fun _ ↦ block?_of_left_self hleft⟩

/-- A container is deleted around a block. The block is free then, and where it was. -/
theorem deleted_around_block :
    let p := Palette.bundled
    let point : Float → Float → Value := fun x y ↦ .object [("x", .float x), ("y", .float y)]
    let actions : List Action :=
      [.follow (.create { type := .text "function-definition", position := point 0.1 20 }),
        .follow (.drop { type := .text "debug", position := point 60.7 30 })]
    let c := run p actions
    let after := (c.follow p (.delete (.text "node_0"))).canvas
    (∀ a ∈ actions, a.Checked) ∧ (∀ a ∈ actions, ¬ a.Interrupted p) ∧
      (c.follow p (.delete (.text "node_0"))).result = .ok .done ∧
      (c.block? "node_1").map Block.parent = some (some "node_0") ∧
      (after.block? "node_1").map Block.parent = some none ∧ after.block? "node_0" = none ∧
      (after.absolute "node_1").toOption = (c.absolute "node_1").toOption := by
  intro p point actions c after
  have hchecked : ∀ a ∈ actions, a.Checked := by simp [actions, Action.Checked]
  have hcalm : ∀ a ∈ actions, ¬ a.Interrupted p := by
    simp [actions, Action.Interrupted, Action.drawing?]
  have hdone : (c.follow p (.delete (.text "node_0"))).result = .ok .done := by decide +kernel
  obtain ⟨hkeeps, hnested, -, hgone⟩ := reframing_keeps_places hchecked .delete hdone
  exact ⟨hchecked, hcalm, hdone, by decide +kernel, by decide +kernel, hgone rfl,
    hkeeps.others "node_1" (by decide) (.inl (hnested hcalm))⟩

/-- **A deleted container moves what is inside of what was inside.** A block is dropped into the
second container of an interrupted drawing. It takes the id of the first, so the block inside that
one now has a parent that has a parent, and is where three places add up to. Once the second
container is deleted it is where two places add up to, which is not the same spot. -/
theorem freed_block_moves_what_is_inside :
    let p := Palette.bundled
    let point : Float → Float → Value := fun x y ↦ .object [("x", .float x), ("y", .float y)]
    let actions : List Action := [.openDocument (.ok (.interrupting twoContainers [])),
      .follow (.reparent (.text "node_5") (.text "node_0") (point 0.1 0)),
      .follow (.drop { type := .text "debug", position := point 1256.2 1000 })]
    let c := run p actions
    let after := (c.follow p (.delete (.text "node_6"))).canvas
    (∀ a ∈ actions, a.Checked) ∧
      (c.follow p (.delete (.text "node_6"))).result = .ok .done ∧
      (after.block? "node_5").isSome = true ∧
      c.absolute "node_5" = .ok (.ofFloats 1256.3000000000002 1000) ∧
      after.absolute "node_5" = .ok (.ofFloats 1256.3 1000) ∧
      Point.same (.ofFloats 1256.3000000000002 1000) (.ofFloats 1256.3 1000) = false := by
  intro p point actions c after
  have hmoved : run p (actions.take 2) =
      ((Action.follow (.reparent (.text "node_5") (.text "node_0") (point 0.1 0))).effect p
        { empty with
          blocks := (Drawing.interrupting twoContainers []).blocks
          wires := []
          created := some "then" }).canvas := by
    rw [← run_twoContainers]
    exact run_concat p [.openDocument (.ok (.interrupting twoContainers []))] _
  have hrun := run_concat p (actions.take 2)
    (.follow (.drop { type := .text "debug", position := point 1256.2 1000 }))
  rw [hmoved] at hrun
  replace hrun : c = _ := hrun
  refine ⟨by simp [actions, Action.Checked], ?_, ?_, ?_, ?_, by decide +kernel⟩
  · rw [hrun]
    decide +kernel
  · show ((c.follow p (.delete (.text "node_6"))).canvas.block? "node_5").isSome = true
    rw [hrun]
    decide +kernel
  · rw [hrun]
    decide +kernel
  · show (c.follow p (.delete (.text "node_6"))).canvas.absolute "node_5" = _
    rw [hrun]
    decide +kernel

end Canvas

end FlowCanvas
