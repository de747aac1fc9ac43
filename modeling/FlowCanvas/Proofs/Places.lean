import FlowCanvas.Proofs.Graph

/-!
# Where blocks are

Geometry on a canvas that follows the rules. Three facts make it simple there.

* **Places are floats** (`Placed`), as long as nothing else can be read from what is handed over
  (`Value.Floating`), so that sums and differences of places exist and boxes can be compared with
  points.
* **The chain of parents has one link**: a block is on the canvas itself or inside a container that
  is, so its place on the canvas is its own or the sum of two (`absolute_eq`), and that of a
  container is its own (`absolute_of_top`).
* **Whether a box holds a point is a matter of the container alone** (`boxContains_eq`). So finding
  the container under a point is a search through the list of blocks that asks nothing of the rest
  of the canvas (`containerAt_eq`, `firstHolding`).

The last fact is why looking up a container before a block is moved or dropped tells what looking it
up afterwards will find: the block itself is left out of the search, and nothing else has changed
(`firstHolding_modify`, `firstHolding_concat`). The search stops at the first container that holds
the point, so a container without a proper box behind it is noticed neither time.
-/

namespace FlowCanvas

/-! ### Places that are floats -/

/-- The coordinates of a point are floats. -/
def Point.IsFloat (q : Point) : Prop := ∃ x y, q = .ofFloats x y

namespace Point

variable {q r : Point}

theorem isFloat_ofFloats (x y : Float) : (ofFloats x y).IsFloat :=
  ⟨x, y, rfl⟩

/-- Places that are floats have a sum. -/
theorem IsFloat.plus (hq : q.IsFloat) (hr : r.IsFloat) :
    ∃ sum, q.plus r = .ok sum ∧ sum.IsFloat := by
  obtain ⟨x, y, rfl⟩ := hq
  obtain ⟨a, b, rfl⟩ := hr
  refine ⟨ofFloats (x + a) (y + b), ?_, isFloat_ofFloats _ _⟩
  rw [Point.plus, add_ofFloats]
  rfl

/-- Places that are floats have a difference. -/
theorem IsFloat.minus (hq : q.IsFloat) (hr : r.IsFloat) :
    ∃ difference, q.minus r = .ok difference ∧ difference.IsFloat := by
  obtain ⟨x, y, rfl⟩ := hq
  obtain ⟨a, b, rfl⟩ := hr
  refine ⟨ofFloats (x - a) (y - b), ?_, isFloat_ofFloats _ _⟩
  rw [Point.minus, sub_ofFloats]
  rfl

theorem isFloat_ofCoordinates {x y : Value} (h : ofCoordinates x y = .ok q) : q.IsFloat := by
  unfold ofCoordinates at h
  split at h
  · exact absurd h (by simp)
  · split at h
    · exact absurd h (by simp)
    · exact ⟨_, _, (Except.ok.inj h).symm⟩

/-- **What is read from a value that is no live point has floats for coordinates.** -/
theorem isFloat_ofValue {v : Value} (hv : ∀ x y, v ≠ .point x y) (h : ofValue v = .ok q) :
    q.IsFloat := by
  unfold ofValue at h
  split at h
  · exact absurd rfl (hv _ _)
  · exact ⟨0, 0, (Except.ok.inj h).symm⟩
  · exact isFloat_ofCoordinates h
  · split at h
    · exact isFloat_ofCoordinates h
    · exact absurd h (by simp)
    · exact absurd h (by simp)

end Point

/-- **A value that is read as a point of floats**, if as a point at all. -/
def Value.Floating (v : Value) : Prop := ∀ q, Point.ofValue v = .ok q → q.IsFloat

theorem Value.floating_of_ne_point {v : Value} (hv : ∀ x y, v ≠ .point x y) : v.Floating :=
  fun _ h ↦ Point.isFloat_ofValue hv h

/-- **The places of all blocks are floats.** -/
def Placed (blocks : List Block) : Prop := ∀ b ∈ blocks, b.position.IsFloat

namespace Canvas

open Checks

variable {p : Palette} {c : Canvas} {id : String} {b : Block}

/-- Sums along the chain of parents are floats. -/
theorem isFloat_sumParents (hplaced : Placed c.blocks) {fuel : Nat} {seen : List String}
    {point spot : Point} {parent : Option String} (hpoint : point.IsFloat)
    (h : c.sumParents fuel seen point parent = .ok spot) : spot.IsFloat := by
  induction fuel generalizing seen point parent with
  | zero =>
    rcases parent with - | id
    · exact Except.ok.inj h ▸ hpoint
    · exact absurd h (by simp [sumParents])
  | succ fuel ih =>
    rcases parent with - | id
    · exact Except.ok.inj h ▸ hpoint
    · rw [sumParents, guard_eq_ok_iff] at h
      rcases hb : c.block? id with - | b
      · exact absurd h.2 (by simp [hb])
      · obtain ⟨sum, hsum, hfloat⟩ := hpoint.plus (hplaced b (mem_of_block? hb).1)
        rw [hb] at h
        exact ih hfloat (by simpa [hsum] using h.2)

theorem isFloat_absolute (hplaced : Placed c.blocks) {spot : Point}
    (h : c.absolute id = .ok spot) : spot.IsFloat := by
  unfold absolute at h
  rcases hb : c.block? id with - | b
  · exact absurd h (by simp [hb])
  · rw [hb] at h
    exact isFloat_sumParents hplaced (hplaced b (mem_of_block? hb).1) h

theorem isFloat_placeUnder (hplaced : Placed c.blocks) {parent : Option String} {position : Value}
    {place : Point} (hposition : position = .null ∨ position.Floating)
    (h : c.placeUnder id parent position = .ok place) : place.IsFloat := by
  unfold placeUnder at h
  split at h
  · rcases hspot : c.absolute id with fault | spot
    · exact absurd h (by simp [hspot])
    · have hfloat := isFloat_absolute hplaced hspot
      rw [hspot] at h
      rcases parent with - | q
      · exact Except.ok.inj h ▸ hfloat
      · obtain ⟨corner, hcorner, hminus⟩ := bind_eq_ok_iff.1 h
        obtain ⟨difference, hdifference, hplace⟩ :=
          hfloat.minus (isFloat_absolute hplaced hcorner)
        exact Except.ok.inj (hdifference.symm.trans hminus) ▸ hplace
  · next hnull =>
    rcases hpoint : Point.ofValue position with why | point
    · exact absurd h (by simp [hpoint])
    · rw [hpoint] at h
      obtain rfl : point = place := Except.ok.inj h
      rcases hposition with rfl | hposition
      · exact absurd rfl hnull
      · exact hposition point hpoint

/-! ### No step loses a place -/

theorem placed_modifyBlock (hplaced : Placed c.blocks) {f : Block → Block}
    (hf : ∀ b ∈ c.blocks, (f b).position.IsFloat) : Placed (c.modifyBlock id f).blocks := by
  intro b' hb'
  obtain ⟨b, hb, rfl⟩ := List.mem_map.1 hb'
  split
  · exact hf b hb
  · exact hplaced b hb

/-- Where only floats can be read from what is handed over, retouching leaves floats for places. -/
theorem Retouch.placed {s : Supply} {c' : Canvas} {es : List Event} (h : Retouch p s c es c')
    (hs : ∀ v, s.place v → v.Floating) (hplaced : Placed c.blocks) :
    Placed c'.blocks := by
  cases h with
  | number => exact hplaced
  | update id b patch properties keys => exact placed_modifyBlock hplaced hplaced
  | write id b raw entries =>
    refine placed_modifyBlock hplaced fun b hb ↦ ?_
    obtain ⟨properties, strays, h⟩ := write_eq b entries
    rw [h]
    exact hplaced b hb
  | relabel id label => exact placed_modifyBlock hplaced hplaced
  | move id b position place block within read =>
    exact placed_modifyBlock hplaced fun _ _ ↦ hs position within place read
  | nest id b parent position place block within allowed found =>
    refine placed_modifyBlock hplaced fun _ _ ↦ ?_
    exact isFloat_placeUnder hplaced (within.imp_right (hs position)) found
  | free id corner found =>
    intro b' hb'
    obtain ⟨b, hb, hfreed⟩ := exists_of_forall₂ (freed_forall₂ id corner c.blocks) hb'
    obtain rfl | ⟨spot, -, hspot, rfl⟩ := hfreed
    · exact hplaced _ hb
    · obtain ⟨sum, hsum, hfloat⟩ := (hplaced b hb).plus (isFloat_absolute hplaced found)
      exact Except.ok.inj (hsum.symm.trans hspot) ▸ hfloat
  | rewire => exact hplaced

theorem Step.placed {s : Supply} {c' : Canvas} {es : List Event} (h : Step p s c es c')
    (hs : ∀ v, s.place v → v.Floating) (hplaced : Placed c.blocks) :
    Placed c'.blocks := by
  rcases h with h | h
  · cases h with
    | retouch h => exact h.placed hs hplaced
    | remove id b block plain childless =>
      rw [deselecting_eq]
      exact fun b hb ↦ hplaced b (List.mem_of_mem_filter hb)
    | connect => exact hplaced
    | disconnect =>
      rw [deselecting_eq]
      exact hplaced
    | select =>
      rw [selecting_eq]
      exact hplaced
  · obtain ⟨n, t, properties, position, within, type, defaults, valid, place⟩ := h
    intro b hb
    rcases mem_putBy Block.id hb with rfl | hb
    · exact hs n.position within.1 position place
    · exact hplaced b hb

theorem Trace.placed {s : Supply} {c' : Canvas} {es : List Event} (h : Trace (Step p s) c es c')
    (hs : ∀ v, s.place v → v.Floating) (hplaced : Placed c.blocks) :
    Placed c'.blocks :=
  h.invariant (P := fun c ↦ Placed c.blocks) (fun step hplaced ↦ step.placed hs hplaced) hplaced

/-! ### One link of parents -/

/-- The place on the canvas of a block without a parent is its own. -/
theorem absolute_of_top (hb : c.block? id = some b) (htop : b.parent = none) :
    c.absolute id = .ok b.position := by
  simp [absolute, hb, htop, sumParents]

/-- **The place of a block on the canvas** is its own, or the sum with that of its parent. -/
theorem absolute_eq (hids : (c.blocks.map Block.id).Nodup) (hn : Nested p c.blocks)
    (hb : c.block? id = some b) : c.absolute id = c.toAbsolute b.position b.parent := by
  rcases hparent : b.parent with - | q
  · exact absolute_of_top hb hparent
  · obtain ⟨hmem, rfl⟩ := (block?_eq_some_iff hids).1 hb
    obtain ⟨k, hk, rfl, -, htop⟩ := hn.parents b hmem q hparent
    have hfound : c.block? k.id = some k := (block?_eq_some_iff hids).2 ⟨hk, rfl⟩
    have hne : k.id ≠ b.id := by
      intro heq
      have hkb : k = b := List.inj_on_of_nodup_map hids hk hmem heq
      rw [← hkb, htop] at hparent
      exact absurd hparent (by simp)
    -- The walk up the parents ends after one step: the parent is new to it and has none itself.
    have hunseen : [b.id].contains k.id = false := by simpa using hne
    have hsum : c.absolute b.id = b.position.plus k.position := by
      simp only [absolute, hb, hparent, sumParents, hunseen, hfound, htop, Bool.false_eq_true,
        if_false]
      rcases b.position.plus k.position with fault | sum <;> rfl
    have habsolute : c.toAbsolute b.position (some k.id) = b.position.plus k.position := by
      rw [toAbsolute, absolute_of_top hfound htop]
      rfl
    rw [hsum, habsolute]

end Canvas

/-! ### The container under a point -/

/-- Whether the box of a container that stands on the canvas itself holds a point. -/
def Block.holds (b : Block) (point : Point) : Except Fault Bool :=
  (Canvas.sidesOf b.id ((Fields.get? b.properties "width").getD (.int Canvas.defaultWidth))
    ((Fields.get? b.properties "height").getD (.int Canvas.defaultHeight))).bind fun sides ↦
      (Box.contains ⟨b.position, sides.1, sides.2⟩ point).mapError fun why ↦
        .badPoint (.coordinate why)

/-- The first of some blocks that is a container other than `exclude` and whose own box holds a
point. -/
def firstHolding (p : Palette) (point : Point) (exclude : Option String) :
    List Block → Except Fault (Option Block)
  | [] => .ok none
  | b :: rest =>
    if exclude = some b.id || !p.isContainer b.type then firstHolding p point exclude rest
    else
      match b.holds point with
      | .error fault => .error fault
      | .ok true => .ok (some b)
      | .ok false => firstHolding p point exclude rest

/-- What is found is a container other than the one left out. -/
theorem mem_of_firstHolding {p : Palette} {point : Point} {exclude : Option String}
    {blocks : List Block} {k : Block} (h : firstHolding p point exclude blocks = .ok (some k)) :
    k ∈ blocks ∧ p.isContainer k.type = true ∧ exclude ≠ some k.id := by
  induction blocks with
  | nil => exact absurd h (by simp [firstHolding])
  | cons b rest ih =>
    -- A block that is passed over, for either reason, leaves the search to the rest.
    have hrest : firstHolding p point exclude rest = .ok (some k) →
        k ∈ b :: rest ∧ p.isContainer k.type = true ∧ exclude ≠ some k.id := by
      intro h
      obtain ⟨hk, hkept⟩ := ih h
      exact ⟨List.mem_cons_of_mem b hk, hkept⟩
    rw [firstHolding] at h
    split at h
    · exact hrest h
    · next hcandidate =>
      split at h
      · exact absurd h (by simp)
      · obtain rfl : b = k := by simpa using h
        simp only [Bool.or_eq_true, decide_eq_true_eq, Bool.not_eq_true', not_or,
          Bool.not_eq_false] at hcandidate
        exact ⟨List.mem_cons_self, hcandidate.2, hcandidate.1⟩
      · exact hrest h

/-- **Changing the block that is left out does not change what is found.** -/
theorem firstHolding_modify (p : Palette) (point : Point) (id : String) {f : Block → Block}
    (hf : ∀ b, (f b).id = b.id) (blocks : List Block) :
    firstHolding p point (some id) (blocks.map fun b ↦ if b.id = id then f b else b) =
      firstHolding p point (some id) blocks := by
  induction blocks with
  | nil => rfl
  | cons b rest ih =>
    rw [List.map_cons, firstHolding, firstHolding, ih]
    by_cases hb : b.id = id
    · have hleft : (some id = some (f b).id) = True := by simp [hf, hb]
      simp [hb, hleft]
    · rw [if_neg hb]

/-- **Adding a block at the end and leaving it out does not change what is found.** -/
theorem firstHolding_concat {p : Palette} {point : Point} {new : Block} {blocks : List Block}
    (hnew : new.id ∉ blocks.map Block.id) :
    firstHolding p point (some new.id) (blocks ++ [new]) = firstHolding p point none blocks := by
  induction blocks with
  | nil => simp [firstHolding]
  | cons b rest ih =>
    simp only [List.map_cons, List.mem_cons, not_or] at hnew
    rw [List.cons_append, firstHolding, firstHolding, ih hnew.2]
    simp [hnew.1]

namespace Canvas

variable {p : Palette} {c : Canvas} {id : String} {b : Block}

/-- The box of a container on the canvas itself is its own. -/
theorem boxContains_eq (hb : c.block? id = some b) (htop : b.parent = none) (point : Point) :
    c.boxContains id point = b.holds point := by
  obtain ⟨-, rfl⟩ := mem_of_block? hb
  have hblock : c.block b.id = .ok b := block_eq_ok_iff.2 hb
  unfold boxContains boxOf Block.holds
  rw [hblock, absolute_of_top hb htop]
  simp only [bind, Except.bind]
  rcases sidesOf b.id ((Fields.get? b.properties "width").getD (.int defaultWidth))
    ((Fields.get? b.properties "height").getD (.int defaultHeight)) with fault | sides <;> rfl

theorem isContainer_eq (hb : c.block? id = some b) : c.isContainer p id = p.isContainer b.type := by
  rw [isContainer, hb]

/-- **Finding the container under a point is a search through the blocks.** -/
theorem containerAt_eq (hids : (c.blocks.map Block.id).Nodup)
    (htop : ∀ b ∈ c.blocks, p.isContainer b.type = true → b.parent = none) (point : Point)
    (exclude : Option String) :
    c.containerAt p point exclude = firstHolding p point exclude c.blocks := by
  have hsearch : ∀ blocks, (∀ b ∈ blocks, b ∈ c.blocks) →
      c.containerAmong p point exclude blocks = firstHolding p point exclude blocks := by
    intro blocks hblocks
    induction blocks with
    | nil => rfl
    | cons b rest ih =>
      obtain ⟨hb, hrest⟩ := List.forall_mem_cons.1 hblocks
      have hfound : c.block? b.id = some b := (block?_eq_some_iff hids).2 ⟨hb, rfl⟩
      rw [containerAmong, firstHolding, isContainer_eq hfound, ih hrest]
      split
      · rfl
      · next hcandidate =>
        have hcontainer : p.isContainer b.type = true := by
          simp only [Bool.or_eq_true, Bool.not_eq_true', not_or, Bool.not_eq_false] at hcandidate
          exact hcandidate.2
        have hbox := boxContains_eq hfound (htop b hb hcontainer) point
        generalize c.boxContains b.id point = inside at hbox ⊢
        subst hbox
        rfl
  exact hsearch c.blocks fun _ hb ↦ hb

end Canvas

end FlowCanvas
