import FlowCanvas.Proofs.Boxes
import FlowCanvas.Proofs.Interruption

/-!
# Where a dragged block ends up

A drag ends with a place in the frame of the block, and the canvas works out the rest: where that is
on the canvas, which container is there, and what the place of the block is as seen from it. Here
the end of a drag is stated without the canvas' own way of getting there.

* **The spot.** A place in the frame of a parent is at some spot of the canvas (`Canvas.At`): the
  places of the parents are added, from the nearest on.
* **The container.** A container covers a half-open box (`Block.Covers`), and the first one in
  document order that covers the spot is the one under it (`firstOver`).
* **The end.** A block whose parent is under the spot stays in its frame, at the place it was
  dragged to; any other block leaves for the canvas or enters the container, at the spot
  (`Settles`).

`drag_settles` says that every drag that comes through ends like this, whatever its place was given
as, after every run of actions that loads documents only. In a run without an interrupted load a
spot is the place or the sum of two, since parents have no parents. After an interrupted load there
may be more of them to add (`dragged_through_two_parents`).
-/

namespace FlowCanvas

open Checks

/-! ### Boxes -/

/-- A coordinate lies in the half-open interval from `start` over a length. -/
def Value.Spans (start : Value) (length : Float) (v : Value) : Prop :=
  (atMost start v).toOption = some true ∧
    ∃ stop ∈ (plus start (.float length)).toOption, (less v stop).toOption = some true

instance (start : Value) (length : Float) (v : Value) : Decidable (start.Spans length v) :=
  inferInstanceAs (Decidable (_ ∧ ∃ stop ∈ (Value.plus start (.float length)).toOption, _))

/-- **A block covers a spot**: its box, from its place over its sides, holds the spot. The left and
the upper edge belong to the box. -/
def Block.Covers (k : Block) (spot : Point) : Prop :=
  ∃ width ∈ (k.side "width" Canvas.defaultWidth).toFloat.toOption,
    ∃ height ∈ (k.side "height" Canvas.defaultHeight).toFloat.toOption,
      k.position.x.Spans width spot.x ∧ k.position.y.Spans height spot.y

instance (k : Block) (spot : Point) : Decidable (k.Covers spot) :=
  inferInstanceAs (Decidable (∃ width ∈ (k.side "width" Canvas.defaultWidth).toFloat.toOption,
    ∃ height ∈ (k.side "height" Canvas.defaultHeight).toFloat.toOption, _ ∧ _))

/-- The first container of some blocks that covers a spot. -/
def firstOver (p : Palette) (spot : Point) (blocks : List Block) : Option Block :=
  blocks.find? fun k ↦ p.isContainer k.type && decide (k.Covers spot)

theorem Box.spans_eq_true_iff {start : Value} {length : Float} {v : Value} :
    Box.spans start length v = .ok true ↔ start.Spans length v := by
  unfold Box.spans Value.Spans
  rcases Value.atMost start v with why | - | -
  · simp [bind, Except.bind, Except.toOption]
  · simp [bind, Except.bind, Except.toOption, pure, Except.pure]
  · rcases Value.plus start (.float length) with why | stop
    · simp [bind, Except.bind, Except.toOption]
    · simp only [bind, Except.bind, Except.toOption, if_true, true_and, Option.mem_some_iff,
        exists_eq_left']
      rcases Value.less v stop with why | inside
      · simp
      · simp

theorem Box.contains_eq_true_iff {box : Box} {spot : Point} :
    box.contains spot = .ok true ↔
      box.corner.x.Spans box.width spot.x ∧ box.corner.y.Spans box.height spot.y := by
  rw [← spans_eq_true_iff, ← spans_eq_true_iff, Box.contains]
  rcases Box.spans box.corner.x box.width spot.x with why | - | -
  · simp [bind, Except.bind]
  · simp [bind, Except.bind, pure, Except.pure]
  · simp [bind, Except.bind]

theorem Canvas.sidesOf_eq_ok_iff {id : String} {width height : Value} {sides : Float × Float} :
    sidesOf id width height = .ok sides ↔
      width.toFloat = .ok sides.1 ∧ height.toFloat = .ok sides.2 := by
  obtain ⟨w, h⟩ := sides
  unfold sidesOf
  rcases width.toFloat with why | w'
  · simp
  · rcases height.toFloat with why | h'
    · simp
    · simp

/-- **A box that is found to hold a spot is one that covers it.** -/
theorem Block.holds_eq_true_iff {k : Block} {spot : Point} :
    k.holds spot = .ok true ↔ k.Covers spot := by
  have hholds : k.holds spot = .ok true ↔ ∃ sides,
      Canvas.sidesOf k.id (k.side "width" Canvas.defaultWidth)
        (k.side "height" Canvas.defaultHeight) = .ok sides ∧
      (Box.contains ⟨k.position, sides.1, sides.2⟩ spot).mapError
        (fun why ↦ Fault.badPoint (.coordinate why)) = .ok true := bind_eq_ok_iff
  simp only [hholds, mapError_eq_ok_iff, Canvas.sidesOf_eq_ok_iff, Box.contains_eq_true_iff,
    Prod.exists, Block.Covers, Option.mem_def, toOption_eq_some_iff]
  constructor
  · rintro ⟨width, height, ⟨hwidth, hheight⟩, hinside⟩
    exact ⟨width, hwidth, height, hheight, hinside⟩
  · rintro ⟨width, hwidth, height, hheight, hinside⟩
    exact ⟨width, height, ⟨hwidth, hheight⟩, hinside⟩

/-- **The search for a container comes to the first one over the spot.** What is left out of the
search is no container. -/
theorem firstHolding_eq_ok {p : Palette} {spot : Point} {exclude : Option String}
    {blocks : List Block} {found : Option Block}
    (h : firstHolding p spot exclude blocks = .ok found)
    (hexclude : ∀ k ∈ blocks, exclude = some k.id → p.isContainer k.type = false) :
    found = firstOver p spot blocks := by
  induction blocks with
  | nil => exact (Except.ok.inj h).symm
  | cons k rest ih =>
    obtain ⟨hk, hrest⟩ := List.forall_mem_cons.1 hexclude
    rw [firstHolding] at h
    rw [firstOver]
    split at h
    · next hpassed =>
      have hplain : p.isContainer k.type = false := by
        rcases Bool.or_eq_true_iff.1 hpassed with hsame | hplain
        · exact hk (by simpa using hsame)
        · simpa using hplain
      rw [List.find?_cons_of_neg (by simp [hplain])]
      exact ih h hrest
    · next hcandidate =>
      have hcontainer : p.isContainer k.type = true := by
        simp only [Bool.or_eq_true, Bool.not_eq_true', not_or, Bool.not_eq_false] at hcandidate
        exact hcandidate.2
      rcases hholds : k.holds spot with fault | - | -
      · simp [hholds] at h
      · have hcovers : ¬ k.Covers spot := by
          rw [← Block.holds_eq_true_iff, hholds]
          simp
        rw [List.find?_cons_of_neg (by simp [hcovers])]
        exact ih (by simpa [hholds] using h) hrest
      · have hcovers : k.Covers spot := Block.holds_eq_true_iff.1 hholds
        rw [List.find?_cons_of_pos (by simp [hcontainer, hcovers])]
        exact (by simpa [hholds] using h : some k = found).symm

/-! ### Spots -/

namespace Canvas

/-- **A place in the frame of a parent is at a spot of the canvas**: at the place itself if there is
no parent, and otherwise where the sum with the place of the parent is, in the frame of the parent's
parent. -/
inductive At (c : Canvas) : Point → Option String → Point → Prop
  | top (place : Point) : At c place none place
  | inside {place sum spot : Point} {id : String} {k : Block} (parent : c.block? id = some k)
      (added : place.plus k.position = .ok sum) (rest : At c sum k.parent spot) :
      At c place (some id) spot

variable {p : Palette} {c c' : Canvas} {id : String}

/-- The walk up the parents comes to the spot. It may go over another canvas, if that has the same
blocks beyond those that the walk must not meet. -/
theorem at_of_sumParents {fuel : Nat} {seen : List String} {place spot : Point}
    {parent : Option String} (hsame : ∀ k, k ∉ seen → c'.block? k = c.block? k)
    (h : c'.sumParents fuel seen place parent = .ok spot) : c.At place parent spot := by
  induction fuel generalizing seen place parent with
  | zero =>
    rcases parent with - | q
    · obtain rfl := Except.ok.inj h
      exact .top place
    · exact absurd h (by simp [sumParents])
  | succ fuel ih =>
    rcases parent with - | q
    · obtain rfl := Except.ok.inj h
      exact .top place
    · rw [sumParents, guard_eq_ok_iff] at h
      obtain ⟨hunseen, h⟩ := h
      have hnew : q ∉ seen := by simpa using hunseen
      rcases hk : c'.block? q with - | k
      · exact absurd h (by simp [hk])
      · rcases hsum : place.plus k.position with fault | sum
        · exact absurd h (by simp [hk, hsum])
        · simp only [hk, hsum] at h
          refine .inside ((hsame q hnew).symm.trans hk) hsum (ih (fun i hi ↦ ?_) h)
          exact hsame i fun hmem ↦ hi (List.mem_cons_of_mem q hmem)

/-- Where parents have no parents, a spot is the place or the sum of two. -/
theorem At.of_nested (hids : (c.blocks.map Block.id).Nodup) (hn : Nested p c.blocks) {b : Block}
    (hb : b ∈ c.blocks) {place spot : Point} (h : c.At place b.parent spot) :
    (b.parent = none ∧ spot = place) ∨
      ∃ k ∈ c.blocks, b.parent = some k.id ∧ p.isContainer k.type = true ∧
        place.plus k.position = .ok spot := by
  generalize hparent : b.parent = parent at h
  cases h with
  | top => exact .inl ⟨rfl, rfl⟩
  | @inside _ sum _ q k found added rest =>
    obtain ⟨hk, rfl⟩ := mem_of_block? found
    obtain ⟨k', hk', hid, hcontainer, htop⟩ := hn.parents b hb k.id hparent
    obtain rfl : k' = k := List.inj_on_of_nodup_map hids hk' hk hid
    rw [htop] at rest
    cases rest
    exact .inr ⟨k', hk, rfl, hcontainer, added⟩

/-! ### The end of a drag -/

/-- **Where a block settles** that was dragged to a place in its frame, which is at a spot of the
canvas: the parent it has then, and its place. -/
inductive Settles (p : Palette) (c : Canvas) (b : Block) (place spot : Point) :
    Option String → Point → Prop
  /-- The block is over its parent, or over none and had none. -/
  | stays (same : (firstOver p spot c.blocks).map Block.id = b.parent) :
      Settles p c b place spot b.parent place
  /-- The block is over no container any more. -/
  | leaves (bare : firstOver p spot c.blocks = none) (inside : b.parent ≠ none) :
      Settles p c b place spot none spot
  /-- The block is over another container than its parent. -/
  | enters (k : Block) (first : firstOver p spot c.blocks = some k) (other : b.parent ≠ some k.id)
      (place' : Point) (seen : spot.minus k.position = .ok place') :
      Settles p c b place spot (some k.id) place'

/-- Changing the block of an id is putting what it becomes in its place, where ids are distinct. -/
theorem modifyBlock_eq_of_block? (hids : (c.blocks.map Block.id).Nodup) {b : Block}
    (hb : c.block? id = some b) (f : Block → Block) :
    c.modifyBlock id f = c.modifyBlock id fun _ ↦ f b := by
  have hblocks : (c.blocks.map fun k ↦ if k.id = id then f k else k) =
      c.blocks.map fun k ↦ if k.id = id then f b else k := by
    refine List.map_congr_left fun k hk ↦ ?_
    by_cases hid : k.id = id
    · have hfound : c.block? id = some k := (block?_eq_some_iff hids).2 ⟨hk, hid⟩
      obtain rfl : k = b := Option.some.inj (hfound.symm.trans hb)
      rfl
    · rw [if_neg hid, if_neg hid]
  rw [modifyBlock, hblocks]
  rfl

/-- Two changes of a block, one after the other, are one. -/
theorem modifyBlock_modifyBlock {f : Block → Block} (hf : ∀ b, (f b).id = b.id)
    (g : Block → Block) : (c.modifyBlock id f).modifyBlock id g = c.modifyBlock id (g ∘ f) := by
  have hblocks : ((c.blocks.map fun k ↦ if k.id = id then f k else k).map fun k ↦
      if k.id = id then g k else k) = c.blocks.map fun k ↦ if k.id = id then g (f k) else k := by
    rw [List.map_map]
    refine List.map_congr_left fun k _ ↦ ?_
    by_cases hid : k.id = id
    · simp [hid, hf]
    · simp [hid]
  exact congrArg (fun blocks ↦ { c with blocks := blocks }) hblocks

/-! ### After the block was put at its place -/

section Moved

variable {b : Block} {place spot : Point}

theorem nodup_movedTo (hids : (c.blocks.map Block.id).Nodup) (id : String) (place : Point) :
    ((c.movedTo id place).blocks.map Block.id).Nodup := by
  have hkept : Kept c (c.movedTo id place) := kept_modifyBlock c id fun _ ↦ rfl
  rw [hkept.blockIds]
  exact hids

theorem hung_movedTo (hids : (c.blocks.map Block.id).Nodup) (hh : Hung p c.blocks)
    (hb : c.block? id = some b) (place : Point) : Hung p (c.movedTo id place).blocks := by
  have hstep : Step p .anything c [.blockMoved id place] (c.movedTo id place) :=
    .change (.retouch (.move c id b (.point place.x place.y) place hb trivial rfl))
  exact hstep.hung hids hh

/-- The other blocks are where they were. -/
theorem block?_movedTo_of_ne {k : String} (hne : k ≠ id) (place : Point) :
    (c.movedTo id place).block? k = c.block? k := by
  rw [block?_movedTo]
  rcases hk : c.block? k with - | b
  · rfl
  · have hid : b.id ≠ id := by
      rw [(mem_of_block? hk).2]
      exact hne
    rw [Option.map_some, if_neg hid]

/-- The spot of the block is that of the place in its frame, which no parent has left. -/
theorem at_of_absolute_movedTo (hb : c.block? id = some b)
    (hspot : (c.movedTo id place).absolute id = .ok spot) : c.At place b.parent spot := by
  rw [absolute, block?_movedTo_self hb] at hspot
  have hothers : ∀ k, k ∉ [id] → (c.movedTo id place).block? k = c.block? k :=
    fun k hk ↦ block?_movedTo_of_ne (by simpa using hk) place
  exact at_of_sumParents hothers hspot

/-- **The container that is found is the first over the spot.** The search leaves out the block
itself, which is no container and all that has changed. -/
theorem eq_firstOver_of_movedTo (hids : (c.blocks.map Block.id).Nodup) (hh : Hung p c.blocks)
    (hb : c.block? id = some b) (hplain : p.isContainer b.type = false) {found : Option Block}
    (hfound : (c.movedTo id place).containerAt p spot (some id) = .ok found) :
    found = firstOver p spot c.blocks := by
  rw [containerAt_eq (nodup_movedTo hids id place) (hung_movedTo hids hh hb place).containers]
    at hfound
  have hsearch := firstHolding_modify p spot id (f := fun b ↦ { b with position := place })
    (fun _ ↦ rfl) c.blocks
  refine firstHolding_eq_ok (hsearch.symm.trans hfound) fun k hk hid ↦ ?_
  have hk' : c.block? id = some k := (block?_eq_some_iff hids).2 ⟨hk, (Option.some.inj hid).symm⟩
  obtain rfl : k = b := Option.some.inj (hk'.symm.trans hb)
  exact hplain

/-- Containers are on the canvas itself, where they were. -/
theorem absolute_container_movedTo (hids : (c.blocks.map Block.id).Nodup) (hh : Hung p c.blocks)
    (hb : c.block? id = some b) (hplain : p.isContainer b.type = false) {k : Block}
    (hk : firstOver p spot c.blocks = some k) :
    (c.movedTo id place).absolute k.id = .ok k.position := by
  have hmem : k ∈ c.blocks := List.mem_of_find?_eq_some hk
  have hcontainer : p.isContainer k.type = true := by
    have hover := List.find?_some hk
    rw [Bool.and_eq_true] at hover
    exact hover.1
  have hfound : c.block? k.id = some k := (block?_eq_some_iff hids).2 ⟨hmem, rfl⟩
  have hne : k.id ≠ id := by
    intro heq
    obtain rfl : k = b := Option.some.inj ((heq ▸ hfound).symm.trans hb)
    exact absurd (hplain.symm.trans hcontainer) (by simp)
  refine absolute_of_top ?_ (hh.containers k hmem hcontainer)
  rw [block?_movedTo_of_ne hne]
  exact hfound

/-- A block that is not over its parent settles where it gets the container over the spot for a
parent, keeping its place on the canvas. -/
theorem settles_of_placeUnder {place' : Point} (hspot : c'.absolute id = .ok spot)
    (hcorner : ∀ {k}, firstOver p spot c.blocks = some k → c'.absolute k.id = .ok k.position)
    (hother : b.parent ≠ (firstOver p spot c.blocks).map Block.id)
    (hplace : c'.placeUnder id ((firstOver p spot c.blocks).map Block.id) .null = .ok place') :
    Settles p c b place spot ((firstOver p spot c.blocks).map Block.id) place' := by
  have hnull : Value.null.isNull = true := rfl
  rw [placeUnder, if_pos hnull, hspot] at hplace
  rcases hover : firstOver p spot c.blocks with - | k
  · rw [hover] at hother hplace
    obtain rfl : spot = place' := Except.ok.inj hplace
    exact .leaves hover hother
  · rw [hover] at hother hplace
    have hseen : c'.toRelative spot k.id = .ok place' := hplace
    rw [toRelative, hcorner hover] at hseen
    exact .enters k hover hother place' hseen

end Moved

/-- **What a drag that comes through does**, on a canvas that blocks hang from. -/
theorem moveBlock_settles (hids : (c.blocks.map Block.id).Nodup) (hh : Hung p c.blocks) {b : Block}
    (hb : c.block? id = some b) {position : Value} {changed : Bool}
    (h : (c.moveBlock p id position).result = .ok changed) :
    ∃ place, Point.ofValue position = .ok place ∧
      (p.isContainer b.type = true → changed = false ∧
        (c.moveBlock p id position).canvas =
          c.modifyBlock id fun _ ↦ { b with position := place }) ∧
      (p.isContainer b.type = false → ∃ spot parent place', c.At place b.parent spot ∧
        Settles p c b place spot parent place' ∧ changed = decide (parent ≠ b.parent) ∧
        (c.moveBlock p id position).canvas =
          c.modifyBlock id fun _ ↦ { b with parent := parent, position := place' }) := by
  obtain ⟨b₀, place, -, hb₀, hplace, -, -, hresolve, heq⟩ := moveBlock_eq_ok h
  obtain rfl : b₀ = b := Option.some.inj (hb₀.symm.trans hb)
  have hmoved : c.movedTo id place = c.modifyBlock id fun _ ↦ { b₀ with position := place } :=
    modifyBlock_eq_of_block? hids hb fun b ↦ { b with position := place }
  have hcanvas : (c.moveBlock p id position).canvas =
      ((c.movedTo id place).resolve p id).canvas := by
    rw [heq]
    rfl
  replace hresolve : ((c.movedTo id place).resolve p id).result = .ok changed := hresolve
  obtain ⟨b₁, hb₁, hcases⟩ := resolve_eq_ok hresolve
  obtain rfl : { b₀ with position := place } = b₁ :=
    Option.some.inj ((block?_movedTo_self hb place).symm.trans hb₁)
  rw [hcanvas]
  refine ⟨place, hplace, fun hcontainer ↦ ?_, fun hplain ↦ ?_⟩
  · -- A container is put at the place, and that is all.
    obtain ⟨-, hdone⟩ | ⟨hplain, -⟩ := hcases
    · rw [hdone] at hresolve ⊢
      exact ⟨(Except.ok.inj hresolve).symm, hmoved⟩
    · exact absurd (hcontainer.symm.trans hplain) (by simp)
  · obtain ⟨hcontainer, -⟩ | ⟨-, spot, found, hspot, hfound, hcases⟩ := hcases
    · exact absurd (hplain.symm.trans hcontainer) (by simp)
    have hat : c.At place b₀.parent spot := at_of_absolute_movedTo hb hspot
    obtain rfl : found = firstOver p spot c.blocks :=
      eq_firstOver_of_movedTo hids hh hb hplain hfound
    obtain ⟨hsame, hdone⟩ | ⟨hother, hok, hdone⟩ := hcases
    · rw [hdone] at hresolve ⊢
      refine ⟨spot, b₀.parent, place, hat, .stays hsame.symm, ?_, hmoved⟩
      simpa using (Except.ok.inj hresolve).symm
    · obtain ⟨b₂, place', -, -, hunder, hreparent⟩ := reparent_eq_ok hok
      rw [hdone, hreparent] at hresolve ⊢
      have hsettles : Settles p c b₀ place spot ((firstOver p spot c.blocks).map Block.id) place' :=
        settles_of_placeUnder hspot (absolute_container_movedTo hids hh hb hplain) hother hunder
      refine ⟨spot, _, place', hat, hsettles, ?_, ?_⟩
      · have hne : (firstOver p spot c.blocks).map Block.id ≠ b₀.parent := fun heq ↦ hother heq.symm
        simpa [hne] using (Except.ok.inj hresolve).symm
      · refine (modifyBlock_modifyBlock (f := fun b ↦ { b with position := place }) (fun _ ↦ rfl)
          _).trans ?_
        exact modifyBlock_eq_of_block? hids hb _

/-! ### Runs -/

/-- **Where every drag ends.** After any run of actions that loads documents only, on any palette,
let the drag of a block come through. The place was read from what was given for it, and

* a container is put at the place, and nothing else happens;
* any other block settles: it gets the first container over the spot for a parent, or none, and its
  place is the one it was dragged to if it stays, the spot itself if it leaves, and the spot as seen
  from the container if it enters one. The reply tells whether the parent has changed, and nothing
  else has;
* the spot is the place itself for a block without a parent, and the sum of the place and that of
  its parent otherwise, **as long as no load of the run was interrupted**. -/
theorem drag_settles {p : Palette} {actions : List Action} (h : ∀ a ∈ actions, a.Checked)
    {b : Block} (hb : b ∈ (run p actions).blocks) {position : Value} {reply : Reply}
    (hreply : ((run p actions).follow p (.move (.text b.id) position)).result = .ok reply) :
    ∃ place, Point.ofValue position = .ok place ∧
      (p.isContainer b.type = true → reply = .changed false ∧
        ((run p actions).follow p (.move (.text b.id) position)).canvas =
          (run p actions).modifyBlock b.id fun _ ↦ { b with position := place }) ∧
      (p.isContainer b.type = false → ∃ spot parent place',
        (run p actions).At place b.parent spot ∧
        Settles p (run p actions) b place spot parent place' ∧
        reply = .changed (decide (parent ≠ b.parent)) ∧
        ((run p actions).follow p (.move (.text b.id) position)).canvas =
          (run p actions).modifyBlock b.id fun _ ↦
            { b with parent := parent, position := place' }) ∧
      ((∀ a ∈ actions, ¬ a.Interrupted p) → ∀ spot, (run p actions).At place b.parent spot →
        (b.parent = none ∧ spot = place) ∨
          ∃ k ∈ (run p actions).blocks, b.parent = some k.id ∧ p.isContainer k.type = true ∧
            place.plus k.position = .ok spot) := by
  have hids : ((run p actions).blocks.map Block.id).Nodup := (consistent_of_run h).blockIds
  have hfound : (run p actions).block? b.id = some b := (block?_eq_some_iff hids).2 ⟨hb, rfl⟩
  rw [follow_move_eq hfound] at hreply ⊢
  obtain ⟨changed, hchanged, rfl⟩ := map_eq_ok_iff.1 hreply
  obtain ⟨place, hplace, hcontainer, hplain⟩ :=
    moveBlock_settles hids (hung_of_run h) hfound hchanged
  refine ⟨place, hplace, fun htype ↦ ?_, fun htype ↦ ?_, fun hcalm spot hat ↦ ?_⟩
  · obtain ⟨rfl, hcanvas⟩ := hcontainer htype
    exact ⟨rfl, hcanvas⟩
  · obtain ⟨spot, parent, place', hat, hsettles, rfl, hcanvas⟩ := hplain htype
    exact ⟨spot, parent, place', hat, hsettles, rfl, hcanvas⟩
  · exact hat.of_nested hids (sound_of_calm h hcalm).nested hb

/-- A block is dragged out of the first of two containers that overlap, to where only the second
is. -/
theorem drag_settles_in_second_container :
    let p := Palette.bundled
    let point : Int → Int → Value := fun x y ↦ .object [("x", .int x), ("y", .int y)]
    let made : Int → Action := fun x ↦
      .follow (.create { type := .text "function-definition", position := point x 0 })
    let actions : List Action :=
      [made 0, made 300, .follow (.drop { type := .text "debug", position := point 350 10 })]
    let c := run p actions
    let o := c.follow p (.move (.text "node_2") (point 500 20))
    (∀ a ∈ actions, a.Checked) ∧ o.result = .ok (.changed true) ∧
      ∃ b ∈ c.blocks, b.id = "node_2" ∧ b.parent = some "node_0" ∧ ∃ spot parent place',
        c.At (.ofFloats 500 20) b.parent spot ∧
        Settles p c b (.ofFloats 500 20) spot parent place' ∧
        o.canvas = (c.modifyBlock b.id fun _ ↦ { b with parent := parent, position := place' }) ∧
        (o.canvas.block? "node_2").map (fun b ↦ (b.parent, b.position)) =
          some (some "node_1", .ofFloats 200 20) := by
  intro p point made actions c o
  have hchecked : ∀ a ∈ actions, a.Checked := by simp [actions, made, Action.Checked]
  have hdone : o.result = .ok (.changed true) := by decide +kernel
  obtain ⟨b, hb, hid, hinside, hplain⟩ : ∃ b ∈ c.blocks, b.id = "node_2" ∧
      b.parent = some "node_0" ∧ p.isContainer b.type = false := by decide +kernel
  obtain ⟨place, hplace, -, hsettles, -⟩ := drag_settles hchecked hb (by rw [hid]; exact hdone)
  have hread : Point.ofValue (point 500 20) = .ok (.ofFloats 500 20) := by decide +kernel
  obtain rfl : place = .ofFloats 500 20 := Except.ok.inj (hplace.symm.trans hread)
  obtain ⟨spot, parent, place', hat, hends, -, hcanvas⟩ := hsettles hplain
  rw [hid] at hcanvas
  exact ⟨hchecked, hdone, b, hb, hid, hinside, spot, parent, place', hat, hends,
    by rw [hid]; exact hcanvas, by decide +kernel⟩

end Canvas

/-! ### Parents that have parents -/

/-- A container with a block inside, and another container. -/
def Canvas.twoContainers : List Block := [
  { id := "node_0", type := "function-definition" },
  { id := "node_5", type := "debug", parent := some "node_0" },
  { id := "node_6", type := "function-definition", position := .ofFloats 1000 1000 }]

theorem Canvas.run_twoContainers :
    run .bundled [.openDocument (.ok (.interrupting twoContainers []))] =
      { empty with
        blocks := (Drawing.interrupting twoContainers []).blocks
        wires := []
        created := some "then" } := by
  have hnested : Nested .bundled twoContainers := by
    refine ⟨?_, ?_⟩
    · simpa [twoContainers] using
        (by decide : Palette.bundled.isContainer "function-definition" = true)
    · simpa [twoContainers] using (by decide : Palette.bundled.isContainer "debug" = false)
  exact run_interrupting twoContainers [] (by decide) (by simp)
    ⟨by decide, by decide, by simp, by decide +kernel, by simp⟩ hnested (by decide)

/-- **A drag through two parents.** After the interrupted load a block is dropped into the second
container. It takes the id of the first, so the block inside that one now has a parent that has a
parent. Dragging it to the corner of its frame puts it into the second container, though no
container covers the sum of the place and that of its parent. -/
theorem Canvas.dragged_through_two_parents :
    let p := Palette.bundled
    let point : Int → Int → Value := fun x y ↦ .object [("x", .int x), ("y", .int y)]
    let actions : List Action := [.openDocument (.ok (.interrupting twoContainers [])),
      .follow (.drop { type := .text "debug", position := point 1010 1010 })]
    let c := run p actions
    (∀ a ∈ actions, a.Checked) ∧
      (c.block? "node_5").map (fun b ↦ (b.type, b.parent)) = some ("debug", some "node_0") ∧
      (c.block? "node_0").map (fun b ↦ (b.position, b.parent)) =
        some (.ofFloats 10 10, some "node_6") ∧
      Point.plus (.ofFloats 0 0) (.ofFloats 10 10) = .ok (.ofFloats 10 10) ∧
      firstOver p (.ofFloats 10 10) c.blocks = none ∧
      (c.follow p (.move (.text "node_5") (point 0 0))).result = .ok (.changed true) ∧
      ((c.follow p (.move (.text "node_5") (point 0 0))).canvas.block? "node_5").map
        (fun b ↦ (b.position, b.parent)) = some (.ofFloats 10 10, some "node_6") := by
  intro p point actions c
  have hrun : c = ((Action.follow (.drop
      { type := .text "debug", position := point 1010 1010 })).effect p
      { empty with
        blocks := (Drawing.interrupting twoContainers []).blocks
        wires := []
        created := some "then" }).canvas := by
    rw [← run_twoContainers]
    exact run_concat p [.openDocument (.ok (.interrupting twoContainers []))] _
  refine ⟨by simp [actions, Action.Checked], ?_, ?_, by decide +kernel, ?_, ?_, ?_⟩
  all_goals
    rw [hrun]
    decide +kernel

end FlowCanvas
