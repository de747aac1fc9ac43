import FlowCanvas.Proofs.Drag
import FlowCanvas.Proofs.Sizes

/-!
# Resolving the parent of a block twice

Resolving brings the parent of a block in line with where the block is. The second time there should
be nothing left to do, but it starts from another picture of the same spot: the block has a new
parent and a place in the frame of that parent.

A block that has left all containers is at the spot itself. A block that has entered one is where
the place in its frame and the corner of the container add up to, which **may be another spot**,
since sums and differences of floats are rounded. If the spot comes back from the frame
(`Point.Returns`), the sum is the same point, though maybe not the same values: an integer may have
become a float, and zero its sign. Boxes do not tell such points apart (`Block.holds_of_same`), so
the search finds the container it found before, and `resolve_twice` follows.
-/

namespace FlowCanvas

open Checks

/-! ### Points that are the same -/

/-- The coordinates of a point are numbers. -/
def Point.IsNumeric (q : Point) : Prop := q.x.isNumeric = true ∧ q.y.isNumeric = true

/-- **A spot comes back from the frame of a container**: seen from the corner of the container and
put on the canvas again, it is the same point. -/
def Point.Returns (spot corner : Point) : Prop :=
  ∃ place ∈ (spot.minus corner).toOption, ∃ back ∈ (place.plus corner).toOption,
    spot.same back = true

instance (spot corner : Point) : Decidable (spot.Returns corner) :=
  inferInstanceAs (Decidable (∃ place ∈ (spot.minus corner).toOption,
    ∃ back ∈ (place.plus corner).toOption, spot.same back = true))

variable {p : Palette} {spot back : Point}

theorem Point.Returns.exists_back {corner place : Point} (h : spot.Returns corner)
    (hplace : spot.minus corner = .ok place) :
    ∃ back, place.plus corner = .ok back ∧ spot.same back = true := by
  obtain ⟨place', hplace', back, hback, hsame⟩ := h
  obtain rfl : place' = place := Except.ok.inj ((toOption_eq_some_iff.1 hplace').symm.trans hplace)
  exact ⟨back, toOption_eq_some_iff.1 hback, hsame⟩

theorem Box.spans_of_same {v w : Value} (hv : v.isNumeric = true) (h : v.same w = true)
    (start : Value) (length : Float) : Box.spans start length v = Box.spans start length w := by
  unfold Box.spans
  rw [(Value.compare_of_same hv h start).1]
  rcases Value.plus start (.float length) with why | stop
  · rfl
  · simp only [bind, Except.bind, (Value.compare_of_same hv h stop).2]

/-- **A box holds a point if it holds one that is the same.** -/
theorem Block.holds_of_same (hspot : spot.IsNumeric) (h : spot.same back = true) (k : Block) :
    k.holds spot = k.holds back := by
  rw [Point.same, Bool.and_eq_true] at h
  have hcontains : ∀ box : Box, box.contains spot = box.contains back := by
    intro box
    rw [Box.contains, Box.contains, Box.spans_of_same hspot.1 h.1, Box.spans_of_same hspot.2 h.2]
  simp only [Block.holds, hcontains]

theorem firstHolding_of_same (hspot : spot.IsNumeric) (h : spot.same back = true)
    (exclude : Option String) (blocks : List Block) :
    firstHolding p spot exclude blocks = firstHolding p back exclude blocks := by
  induction blocks with
  | nil => rfl
  | cons k rest ih => rw [firstHolding, firstHolding, ih, Block.holds_of_same hspot h]

/-- The box that is found holds the point. -/
theorem holds_of_firstHolding {exclude : Option String} {blocks : List Block} {k : Block}
    (h : firstHolding p spot exclude blocks = .ok (some k)) : k.holds spot = .ok true := by
  induction blocks with
  | nil => exact absurd h (by simp [firstHolding])
  | cons b rest ih =>
    rw [firstHolding] at h
    split at h
    · exact ih h
    · rcases hholds : b.holds spot with fault | - | -
      · exact absurd h (by simp [hholds])
      · exact ih (by simpa [hholds] using h)
      · obtain rfl : b = k := by simpa [hholds] using h
        exact hholds

/-- What a block covers has numbers for coordinates. -/
theorem Block.Covers.isNumeric {k : Block} (h : k.Covers spot) : spot.IsNumeric := by
  obtain ⟨-, -, -, -, ⟨-, stop, -, hx⟩, -, stop', -, hy⟩ := h
  exact ⟨Value.isNumeric_of_less (toOption_eq_some_iff.1 hx),
    Value.isNumeric_of_less (toOption_eq_some_iff.1 hy)⟩

namespace Canvas

variable {c : Canvas} {id : String} {b : Block}

/-! ### Resolving forwards -/

theorem resolve_of_container (hb : c.block? id = some b)
    (hcontainer : p.isContainer b.type = true) :
    c.resolve p id = .ok c false := by
  rw [resolve, block_eq_ok_iff.2 hb]
  exact if_pos hcontainer

/-- A block whose parent is the container under it stays as it is. -/
theorem resolve_of_parent (hb : c.block? id = some b) (hplain : p.isContainer b.type = false)
    (hspot : c.absolute id = .ok spot) {found : Option Block}
    (hfound : c.containerAt p spot (some id) = .ok found)
    (hparent : b.parent = found.map Block.id) : c.resolve p id = .ok c false := by
  rw [resolve, block_eq_ok_iff.2 hb, hspot]
  simp only [Outcome.given, hplain, Bool.false_eq_true, if_false, hfound]
  rcases found with - | k
  · simp [hparent]
  · simp [hparent]

/-- The place on the canvas of a block inside a container that stands on the canvas itself. -/
theorem absolute_of_inside {k : Block} (hb : c.block? id = some b) (hk : c.block? k.id = some k)
    (hparent : b.parent = some k.id) (hne : k.id ≠ id) (htop : k.parent = none) :
    c.absolute id = b.position.plus k.position := by
  have hunseen : [id].contains k.id = false := by simpa using hne
  simp only [absolute, hb, hparent, sumParents, hunseen, hk, htop, Bool.false_eq_true, if_false]
  rcases b.position.plus k.position with fault | sum <;> rfl

/-! ### After the block has got its parent -/

/-- The canvas on which a block has another parent and another place. -/
def putUnder (c : Canvas) (id : String) (parent : Option String) (place : Point) : Canvas :=
  c.modifyBlock id fun b ↦ { b with parent := parent, position := place }

section PutUnder

variable (parent : Option String) (place : Point)

theorem block?_putUnder (c : Canvas) (id k : String) :
    (c.putUnder id parent place).block? k = (c.block? k).map fun b ↦
      if b.id = id then { b with parent := parent, position := place } else b :=
  block?_modifyBlock (f := fun b ↦ { b with parent := parent, position := place }) (fun _ ↦ rfl) k

theorem block?_putUnder_self (hb : c.block? id = some b) :
    (c.putUnder id parent place).block? id =
      some { b with parent := parent, position := place } := by
  rw [block?_putUnder, hb, Option.map_some, if_pos (mem_of_block? hb).2]

theorem block?_putUnder_of_ne {k : String} (hne : k ≠ id) :
    (c.putUnder id parent place).block? k = c.block? k := by
  rw [block?_putUnder]
  rcases hk : c.block? k with - | b
  · rfl
  · obtain ⟨-, rfl⟩ := mem_of_block? hk
    rw [Option.map_some, if_neg hne]

theorem plain_of_block? (hids : (c.blocks.map Block.id).Nodup) (hb : c.block? id = some b)
    (hplain : p.isContainer b.type = false) {k : Block} (hk : k ∈ c.blocks) (hid : k.id = id) :
    p.isContainer k.type = false := by
  obtain rfl : k = b := Option.some.inj (((block?_eq_some_iff hids).2 ⟨hk, hid⟩).symm.trans hb)
  exact hplain

/-- The container under a point is found as before: the block itself is left out of the search. -/
theorem containerAt_putUnder (hids : (c.blocks.map Block.id).Nodup) (hh : Hung p c.blocks)
    (hb : c.block? id = some b) (hplain : p.isContainer b.type = false) (point : Point) :
    (c.putUnder id parent place).containerAt p point (some id) =
      firstHolding p point (some id) c.blocks := by
  have hkept : Kept c (c.putUnder id parent place) := kept_modifyBlock c id fun _ ↦ rfl
  have htop : ∀ k ∈ (c.putUnder id parent place).blocks, p.isContainer k.type = true →
      k.parent = none := by
    intro k hk hcontainer
    obtain ⟨k₀, hk₀, rfl⟩ := List.mem_map.1 hk
    split at hcontainer
    · next hid =>
      exact absurd ((plain_of_block? hids hb hplain hk₀ hid).symm.trans hcontainer) (by simp)
    · next hid =>
      rw [if_neg hid]
      exact hh.containers k₀ hk₀ hcontainer
  rw [containerAt_eq (hkept.blockIds ▸ hids) htop]
  exact firstHolding_modify p point id (f := fun b ↦ { b with parent := parent, position := place })
    (fun _ ↦ rfl) c.blocks

/-- A block that was put under a container is where its place and the corner of the container add up
to. -/
theorem absolute_putUnder {k : Block} (hb : c.block? id = some b) (hk : c.block? k.id = some k)
    (hne : k.id ≠ id) (htop : k.parent = none) :
    (c.putUnder id (some k.id) place).absolute id = place.plus k.position :=
  absolute_of_inside (block?_putUnder_self (some k.id) place hb)
    ((block?_putUnder_of_ne (some k.id) place hne).trans hk) rfl hne htop

end PutUnder

/-! ### What resolving comes to -/

/-- **What resolving the parent of a block comes to**, on a canvas that blocks hang from. The
container under the block is the first over its spot. -/
theorem resolve_inv (hids : (c.blocks.map Block.id).Nodup) (hh : Hung p c.blocks)
    (hb : c.block? id = some b) (hplain : p.isContainer b.type = false) {changed : Bool}
    (h : (c.resolve p id).result = .ok changed) :
    ∃ spot found, c.absolute id = .ok spot ∧
      firstHolding p spot (some id) c.blocks = .ok found ∧ found = firstOver p spot c.blocks ∧
      (b.parent = found.map Block.id ∧ c.resolve p id = .ok c false ∨
        b.parent ≠ found.map Block.id ∧
          ∃ place, c.placeUnder id (found.map Block.id) .null = .ok place ∧
            c.resolve p id = ⟨.ok true, c.putUnder id (found.map Block.id) place,
              [.blockReparented id (found.map Block.id) b.parent place]⟩) := by
  obtain ⟨b₀, hb₀, ⟨hcontainer, -⟩ | ⟨-, spot, found, hspot, hfound, hcases⟩⟩ := resolve_eq_ok h
  · obtain rfl : b₀ = b := Option.some.inj (hb₀.symm.trans hb)
    exact absurd (hplain.symm.trans hcontainer) (by simp)
  obtain rfl : b₀ = b := Option.some.inj (hb₀.symm.trans hb)
  rw [containerAt_eq hids hh.containers] at hfound
  have hover : found = firstOver p spot c.blocks :=
    firstHolding_eq_ok hfound fun k hk hid ↦
      plain_of_block? hids hb hplain hk (Option.some.inj hid).symm
  refine ⟨spot, found, hspot, hfound, hover, ?_⟩
  obtain ⟨hsame, hdone⟩ | ⟨hother, hok, hdone⟩ := hcases
  · exact .inl ⟨hsame, hdone⟩
  · obtain ⟨b₁, place, hb₁, -, hplace, hreparent⟩ := reparent_eq_ok hok
    obtain rfl : b₁ = b₀ := Option.some.inj (hb₁.symm.trans hb)
    rw [hdone, hreparent]
    exact .inr ⟨hother, place, hplace, rfl⟩

/-- **Resolving again, after the block has got a parent**, where the spot comes back from the frame
of that parent. -/
theorem resolve_putUnder (hids : (c.blocks.map Block.id).Nodup) (hh : Hung p c.blocks)
    (hb : c.block? id = some b) (hplain : p.isContainer b.type = false) {found : Option Block}
    (hfound : firstHolding p spot (some id) c.blocks = .ok found) {place : Point}
    (hplace : c.placeUnder id (found.map Block.id) .null = .ok place)
    (hspot : c.absolute id = .ok spot)
    (hexact : ∀ k, found = some k → spot.Returns k.position) :
    (c.putUnder id (found.map Block.id) place).resolve p id =
      .ok (c.putUnder id (found.map Block.id) place) false := by
  have hself := block?_putUnder_self (found.map Block.id) place hb
  have hsearch := containerAt_putUnder (found.map Block.id) place hids hh hb hplain
  have hnull : Value.null.isNull = true := rfl
  rw [placeUnder, if_pos hnull, hspot] at hplace
  rcases found with - | k
  · obtain rfl : spot = place := Except.ok.inj hplace
    exact resolve_of_parent hself hplain (absolute_of_top hself rfl)
      ((hsearch spot).trans hfound) rfl
  · rw [Option.map_some] at hself hsearch ⊢
    obtain ⟨hk, hcontainer, hne⟩ := mem_of_firstHolding hfound
    have hkid : k.id ≠ id := fun heq ↦ hne (congrArg some heq.symm)
    have hktop : k.parent = none := hh.containers k hk hcontainer
    have hkfound : c.block? k.id = some k := (block?_eq_some_iff hids).2 ⟨hk, rfl⟩
    have hseen : c.toRelative spot k.id = .ok place := hplace
    rw [toRelative, absolute_of_top hkfound hktop] at hseen
    obtain ⟨back, hback, hsame⟩ := (hexact k rfl).exists_back hseen
    have hspot' : (c.putUnder id (some k.id) place).absolute id = .ok back :=
      (absolute_putUnder place hb hkfound hkid hktop).trans hback
    -- The box that held the spot holds the point that came back.
    have hcovers : k.Covers spot := Block.holds_eq_true_iff.1 (holds_of_firstHolding hfound)
    have hagain : firstHolding p back (some id) c.blocks = .ok (some k) := by
      rw [← firstHolding_of_same hcovers.isNumeric hsame]
      exact hfound
    exact resolve_of_parent hself hplain hspot' ((hsearch back).trans hagain) rfl

/-- **Resolving a second time does nothing**, where the spot of the block comes back from the frame
of the container that it enters. -/
theorem resolve_resolve (hids : (c.blocks.map Block.id).Nodup) (hh : Hung p c.blocks)
    (hb : c.block? id = some b) {changed : Bool} (h : (c.resolve p id).result = .ok changed)
    (hexact : ∀ spot k, c.absolute id = .ok spot → firstOver p spot c.blocks = some k →
      b.parent ≠ some k.id → spot.Returns k.position) :
    (c.resolve p id).canvas.resolve p id = .ok (c.resolve p id).canvas false := by
  -- Where nothing happens the first time, the second time is the first one again.
  have hidle : c.resolve p id = .ok c false →
      (c.resolve p id).canvas.resolve p id = .ok (c.resolve p id).canvas false := by
    intro hdone
    rw [hdone]
    exact hdone
  by_cases hcontainer : p.isContainer b.type = true
  · exact hidle (resolve_of_container hb hcontainer)
  have hplain : p.isContainer b.type = false := by simpa using hcontainer
  obtain ⟨spot, found, hspot, hfound, hover, ⟨-, hdone⟩ | ⟨hother, place, hplace, hdone⟩⟩ :=
    resolve_inv hids hh hb hplain h
  · exact hidle hdone
  · rw [hdone]
    refine resolve_putUnder hids hh hb hplain hfound hplace hspot fun k hk ↦ ?_
    subst hk
    exact hexact spot k hspot hover.symm hother

/-- The parent that resolving leaves is the first container over the spot. -/
theorem parent_of_resolve (hids : (c.blocks.map Block.id).Nodup) (hh : Hung p c.blocks)
    (hb : c.block? id = some b) (hplain : p.isContainer b.type = false) {changed : Bool}
    (h : (c.resolve p id).result = .ok changed) :
    ∃ spot, c.absolute id = .ok spot ∧
      ((c.resolve p id).canvas.block? id).map Block.parent =
        some ((firstOver p spot c.blocks).map Block.id) := by
  obtain ⟨spot, found, hspot, -, rfl, ⟨hsame, hdone⟩ | ⟨-, place, -, hdone⟩⟩ :=
    resolve_inv hids hh hb hplain h
  · refine ⟨spot, hspot, ?_⟩
    rw [hdone, ← hsame]
    exact congrArg (Option.map Block.parent) hb
  · refine ⟨spot, hspot, ?_⟩
    rw [hdone, block?_putUnder_self _ _ hb, Option.map_some]

/-! ### Runs -/

/-- **Resolving is idempotent.** After any run of actions that loads documents only, on any palette,
let the parent of a block be resolved.

* A container is left as it is, and any other block has the first container over its spot for a
  parent then, or none.
* If the spot comes back from the frame of the container that the block enters, resolving again
  answers that nothing has changed, leaves the whole canvas as it is and fires nothing. A block that
  stays or leaves asks nothing of its spot. -/
theorem resolve_twice {actions : List Action} (h : ∀ a ∈ actions, a.Checked)
    (hb : b ∈ (run p actions).blocks) {reply : Reply}
    (hreply : ((run p actions).follow p (.resolve (.text b.id))).result = .ok reply) :
    let c := run p actions
    let after := (c.follow p (.resolve (.text b.id))).canvas
    (p.isContainer b.type = true → after = c) ∧
    (p.isContainer b.type = false → ∃ spot, c.absolute b.id = .ok spot ∧
      (after.block? b.id).map Block.parent = some ((firstOver p spot c.blocks).map Block.id)) ∧
    ((∀ spot k, c.absolute b.id = .ok spot → firstOver p spot c.blocks = some k →
        b.parent ≠ some k.id → spot.Returns k.position) →
      after.follow p (.resolve (.text b.id)) = .ok after (.changed false)) := by
  intro c after
  have hids : (c.blocks.map Block.id).Nodup := (consistent_of_run h).blockIds
  have hh : Hung p c.blocks := hung_of_run h
  have hfound : c.block? b.id = some b := (block?_eq_some_iff hids).2 ⟨hb, rfl⟩
  have hafter : after = (c.resolve p b.id).canvas := by
    show (c.follow p (.resolve (.text b.id))).canvas = _
    rw [follow_resolve_eq hfound]
    rfl
  rw [follow_resolve_eq hfound] at hreply
  obtain ⟨changed, hchanged, -⟩ := map_eq_ok_iff.1 hreply
  obtain ⟨b', hb', -⟩ := (resolve_traced (s := .anything).mono And.left).kept.block? hfound
  refine ⟨fun hcontainer ↦ ?_, fun hplain ↦ ?_, fun hexact ↦ ?_⟩
  · rw [hafter, resolve_of_container hfound hcontainer]
    rfl
  · rw [hafter]
    exact parent_of_resolve hids hh hfound hplain hchanged
  · rw [hafter, follow_resolve_eq hb', resolve_resolve hids hh hfound hchanged hexact]
    rfl

/-- A block that was made over the first of two containers that overlap, at a live point of
integers, enters it and stays. Its place is one of floats then. -/
theorem resolve_twice_over_two_containers :
    let p := Palette.bundled
    let made : Int → Action := fun x ↦ .follow (.create
      { type := .text "function-definition", position := .object [("x", .int x), ("y", .int 0)] })
    let actions : List Action := [made 0, made 300,
      .follow (.create { type := .text "debug", position := .point (.int 350) (.int 10) })]
    let c := run p actions
    let after := (c.follow p (.resolve (.text "node_2"))).canvas
    (∀ a ∈ actions, a.Checked) ∧
      (c.block? "node_2").map (fun b ↦ (b.parent, b.position)) = some (none, ⟨.int 350, .int 10⟩) ∧
      (c.follow p (.resolve (.text "node_2"))).result = .ok (.changed true) ∧
      (after.block? "node_2").map (fun b ↦ (b.parent, b.position)) =
        some (some "node_0", .ofFloats 350 10) ∧
      after.follow p (.resolve (.text "node_2")) = .ok after (.changed false) := by
  intro p made actions c after
  have hchecked : ∀ a ∈ actions, a.Checked := by simp [actions, made, Action.Checked]
  have hdone : (c.follow p (.resolve (.text "node_2"))).result = .ok (.changed true) := by
    decide +kernel
  obtain ⟨b, hb, hid⟩ : ∃ b ∈ c.blocks, b.id = "node_2" := by decide +kernel
  have hspot : c.absolute "node_2" = .ok ⟨.int 350, .int 10⟩ := by decide +kernel
  have hreturns : ∀ k ∈ firstOver p ⟨.int 350, .int 10⟩ c.blocks,
      (⟨.int 350, .int 10⟩ : Point).Returns k.position := by decide +kernel
  obtain ⟨-, -, hagain⟩ := resolve_twice hchecked hb (by rw [hid]; exact hdone)
  rw [hid] at hagain
  refine ⟨hchecked, by decide +kernel, hdone, by decide +kernel, hagain fun spot k hat hover _ ↦ ?_⟩
  obtain rfl : spot = ⟨.int 350, .int 10⟩ := Except.ok.inj (hat.symm.trans hspot)
  exact hreturns k hover

end Canvas

end FlowCanvas
