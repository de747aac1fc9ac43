import FlowCanvas.Proofs.AllOrNothing
import FlowCanvas.Proofs.Fitting

/-!
# The boxes of containers

Where the types of containers declare their sides as numbers, a side is a number, after every run:
whatever else is asked for is refused or brought to the form of a number. One thing is left that can
go wrong. **An integer may be beyond the range of floats**, and nothing checks for that before the
box is needed. A container with such a side is *oversized*.

So a container has a box exactly if it is not oversized, and a block can be moved, or dropped,
unless the search for the container under it comes to an oversized one (`boxes_of_run`). This holds
after every run of actions from outside. No rule is needed about nesting: that blocks hang from the
canvas is enough for places to be found (`Hung`).

`Measured` collects what is needed of a canvas. Every step keeps it, so it holds before and after
the block is moved or made, and the same lemma about resolving serves both operations.
-/

namespace FlowCanvas

open Checks

/-- An integer that no float comes near. -/
def Value.isHuge : Value → Bool
  | .int n => (Number.floatOfInt? n).isNone
  | _ => false

/-- **A side of the block is stated as an integer beyond the range of floats.** -/
def Block.Oversized (b : Block) : Prop :=
  ∃ side ∈ ["width", "height"], ∃ v ∈ Fields.get? b.properties side, v.isHuge = true

instance (b : Block) : Decidable b.Oversized :=
  inferInstanceAs (Decidable (∃ side ∈ ["width", "height"], ∃ v ∈ Fields.get? b.properties side,
    v.isHuge = true))

/-- The types of containers declare both sides as numbers. -/
def Palette.Sized (p : Palette) : Prop :=
  ∀ t ∈ p.types, t.container = true → ∀ side ∈ ["width", "height"],
    ∃ spec ∈ t.propertyNamed? (.text side), spec.kind = .number

theorem Palette.bundled_sized : bundled.Sized := by
  rw [Sized]
  decide

/-! ### Sides -/

/-- A number is read as a float unless it is huge. -/
theorem Value.toFloat_of_isForm {v : Value} (h : Kind.number.IsForm v) :
    if v.isHuge then v.toFloat = .error .tooLarge else ∃ x, v.toFloat = .ok x := by
  rcases h with ⟨n, rfl⟩ | ⟨x, rfl⟩
  · rw [isHuge, toFloat]
    rcases Number.floatOfInt? n with - | x
    · rfl
    · exact ⟨x, rfl⟩
  · exact ⟨x, rfl⟩

namespace Block

/-- A side of a block, or what it is where none is stated. -/
def side (b : Block) (name : String) (default : Int) : Value :=
  (Fields.get? b.properties name).getD (.int default)

/-- The sides of a block that are stated are numbers. -/
def Numeric (b : Block) : Prop :=
  ∀ side ∈ ["width", "height"], ∀ v ∈ Fields.get? b.properties side, Kind.number.IsForm v

variable {b : Block}

theorem Numeric.isForm_side (h : b.Numeric) (name : String) (hname : name ∈ ["width", "height"])
    (default : Int) : Kind.number.IsForm (b.side name default) := by
  rw [side]
  rcases hget : Fields.get? b.properties name with - | v
  · exact .inl ⟨default, rfl⟩
  · exact h name hname v hget

/-- The sides that are used where none is stated are not huge. -/
theorem oversized_iff : b.Oversized ↔ (b.side "width" Canvas.defaultWidth).isHuge = true ∨
    (b.side "height" Canvas.defaultHeight).isHuge = true := by
  have hside : ∀ (name : String) (default : Int), (Value.int default).isHuge = false →
      ((∃ v ∈ Fields.get? b.properties name, v.isHuge = true) ↔
        (b.side name default).isHuge = true) := by
    intro name default hdefault
    rw [side]
    rcases Fields.get? b.properties name with - | v
    · simp [hdefault]
    · simp
  simp only [Oversized, List.mem_cons, List.not_mem_nil, or_false, exists_eq_or_imp, exists_eq_left,
    hside "width" Canvas.defaultWidth (by decide +kernel),
    hside "height" Canvas.defaultHeight (by decide +kernel)]

end Block

namespace Canvas

variable {p : Palette} {c : Canvas} {id : String} {b : Block}

/-- **The sides of a container that are numbers are read as floats**, unless one of them is huge. -/
theorem sidesOf_eq (h : b.Numeric) :
    if b.Oversized then
      sidesOf b.id (b.side "width" defaultWidth) (b.side "height" defaultHeight) =
        .error (.oversized b.id)
    else ∃ w h, (b.side "width" defaultWidth).toFloat = .ok w ∧
      (b.side "height" defaultHeight).toFloat = .ok h ∧
      sidesOf b.id (b.side "width" defaultWidth) (b.side "height" defaultHeight) = .ok (w, h) := by
  have hwidth := Value.toFloat_of_isForm
    (h.isForm_side "width" (by simp) defaultWidth)
  have hheight := Value.toFloat_of_isForm
    (h.isForm_side "height" (by simp) defaultHeight)
  simp only [Block.oversized_iff]
  generalize b.side "width" defaultWidth = width at hwidth ⊢
  generalize b.side "height" defaultHeight = height at hheight ⊢
  unfold sidesOf
  split at hwidth
  · next hhuge => simp [hhuge, hwidth]
  · next hwide =>
    obtain ⟨w, hw⟩ := hwidth
    split at hheight
    · next hhuge => simp [hhuge, hw, hheight]
    · next hhigh =>
      obtain ⟨h, hh⟩ := hheight
      simp [hwide, hhigh, hw, hh]

/-- **A container on the canvas itself has a box** at its place, with its sides as floats, unless it
is oversized. -/
theorem boxOf_eq (hb : c.block? b.id = some b) (htop : b.parent = none) (h : b.Numeric) :
    if b.Oversized then c.boxOf b.id = .error (.oversized b.id)
    else ∃ w h, (b.side "width" defaultWidth).toFloat = .ok w ∧
      (b.side "height" defaultHeight).toFloat = .ok h ∧ c.boxOf b.id = .ok ⟨b.position, w, h⟩ := by
  have hblock : c.block b.id = .ok b := block_eq_ok_iff.2 hb
  have hbox : c.boxOf b.id =
      (sidesOf b.id (b.side "width" defaultWidth) (b.side "height" defaultHeight)).bind
        fun sides ↦ .ok ⟨b.position, sides.1, sides.2⟩ := by
    rw [boxOf, hblock, absolute_of_top hb htop]
    rfl
  have hsides := sidesOf_eq h
  rw [hbox]
  split at hsides
  · next hover =>
    rw [if_pos hover, hsides]
    rfl
  · next hover =>
    obtain ⟨w, h, hw, hh, hsides⟩ := hsides
    rw [if_neg hover, hsides]
    exact ⟨w, h, hw, hh, rfl⟩

end Canvas

/-! ### What only an oversized container can prevent -/

/-- **A result that nothing but an oversized container can prevent**, one of some blocks. -/
def Clear {α : Type} (p : Palette) (blocks : List Block) (r : Except Fault α) : Prop :=
  (∃ a, r = .ok a) ∨ ∃ k ∈ blocks, p.isContainer k.type = true ∧ k.Oversized ∧
    r = .error (.oversized k.id)

namespace Clear

variable {α β : Type} {p : Palette} {blocks blocks' : List Block} {c : Canvas}

theorem ok (a : α) : Clear p blocks (.ok a : Except Fault α) :=
  .inl ⟨a, rfl⟩

theorem mono {r : Except Fault α} (h : Clear p blocks r) (hsub : blocks ⊆ blocks') :
    Clear p blocks' r := by
  rcases h with h | ⟨k, hk, hstopped⟩
  · exact .inl h
  · exact .inr ⟨k, hsub hk, hstopped⟩

theorem map {r : Except Fault α} (f : α → β) (h : Clear p blocks r) : Clear p blocks (r.map f) := by
  rcases h with ⟨a, rfl⟩ | ⟨k, hk, hcontainer, hover, rfl⟩
  · exact .ok (f a)
  · exact .inr ⟨k, hk, hcontainer, hover, rfl⟩

theorem bind {r : Except Fault α} {f : α → Except Fault β} (h : Clear p blocks r)
    (hf : ∀ a, r = .ok a → Clear p blocks (f a)) : Clear p blocks (r.bind f) := by
  rcases h with ⟨a, rfl⟩ | ⟨k, hk, hcontainer, hover, rfl⟩
  · exact hf a rfl
  · exact .inr ⟨k, hk, hcontainer, hover, rfl⟩

/-- Going on from a check. -/
theorem given {check : Except Fault α} {f : α → Outcome β} (hcheck : Clear p blocks check)
    (hf : ∀ a, check = .ok a → Clear p blocks (f a).result) :
    Clear p blocks (Outcome.given c check f).result := by
  rcases hcheck with ⟨a, rfl⟩ | ⟨k, hk, hcontainer, hover, rfl⟩
  · exact hf a rfl
  · exact .inr ⟨k, hk, hcontainer, hover, rfl⟩

theorem andThen {o : Outcome α} {f : α → Canvas → Outcome β} (h : Clear p blocks o.result)
    (hf : ∀ a, Clear p blocks (f a o.canvas).result) : Clear p blocks (o.andThen f).result := by
  unfold Outcome.andThen
  rcases h with ⟨a, ha⟩ | ⟨k, hk, hcontainer, hover, hfault⟩
  · rw [ha]
    exact hf a
  · rw [hfault]
    exact .inr ⟨k, hk, hcontainer, hover, rfl⟩

end Clear

/-- Whether a box of floats holds a point of floats is known, unless the box does not exist. -/
theorem Block.holds_cases {b : Block} {point : Point} (h : b.Numeric) (hplace : b.position.IsFloat)
    (hpoint : point.IsFloat) :
    (∃ inside, b.holds point = .ok inside) ∨
      b.Oversized ∧ b.holds point = .error (.oversized b.id) := by
  obtain ⟨x, y, hxy⟩ := hplace
  obtain ⟨a, d, rfl⟩ := hpoint
  have hholds : b.holds (.ofFloats a d) =
      (Canvas.sidesOf b.id (b.side "width" Canvas.defaultWidth)
        (b.side "height" Canvas.defaultHeight)).bind fun sides ↦
          (Box.contains ⟨.ofFloats x y, sides.1, sides.2⟩ (.ofFloats a d)).mapError fun why ↦
            .badPoint (.coordinate why) := by
    rw [← hxy]
    rfl
  have hsides := Canvas.sidesOf_eq h
  split at hsides
  · next hover =>
    refine .inr ⟨hover, ?_⟩
    rw [hholds, hsides]
    rfl
  · obtain ⟨w, h, -, -, hsides⟩ := hsides
    rw [hholds, hsides, Except.bind, Box.contains_ofFloats]
    exact .inl ⟨_, rfl⟩

/-- **The search for a container comes to an end**, or to an oversized container that is not left
out. -/
theorem firstHolding_clear {p : Palette} {point : Point} (hpoint : point.IsFloat)
    (exclude : Option String) {blocks : List Block}
    (h : ∀ b ∈ blocks, p.isContainer b.type = true → b.Numeric ∧ b.position.IsFloat) :
    Clear p (blocks.filter fun b ↦ exclude ≠ some b.id) (firstHolding p point exclude blocks) := by
  induction blocks with
  | nil => exact .ok none
  | cons b rest ih =>
    obtain ⟨hb, hrest⟩ := List.forall_mem_cons.1 h
    have hlater : Clear p ((b :: rest).filter fun b ↦ exclude ≠ some b.id)
        (firstHolding p point exclude rest) :=
      (ih hrest).mono ((List.sublist_cons_self b rest).filter _).subset
    rw [firstHolding]
    split
    · exact hlater
    · next hcandidate =>
      simp only [Bool.or_eq_true, decide_eq_true_eq, Bool.not_eq_true', not_or,
        Bool.not_eq_false] at hcandidate
      obtain ⟨hnumeric, hplace⟩ := hb hcandidate.2
      rcases Block.holds_cases hnumeric hplace hpoint with ⟨inside, hinside⟩ | ⟨hover, hfault⟩
      · rw [hinside]
        cases inside with
        | true => exact .ok (some b)
        | false => exact hlater
      · rw [hfault]
        refine .inr ⟨b, List.mem_filter.2 ⟨List.mem_cons_self, ?_⟩, hcandidate.2, hover, rfl⟩
        simpa using hcandidate.1

/-- What may be handed over so that places stay floats. -/
def Supply.floating : Supply := ⟨Value.Floating, fun _ ↦ True⟩

namespace Canvas

variable {p : Palette} {c c' : Canvas} {es : List Event} {id : String} {b : Block} {point : Point}

/-! ### Canvases that can be measured -/

/-- **What it takes to look up containers**: distinct ids, blocks that hang from the canvas, places
that are floats and properties of the declared form. -/
structure Measured (p : Palette) (c : Canvas) : Prop where
  consistent : Consistent p c.blocks c.wires
  hung : Hung p c.blocks
  placed : Placed c.blocks
  fitting : Carries (.found Value) (Fitting p) c.blocks

/-- Only the blocks and the wires of a canvas are measured. -/
theorem Measured.congr (hc : Measured p c) (hblocks : c'.blocks = c.blocks)
    (hwires : c'.wires = c.wires) : Measured p c' where
  consistent := by
    rw [hblocks, hwires]
    exact hc.consistent
  hung := hblocks ▸ hc.hung
  placed := hblocks ▸ hc.placed
  fitting := hblocks ▸ hc.fitting

theorem Step.measured (hp : p.Tidy) (h : Step p .floating c es c') (hc : Measured p c) :
    Measured p c' where
  consistent := h.consistent hc.consistent
  hung := h.hung hc.consistent.blockIds hc.hung
  placed := h.placed (fun _ hv ↦ hv) hc.placed
  fitting := h.carries (upholds_fitting hp fun _ ↦ trivial) hc.consistent.blockIds hc.fitting

theorem Trace.measured (hp : p.Tidy) (h : Trace (Step p .floating) c es c') (hc : Measured p c) :
    Measured p c' :=
  h.invariant (P := Measured p) (fun step hc ↦ step.measured hp hc) hc

/-- What is declared of the sides of a container makes them numbers. -/
theorem Measured.numeric (hp : p.Sized) (hc : Measured p c) (hb : b ∈ c.blocks)
    (hcontainer : p.isContainer b.type = true) : b.Numeric := by
  intro side hside v hv
  obtain ⟨t, ht, hbox⟩ : ∃ t, p.get? b.type = some t ∧ t.container = true := by
    unfold Palette.isContainer at hcontainer
    split at hcontainer
    · next t ht => exact ⟨t, ht, hcontainer⟩
    · exact absurd hcontainer (by simp)
  obtain ⟨spec, hspec, hkind⟩ := hp t (List.mem_of_find?_eq_some ht) hbox side hside
  rw [← hkind]
  refine (hc.fitting b hb).named (side, v) hv side spec rfl ?_
  rw [specFor?_of_get? ht]
  exact hspec

/-- **A container can be looked up under every point**, unless an oversized one is in the way. -/
theorem containerAt_clear (hp : p.Sized) (hc : Measured p c) (hpoint : point.IsFloat)
    (exclude : Option String) :
    Clear p (c.blocks.filter fun b ↦ exclude ≠ some b.id) (c.containerAt p point exclude) := by
  rw [containerAt_eq hc.consistent.blockIds hc.hung.containers]
  exact firstHolding_clear hpoint exclude fun b hb hcontainer ↦
    ⟨hc.numeric hp hb hcontainer, hc.placed b hb⟩

theorem hitTest_clear (hp : p.Sized) (hc : Measured p c) (hpoint : point.IsFloat)
    (exclude : Option String) : Clear p c.blocks (c.hitTest p exclude point) := by
  have hsearch : Clear p c.blocks ((c.containerAt p point exclude).map fun _ ↦ ()) :=
    ((containerAt_clear hp hc hpoint exclude).mono List.filter_sublist.subset).map _
  rcases exclude with - | id
  · exact hsearch
  · unfold hitTest
    dsimp only
    split
    · exact hsearch
    · exact .ok ()

/-- **Resolving the parent of a block comes through**, unless an oversized container is in the way,
which is another block. -/
theorem resolve_clear (hp : p.Sized) (hc : Measured p c) (hb : c.block? id = some b) :
    Clear p (c.blocks.filter fun b ↦ b.id ≠ id) (c.resolve p id).result := by
  obtain ⟨spot, hspot, hfloat⟩ := absolute_isOk hc.hung hc.placed hb
  have hother : (c.blocks.filter fun b ↦ some id ≠ some b.id) ⊆
      c.blocks.filter fun b ↦ b.id ≠ id := by
    intro k hk
    obtain ⟨hmem, hne⟩ := List.mem_filter.1 hk
    have hkid : k.id ≠ id := fun heq ↦ by simp [heq] at hne
    exact List.mem_filter.2 ⟨hmem, by simpa using hkid⟩
  have hsearch := (containerAt_clear hp hc hfloat (some id)).mono hother
  by_cases hplain : p.isContainer b.type = true
  · exact .inl (resolve_isOk hc.consistent.blockIds hc.hung hc.placed hb fun h ↦
      absurd hplain (by simp [h]))
  · rcases hsearch with ⟨found, hfound⟩ | ⟨k, hk, hcontainer, hover, hfault⟩
    · exact .inl (resolve_isOk hc.consistent.blockIds hc.hung hc.placed hb fun _ ↦
        ⟨spot, found, hspot, hfound⟩)
    · have hblock : c.block id = .ok b := block_eq_ok_iff.2 hb
      refine .inr ⟨k, hk, hcontainer, hover, ?_⟩
      simp [resolve, hblock, hspot, hfault, hplain, Outcome.given, Outcome.fail]

/-! ### Moving and dropping -/

/-- **A block can be moved to every place**, unless an oversized container is in the way. -/
theorem moveBlock_clear (hp : p.Tidy) (hsized : p.Sized) (hc : Measured p c)
    (hb : c.block? id = some b) {position : Value} (hfloating : position.Floating)
    {place : Point} (hplace : Point.ofValue position = .ok place) :
    Clear p c.blocks (c.moveBlock p id position).result := by
  have hfloat : place.IsFloat := hfloating place hplace
  obtain ⟨spot, hspot, hspotFloat⟩ : ∃ spot, c.toAbsolute place b.parent = .ok spot ∧
      spot.IsFloat := by
    rcases hparent : b.parent with - | q
    · exact ⟨place, rfl, hfloat⟩
    · obtain ⟨rank, hrank⟩ := hc.hung.ranked
      obtain ⟨k, hk⟩ := exists_block? (hrank b (mem_of_block? hb).1 q hparent).1
      obtain ⟨corner, hcorner, hcornerFloat⟩ := absolute_isOk hc.hung hc.placed hk
      obtain ⟨spot, hspot, hspotFloat⟩ := hfloat.plus hcornerFloat
      refine ⟨spot, ?_, hspotFloat⟩
      rw [toAbsolute, hcorner]
      exact hspot
  have hstep : Step p .floating c [.blockMoved id place] (c.movedTo id place) :=
    .change (.retouch (.move c id b position place hb hfloating hplace))
  have hresolve := resolve_clear hsized (hstep.measured hp hc) (block?_movedTo_self hb place)
  -- The other blocks are where they were.
  have hothers : ((c.movedTo id place).blocks.filter fun b ↦ b.id ≠ id) ⊆ c.blocks := by
    intro k hk
    obtain ⟨hmem, hne⟩ := List.mem_filter.1 hk
    obtain ⟨b', hb', rfl⟩ := List.mem_map.1 hmem
    split at hne
    · next hid => exact absurd hne (by simp [hid])
    · next hid =>
      rw [if_neg hid]
      exact hb'
  unfold moveBlock
  rw [block_eq_ok_iff.2 hb, hplace]
  refine .given (.ok b) fun b' hb' ↦ ?_
  obtain rfl := Except.ok.inj hb'
  refine .given (hspot ▸ .ok spot) fun spot' hspot' ↦ ?_
  obtain rfl : spot' = spot := Except.ok.inj (hspot'.symm.trans hspot)
  exact .given (hitTest_clear hsized hc hspotFloat (some id)) fun _ _ ↦ hresolve.mono hothers

/-- **A block that can be made can be dropped**, unless an oversized container is in the way. -/
theorem dropBlock_clear (hp : p.Tidy) (hsized : p.Sized) (hc : Measured p c) {n : NewBlock}
    (hn : n.Within .floating) (hmake : ∃ id, (c.createBlock p n).result = .ok id) :
    Clear p c.blocks (c.dropBlock p n).result := by
  obtain ⟨id, hid⟩ := hmake
  obtain ⟨t, properties, place, -, -, hplace, rfl, heq⟩ := createBlock_eq_ok hid
  have hmade : (c.createBlock p n).Made p .floating c := createBlock_made hn
  have hafter : Measured p (c.createBlock p n).canvas := hmade.traced.measured hp hc
  unfold dropBlock
  rw [hplace]
  refine .given (hitTest_clear hsized hc (hn.1 place hplace) none) fun _ _ ↦ ?_
  generalize hnew : c.newBlock t properties place
    ((Fields.get? n.properties "label").getD n.label) = new at heq
  have hnewId : new.id = c.ids.blockId := by
    rw [← hnew]
    rfl
  rw [heq] at hafter ⊢
  have hfound : ({ c with ids := c.ids.afterBlock }.putBlock new).block? c.ids.blockId = some new :=
    hnewId ▸ find?_putBy_self Block.id new c.blocks
  have hothers : (({ c with ids := c.ids.afterBlock }.putBlock new).blocks.filter fun b ↦
      b.id ≠ c.ids.blockId) ⊆ c.blocks := by
    intro k hk
    obtain ⟨hmem, hne⟩ := List.mem_filter.1 hk
    rcases mem_putBy Block.id hmem with rfl | hmem
    · exact absurd hne (by simp [hnewId])
    · exact hmem
  exact ((resolve_clear hsized hafter hfound).mono hothers).map fun _ ↦ c.ids.blockId

/-! ### Instructions -/

/-- **A request for a block is read the same way** whether the block is to be made or dropped, and
wherever. -/
theorem readBlock_remade {make : NewBlock → Edit} {n : BlockRequest} {r : Reading}
    (h : Instruction.readBlock p c make n = .ok r) :
    ∃ new : NewBlock, new.position = n.position ∧
      ((r = .edit (make new) ∧ ∀ make' v, Instruction.readBlock p c make' { n with position := v } =
          .ok (.edit (make' { new with position := v }))) ∨
        ∃ others, r = .furnish (make new) others ∧
          ∀ make' v, Instruction.readBlock p c make' { n with position := v } =
            .ok (.furnish (make' { new with position := v }) others)) := by
  simp only [Instruction.readBlock, bind_eq_ok_iff] at h ⊢
  obtain ⟨t, ht, u, hu, h⟩ := h
  split at h
  · next htruthy =>
    obtain ⟨entries, hentries, h⟩ := bind_eq_ok_iff.1 h
    split at h
    · next properties hproperties =>
      refine ⟨_, rfl, .inl ⟨(pure_eq_ok_iff.1 h).symm, fun make' v ↦ ⟨t, ht, u, hu, ?_⟩⟩⟩
      rw [if_pos htruthy, hentries]
      simp only [bind_eq_ok_iff]
      refine ⟨entries, rfl, ?_⟩
      rw [hproperties]
      rfl
    · next hodd =>
      simp only [bind_eq_ok_iff, pure_eq_ok_iff] at h
      obtain ⟨_, hdefaults, others, hothers, rfl⟩ := h
      refine ⟨_, rfl, .inr ⟨others, rfl, fun make' v ↦ ⟨t, ht, u, hu, ?_⟩⟩⟩
      rw [if_pos htruthy, hentries]
      simp only [bind_eq_ok_iff]
      refine ⟨entries, rfl, ?_⟩
      rw [hodd, hdefaults, hothers]
      rfl
  · next htruthy =>
    obtain ⟨_, ⟨⟩, h⟩ := bind_eq_ok_iff.1 h
    refine ⟨_, rfl, .inl ⟨(pure_eq_ok_iff.1 h).symm, fun make' v ↦ ⟨t, ht, u, hu, ?_⟩⟩⟩
    rw [if_neg htruthy]
    rfl

theorem within_of_making {s : Supply} {r : Reading} (h : r.Making p s) {new : NewBlock}
    (hr : r = .edit (.create new) ∨ ∃ others, r = .furnish (.create new) others) :
    new.Within s := by
  cases h with
  | edit make m makes h =>
    rcases makes with rfl | rfl
    · obtain rfl : m = new := by simpa using hr
      exact h
    · exact absurd hr (by simp)
  | furnish make m raw entries makes h values valid =>
    rcases makes with rfl | rfl
    · obtain rfl : m = new := by simpa using hr
      exact h
    · exact absurd hr (by simp)

/-- **Following an instruction to move a block on the canvas.** -/
theorem follow_move_clear (hp : p.Tidy) (hsized : p.Sized) (hc : Measured p c) (hb : b ∈ c.blocks)
    {position : Value} (houtside : Supply.outside.place position) {place : Point}
    (hplace : Point.ofValue position = .ok place) :
    Clear p c.blocks (c.follow p (.move (.text b.id) position)).result := by
  have hfound : c.block? b.id = some b :=
    (block?_eq_some_iff hc.consistent.blockIds).2 ⟨hb, rfl⟩
  rw [follow_move_eq hfound]
  exact (moveBlock_clear hp hsized hc hfound (Value.floating_of_ne_point houtside) hplace).map _

/-- **Following an instruction to drop a block that could be made.** -/
theorem follow_drop_clear (hp : p.Tidy) (hsized : p.Sized) (hc : Measured p c) {n : BlockRequest}
    (hn : (Instruction.drop n).Within .outside)
    (hmake : ∃ reply, (c.follow p (.create n)).result = .ok reply) :
    Clear p c.blocks (c.follow p (.drop n)).result := by
  obtain ⟨reply, hreply⟩ := hmake
  obtain ⟨r, hr, hfollow⟩ := Outcome.given_eq_ok hreply
  have hmaking : r.Making p .outside := Instruction.read_making (i := .create n) hn trivial hr
  obtain ⟨new, hposition, hread⟩ := readBlock_remade hr
  have hsame : { new with position := n.position } = new := by rw [← hposition]
  have hwithin : new.Within .outside :=
    within_of_making hmaking (hread.imp And.left fun ⟨others, h, _⟩ ↦ ⟨others, h⟩)
  have hmade : ∃ id, (c.createBlock p new).result = .ok id := by
    rw [follow, hfollow] at hreply
    rcases hread with ⟨rfl, -⟩ | ⟨others, rfl, -⟩
    · obtain ⟨id, hid, -⟩ := map_eq_ok_iff.1 hreply
      exact ⟨id, hid⟩
    · obtain ⟨_, hmap, -⟩ := Outcome.andThen_eq_ok hreply
      obtain ⟨id, hid, -⟩ := map_eq_ok_iff.1 hmap
      exact ⟨id, hid⟩
  have hfloating : new.Within .floating :=
    ⟨Value.floating_of_ne_point hwithin.1, fun _ _ ↦ trivial, trivial⟩
  have hdrop := dropBlock_clear hp hsized hc hfloating hmade
  obtain ⟨place, hplace⟩ : ∃ place, Point.ofValue n.position = .ok place := by
    obtain ⟨id, hid⟩ := hmade
    obtain ⟨t, properties, place, -, -, hplace, -⟩ := createBlock_eq_ok hid
    exact ⟨place, hposition ▸ hplace⟩
  have htest := hitTest_clear hsized hc (Point.isFloat_ofValue hn.1 hplace) none
  have hdropRead : (Instruction.drop n).read p c =
      (c.hitTest p none place).bind fun _ ↦ Instruction.readBlock p c .drop n := by
    rw [Instruction.read, hplace]
    rfl
  unfold follow
  rw [hdropRead]
  rcases hread with ⟨-, hread⟩ | ⟨others, -, hread⟩
  · rw [hread .drop n.position, hsame]
    refine .given (htest.bind fun _ _ ↦ .ok _) fun r hr ↦ ?_
    obtain ⟨_, -, hr⟩ := bind_eq_ok_iff.1 hr
    obtain rfl := Except.ok.inj hr
    exact hdrop.map _
  · rw [hread .drop n.position, hsame]
    refine .given (htest.bind fun _ _ ↦ .ok _) fun r hr ↦ ?_
    obtain ⟨_, -, hr⟩ := bind_eq_ok_iff.1 hr
    obtain rfl := Except.ok.inj hr
    -- The entries were checked before; writing them is not refused.
    refine .andThen (hdrop.map _) fun reply ↦ ?_
    cases reply <;> exact .ok _

/-! ### Runs -/

/-- **Blocks hang from the canvas after every run**, interrupted loads included. -/
theorem hung_of_run {actions : List Action} (h : ∀ a ∈ actions, a.Checked) :
    Hung p (run p actions).blocks := by
  refine graph_induction (s := .anything) (P := fun blocks _ ↦ Hung p blocks) (hung_empty p)
    (fun step hc hh ↦ step.hung hc.blockIds hh) fun a ha ↦
      ⟨h a ha, a.within_anything, fun d hd _ ↦ ?_⟩
  obtain ⟨hconsistent, hnested⟩ := rules_of_drawing? (h a ha) hd
  exact hnested.hung hconsistent.blockIds

theorem measured_of_run (hp : p.Tidy) {actions : List Action} (h : ∀ a ∈ actions, a.FromOutside) :
    Measured p (run p actions) where
  consistent := consistent_of_run fun a ha ↦ (h a ha).checked
  hung := hung_of_run fun a ha ↦ (h a ha).checked
  placed := placed_run h
  fitting := fitting_of_run hp fun a ha ↦ (h a ha).checked

/-- **Boxes and hit tests after every run.** After any run of actions from outside on the bundled
types, the box of a container is at its place and has its sides, those it states or the usual ones,
**unless** one of them is an integer beyond the range of floats; then asking for the box is refused,
and for that reason.

Nothing else about sizes can be in the way of moving a block of the canvas to a valid place, or of
dropping a block that could as well be made: both come through, or they are refused because of a
container on the canvas that is oversized. -/
theorem boxes_of_run {actions : List Action} (h : ∀ a ∈ actions, a.FromOutside) :
    let p := Palette.bundled
    let c := run p actions
    (∀ b ∈ c.blocks, p.isContainer b.type = true →
      if b.Oversized then c.boxOf b.id = .error (.oversized b.id)
      else ∃ width height, (b.side "width" defaultWidth).toFloat = .ok width ∧
        (b.side "height" defaultHeight).toFloat = .ok height ∧
        c.boxOf b.id = .ok ⟨b.position, width, height⟩) ∧
    (∀ b ∈ c.blocks, ∀ position place, Supply.outside.place position →
      Point.ofValue position = .ok place →
        Clear p c.blocks (c.follow p (.move (.text b.id) position)).result) ∧
    ∀ n : BlockRequest, (Instruction.drop n).Within .outside →
      (∃ reply, (c.follow p (.create n)).result = .ok reply) →
        Clear p c.blocks (c.follow p (.drop n)).result := by
  intro p c
  have hp : p.Tidy := Palette.bundled_tidy
  have hsized : p.Sized := Palette.bundled_sized
  have hc : Measured p c := measured_of_run hp h
  refine ⟨fun b hb hcontainer ↦ ?_, fun b hb position place houtside hplace ↦ ?_,
    fun n hn hmake ↦ ?_⟩
  · exact boxOf_eq ((block?_eq_some_iff hc.consistent.blockIds).2 ⟨hb, rfl⟩)
      (hc.hung.containers b hb hcontainer) (hc.numeric hsized hb hcontainer)
  · exact follow_move_clear hp hsized hc hb houtside hplace
  · exact follow_drop_clear hp hsized hc hn hmake

/-- A text for a width that is read as an infinite number gives a box that is as wide. A block is
then moved into it. -/
theorem endless_container_has_box :
    let p := Palette.bundled
    let actions : List Action := [
      .follow (.create
        { type := .text "main", properties := .object [("width", .text "1e400")] }),
      .follow (.create { type := .text "debug", position := .object [("y", .int 500)] })]
    let place : Value := .object [("x", .int 7000), ("y", .int 7)]
    (∀ a ∈ actions, a.FromOutside) ∧
      (∃ b ∈ (run p actions).blocks, p.isContainer b.type = true ∧ ¬ b.Oversized ∧
        ∃ box, (run p actions).boxOf b.id = .ok box ∧ box.corner = b.position) ∧
      ∃ reply, ((run p actions).follow p (.move (.text "node_1") place)).result = .ok reply := by
  intro p actions place
  have hactions : ∀ a ∈ actions, a.FromOutside := by
    simp [actions, Action.FromOutside, Instruction.Within, Supply.outside, Supply.record]
  have hsmall : ∀ b ∈ (run p actions).blocks, ¬ b.Oversized := by decide +kernel
  have hcontainer : ∃ b ∈ (run p actions).blocks, p.isContainer b.type = true := by decide +kernel
  have hmoved : ∃ b ∈ (run p actions).blocks, b.id = "node_1" := by decide +kernel
  have hplace : Point.ofValue place = .ok (.ofFloats 7000 7) := by decide +kernel
  obtain ⟨hboxes, hmove, -⟩ := boxes_of_run hactions
  refine ⟨hactions, ?_, ?_⟩
  · obtain ⟨b, hb, hbox⟩ := hcontainer
    have hfound := hboxes b hb hbox
    rw [if_neg (hsmall b hb)] at hfound
    obtain ⟨width, height, -, -, hfound⟩ := hfound
    exact ⟨b, hb, hbox, hsmall b hb, _, hfound, rfl⟩
  · obtain ⟨b, hb, hid⟩ := hmoved
    have hclear := hmove b hb place _ (by simp [place, Supply.outside]) hplace
    rw [hid] at hclear
    refine hclear.resolve_right ?_
    rintro ⟨k, hk, -, hover, -⟩
    exact hsmall k hk hover

/-- **A container may be too wide to have a box**, and then no other block can be moved. -/
theorem oversized_container_bars_moves :
    let p := Palette.bundled
    let actions : List Action := [
      .follow (.create
        { type := .text "main", properties := .object [("width", .int (Int.pow 10 400))] }),
      .follow (.create { type := .text "debug" })]
    let place : Value := .object [("x", .int 7), ("y", .int 7)]
    (∀ a ∈ actions, a.FromOutside) ∧ (run p actions).isContainer p "node_0" = true ∧
      (run p actions).boxOf "node_0" = .error (.oversized "node_0") ∧
      ((run p actions).follow p (.move (.text "node_1") place)).result =
        .error (.oversized "node_0") := by
  intro p actions place
  have hcreate : ∀ type properties : Value,
      (Action.follow (.create { type := type, properties := properties })).FromOutside :=
    fun type properties ↦ ⟨⟨fun _ _ ↦ by simp, fun _ _ _ _ ↦ trivial, trivial⟩, by simp⟩
  have hactions : ∀ a ∈ actions, a.FromOutside := by
    simp only [actions, List.forall_mem_cons]
    exact ⟨hcreate _ _, hcreate _ _, fun _ ha ↦ absurd ha List.not_mem_nil⟩
  exact ⟨hactions, by decide +kernel, by decide +kernel, by decide +kernel⟩

end Canvas

end FlowCanvas
