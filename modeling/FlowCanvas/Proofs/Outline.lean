import FlowCanvas.Program.Lower
import FlowCanvas.Proofs.References
import FlowCanvas.Proofs.Written

/-!
# Outlines

A document is checked before it is read and a drawing before it is lowered. The two checks are
written apart, go in different orders and stop at different places, and one of them works out the
type of a block that the other is told. What they look at is the same: the *outline* of the graph,
with the id, the type and the parent of every block and the ends of every wire.

`Outline.Obeys` states the rules of a graph of an outline, once. The check of drawings accepts
**exactly** the outlines that obey (`Drawing.check_eq_ok_iff`), the check of documents those whose
wires have distinct ids besides (`Document.linked_iff`). Writing a drawing down and reading a
document keep the outline (`Document.outline_of_ofDrawing`, `Document.outline_of_toDrawing`), so
neither takes a graph across the rules.
-/

namespace FlowCanvas

/-- What the rules of a graph see of a block. -/
structure Spot where
  id : String
  type : String
  parent : Option String

/-- What the rules of a graph see of a drawing or a document. -/
structure Outline where
  spots : List Spot
  /-- The source and the target of every wire. -/
  ends : List (String × String)

namespace Outline

/-- The parent of a block is a block without a parent; with a palette, it is a container and the
block itself is none. -/
def Fits (palette : Option Palette) (spots : List Spot) (s : Spot) : Prop :=
  ∀ q, s.parent = some q → ∃ k ∈ spots, k.id = q ∧ k.parent = none ∧
    ∀ p, palette = some p → p.isContainer k.type = true ∧ p.isContainer s.type = false

/-- **The rules of a graph.** -/
structure Obeys (palette : Option Palette) (o : Outline) : Prop where
  ids : (o.spots.map Spot.id).Nodup
  parents : ∀ s ∈ o.spots, Fits palette o.spots s
  ends : ∀ e ∈ o.ends, e.1 ∈ o.spots.map Spot.id ∧ e.2 ∈ o.spots.map Spot.id
  entryPoint : ∀ p, palette = some p → (o.spots.countP fun s ↦ p.isEntryPoint s.type) ≤ 1

/-- Looking the parent up among the blocks says whether the block fits. That no block is its own
parent need not be asked, since the parent has none. -/
theorem fits_iff {α : Type} (spot : α → Spot) {palette : Option Palette} {as : List α}
    (hids : (as.map fun a ↦ (spot a).id).Nodup) {a : α} (ha : a ∈ as) :
    (∀ q, (spot a).parent = some q → q ≠ (spot a).id ∧
        ∃ k, (as.find? fun k ↦ (spot k).id == q) = some k ∧ (spot k).parent = none ∧
          ∀ p, palette = some p →
            p.isContainer (spot k).type = true ∧ p.isContainer (spot a).type = false) ↔
      Fits palette (as.map spot) (spot a) := by
  have hfind : ∀ {q : String} {k : α}, (as.find? fun k ↦ (spot k).id == q) = some k ↔
      k ∈ as ∧ (spot k).id = q := Canvas.find?_key_eq_some_iff (fun k ↦ (spot k).id) hids
  constructor
  · intro h q hq
    obtain ⟨-, k, hk, htop, hrules⟩ := h q hq
    obtain ⟨hmem, hid⟩ := hfind.1 hk
    exact ⟨spot k, List.mem_map_of_mem hmem, hid, htop, hrules⟩
  · intro h q hq
    obtain ⟨s, hs, hid, htop, hrules⟩ := h q hq
    obtain ⟨k, hk, rfl⟩ := List.mem_map.1 hs
    refine ⟨fun hown ↦ ?_, k, hfind.2 ⟨hk, hid⟩, htop, hrules⟩
    -- Ids are distinct, so the parent would be the block itself and have a parent.
    obtain rfl : k = a := List.inj_on_of_nodup_map hids hk ha (hid.trans hown)
    rw [htop] at hq
    exact absurd hq (by simp)

end Outline

/-! ### Drawings -/

/-- What the rules see of a block. -/
def Block.spot (b : Block) : Spot := ⟨b.id, b.type, b.parent⟩

namespace Drawing

open Checks

/-- The outline of a drawing. -/
def outline (d : Drawing) : Outline where
  spots := d.blocks.map Block.spot
  ends := d.wires.map fun w ↦ (w.source, w.target)

theorem map_id_outline (d : Drawing) : d.outline.spots.map Spot.id = d.blocks.map Block.id := by
  rw [outline, List.map_map]
  rfl

/-- Ids pass the check if none is repeated, nor was seen before. -/
theorem checkIds_eq_ok_iff {seen : List String} {blocks : List Block} :
    checkIds seen blocks = .ok () ↔
      (blocks.map Block.id).Nodup ∧ ∀ b ∈ blocks, b.id ∉ seen := by
  induction blocks generalizing seen with
  | nil => simp [checkIds]
  | cons b rest ih =>
    rw [checkIds, guard_eq_ok_iff, ih, List.map_cons, List.nodup_cons]
    simp only [List.contains_iff_mem, List.mem_cons, not_or, List.mem_map, not_exists, not_and,
      forall_eq_or_imp]
    constructor
    · rintro ⟨hb, hrest, hseen⟩
      exact ⟨⟨fun k hk ↦ (hseen k hk).1, hrest⟩, hb, fun k hk ↦ (hseen k hk).2⟩
    · rintro ⟨⟨hb, hrest⟩, hnew, hseen⟩
      exact ⟨hnew, hrest, fun k hk ↦ ⟨hb k hk, hseen k hk⟩⟩

theorem checkEach_eq_ok_iff {α ε : Type} {check : α → Except ε Unit} {as : List α} :
    checkEach check as = .ok () ↔ ∀ a ∈ as, check a = .ok () := by
  induction as with
  | nil => simp [checkEach]
  | cons a rest ih =>
    rw [checkEach, List.forall_mem_cons, ← ih]
    rcases check a with fault | -
    · simp
    · simp

/-- A parent passes the check if it is another block without a parent, and with a palette a
container around a block that is none. -/
theorem checkParent_eq_ok_iff {palette : Option Palette} {d : Drawing} {b : Block} :
    d.checkParent palette b = .ok () ↔
      ∀ q, b.parent = some q → q ≠ b.id ∧ ∃ k, d.block? q = some k ∧ k.parent = none ∧
        ∀ p, palette = some p → p.isContainer k.type = true ∧ p.isContainer b.type = false := by
  unfold checkParent
  rcases b.parent with - | q
  · simp
  · simp only [Option.some.injEq, forall_eq', guard_eq_ok_iff]
    refine and_congr_right fun _ ↦ ?_
    rcases d.block? q with - | k
    · simp
    · simp only [guard_eq_ok_iff, Option.some.injEq, exists_eq_left', Option.not_isSome_iff_eq_none]
      refine and_congr_right fun _ ↦ ?_
      cases palette with
      | none => simp
      | some p => simp [guard_eq_ok_iff]

/-- A wire passes the check if it connects blocks of the drawing. -/
theorem checkWire_eq_ok_iff {d : Drawing} {w : Wire} :
    d.checkWire w = .ok () ↔
      w.source ∈ d.blocks.map Block.id ∧ w.target ∈ d.blocks.map Block.id := by
  have hnone : ∀ id, (d.block? id).isNone = true ↔ id ∉ d.blocks.map Block.id := fun id ↦ by
    rw [Option.isNone_iff_eq_none]
    exact Canvas.find?_key_eq_none_iff Block.id
  rw [checkWire, guard_eq_ok_iff, guard_eq_ok_iff, hnone, hnone, not_not, not_not]
  simp

/-- With a palette there is at most one entry point. -/
theorem checkEntryPoints_eq_ok_iff {palette : Option Palette} {d : Drawing} :
    d.checkEntryPoints palette = .ok () ↔
      ∀ p, palette = some p → (d.blocks.countP fun b ↦ p.isEntryPoint b.type) ≤ 1 := by
  unfold checkEntryPoints
  cases palette with
  | none => simp
  | some p =>
    simp only [guard_eq_ok_iff, List.length_map, ← List.countP_eq_length_filter, and_true,
      Nat.not_lt, Option.some.injEq, forall_eq']

theorem countP_outline (d : Drawing) (p : Palette) :
    (d.outline.spots.countP fun s ↦ p.isEntryPoint s.type) =
      d.blocks.countP fun b ↦ p.isEntryPoint b.type := by
  rw [outline, List.countP_map]
  rfl

/-- **A drawing passes the check before lowering exactly if its outline obeys the rules.** -/
theorem check_eq_ok_iff {palette : Option Palette} {d : Drawing} :
    d.check palette = .ok () ↔ d.outline.Obeys palette := by
  rw [check, andThen_eq_ok_iff, andThen_eq_ok_iff, andThen_eq_ok_iff, checkIds_eq_ok_iff,
    checkEach_eq_ok_iff, checkEach_eq_ok_iff, checkEntryPoints_eq_ok_iff]
  simp only [checkParent_eq_ok_iff, checkWire_eq_ok_iff]
  constructor
  · rintro ⟨⟨hids, -⟩, hparents, hends, hentry⟩
    refine ⟨by rwa [map_id_outline], fun s hs ↦ ?_, fun e he ↦ ?_, fun p hp ↦ ?_⟩
    · obtain ⟨b, hb, rfl⟩ := List.mem_map.1 hs
      exact (Outline.fits_iff Block.spot hids hb).1 (hparents b hb)
    · obtain ⟨w, hw, rfl⟩ := List.mem_map.1 he
      rw [map_id_outline]
      exact hends w hw
    · rw [countP_outline]
      exact hentry p hp
  · rintro ⟨hids, hparents, hends, hentry⟩
    rw [map_id_outline] at hids hends
    refine ⟨⟨hids, by simp⟩, fun b hb ↦ ?_, fun w hw ↦ ?_, fun p hp ↦ ?_⟩
    · exact (Outline.fits_iff Block.spot hids hb).2 (hparents b.spot (List.mem_map_of_mem hb))
    · exact hends (w.source, w.target) (List.mem_map.2 ⟨w, hw, rfl⟩)
    · rw [← countP_outline]
      exact hentry p hp

/-- A consistent and nested graph obeys the rules. -/
theorem obeys_of_nested {p : Palette} {d : Drawing} (hc : Consistent p d.blocks d.wires)
    (hn : Nested p d.blocks) : d.outline.Obeys (some p) where
  ids := by
    rw [map_id_outline]
    exact hc.blockIds
  parents := by
    intro s hs q hq
    obtain ⟨b, hb, rfl⟩ := List.mem_map.1 hs
    have hq : b.parent = some q := hq
    obtain ⟨k, hk, rfl, hcontainer, htop⟩ := hn.parents b hb q hq
    refine ⟨k.spot, List.mem_map_of_mem hk, rfl, htop, fun p' hp' ↦ ?_⟩
    obtain rfl : p = p' := Option.some.inj hp'
    refine ⟨hcontainer, Bool.eq_false_iff.2 fun hnested ↦ ?_⟩
    rw [hn.containers b hb hnested] at hq
    exact absurd hq (by simp)
  ends := by
    intro e he
    obtain ⟨w, hw, rfl⟩ := List.mem_map.1 he
    rw [map_id_outline]
    exact hc.ends w hw
  entryPoint := by
    intro p' hp'
    obtain rfl : p = p' := Option.some.inj hp'
    rw [countP_outline]
    exact hc.entryPoint

end Drawing

/-! ### Documents -/

namespace Document

open Checks

/-- What the rules see of the record of a block. -/
def BlockRecord.spot (r : BlockRecord) : Spot := ⟨r.id, r.typeId, r.parent⟩

/-- The outline of a document. -/
def outline (d : Document) : Outline where
  spots := d.blocks.map BlockRecord.spot
  ends := d.wires.map fun w ↦ (w.source, w.target)

theorem map_id_outline (d : Document) :
    d.outline.spots.map Spot.id = d.blocks.map BlockRecord.id := by
  rw [outline, List.map_map]
  rfl

theorem countP_outline (d : Document) (p : Palette) :
    (d.outline.spots.countP fun s ↦ p.isEntryPoint s.type) =
      d.blocks.countP fun r ↦ p.isEntryPoint r.typeId := by
  rw [outline, List.countP_map]
  rfl

/-- **The parts of a document fit together exactly if its outline obeys the rules and its wires have
distinct ids.** -/
theorem linked_iff {palette : Option Palette} {d : Document} :
    d.Linked palette ↔ d.outline.Obeys palette ∧ (d.wires.map WireRecord.id).Nodup := by
  constructor
  · rintro ⟨hids, hparents, hwires, hends, hentry⟩
    refine ⟨⟨by rwa [map_id_outline], fun s hs ↦ ?_, fun e he ↦ ?_, fun p hp ↦ ?_⟩, hwires⟩
    · obtain ⟨r, hr, rfl⟩ := List.mem_map.1 hs
      exact (Outline.fits_iff BlockRecord.spot hids hr).1 (hparents r hr)
    · obtain ⟨w, hw, rfl⟩ := List.mem_map.1 he
      rw [map_id_outline]
      exact hends w hw
    · rw [countP_outline]
      exact hentry p hp
  · rintro ⟨⟨hids, hparents, hends, hentry⟩, hwires⟩
    rw [map_id_outline] at hids hends
    refine ⟨hids, fun r hr ↦ ?_, hwires, fun w hw ↦ ?_, fun p hp ↦ ?_⟩
    · exact (Outline.fits_iff BlockRecord.spot hids hr).2 (hparents r.spot (List.mem_map_of_mem hr))
    · exact hends (w.source, w.target) (List.mem_map.2 ⟨w, hw, rfl⟩)
    · rw [← countP_outline]
      exact hentry p hp

/-! ### Writing and reading -/

/-- A type that is stated is the type. -/
theorem BlockRecord.typeId_of_type {r : BlockRecord} {type : String} (h : r.type = some type)
    (hne : type ≠ "") : r.typeId = type := by
  have hown : (type != "") = true := by simpa using hne
  simp [typeId, h, hown]

theorem checkNames_eq_ok_iff {strays : List Stray} : checkNames strays = .ok () ↔ strays = [] := by
  cases strays with
  | nil => simp [checkNames]
  | cons s rest => simp [checkNames]

/-- What a block is written as. A block with a property that no text names is not written. -/
theorem BlockRecord.ofBlock_eq_ok {b : Block} {r : BlockRecord} (h : ofBlock b = .ok r) :
    b.strays = [] ∧ r.id = b.id ∧ r.type = some b.type ∧ r.parent = b.parent := by
  obtain ⟨⟨position, done⟩, hpair, rfl⟩ := map_eq_ok_iff.1 h
  obtain ⟨-, hnames⟩ := Checked.pair_eq_ok_iff.1 hpair
  exact ⟨checkNames_eq_ok_iff.1 (Checked.within_eq_ok_iff.1 hnames), rfl, rfl, rfl⟩

/-- Blocks are written one by one, in order. -/
theorem blockRecords_eq_ok {i : Nat} {blocks : List Block} {records : List BlockRecord}
    (h : blockRecords i blocks = .ok records) :
    List.Forall₂ (fun b r ↦ BlockRecord.ofBlock b = .ok r) blocks records := by
  induction blocks generalizing i records with
  | nil =>
    obtain rfl : [] = records := Except.ok.inj h
    exact .nil
  | cons b rest ih =>
    obtain ⟨⟨r, rs⟩, hpair, rfl⟩ := map_eq_ok_iff.1 h
    obtain ⟨hr, hrs⟩ := Checked.pair_eq_ok_iff.1 hpair
    exact .cons (Checked.within_eq_ok_iff.1 hr) (ih hrs)

/-- What a wire is written as. -/
theorem WireRecord.ofWire_eq_ok {w : Wire} {kind : ConnectionKind} {r : WireRecord}
    (h : ofWire w kind = .ok r) : r.id = w.id ∧ r.source = w.source ∧ r.target = w.target := by
  obtain ⟨mapping, -, rfl⟩ := map_eq_ok_iff.1 h
  exact ⟨rfl, rfl, rfl⟩

theorem wireRecords_eq_ok {i : Nat} {wires : List (Wire × ConnectionKind)}
    {records : List WireRecord} (h : wireRecords i wires = .ok records) :
    List.Forall₂ (fun w r ↦ WireRecord.ofWire w.1 w.2 = .ok r) wires records := by
  induction wires generalizing i records with
  | nil =>
    obtain rfl : [] = records := Except.ok.inj h
    exact .nil
  | cons w rest ih =>
    obtain ⟨⟨r, rs⟩, hpair, rfl⟩ := map_eq_ok_iff.1 h
    obtain ⟨hr, hrs⟩ := Checked.pair_eq_ok_iff.1 hpair
    exact .cons (Checked.within_eq_ok_iff.1 hr) (ih hrs)

/-- The wires themselves stay as they are. -/
theorem statedKinds_eq_ok {wires : List Wire} {stated : List (Wire × ConnectionKind)}
    (h : statedKinds wires = .ok stated) : stated.map Prod.fst = wires := by
  induction wires generalizing stated with
  | nil =>
    obtain rfl : [] = stated := Except.ok.inj h
    rfl
  | cons w rest ih =>
    unfold statedKinds at h
    split at h
    · exact absurd h (by simp)
    · obtain ⟨others, hothers, rfl⟩ := map_eq_ok_iff.1 h
      rw [List.map_cons, ih hothers]

/-- What a drawing is written as: a record for each block and each wire, in their order. -/
theorem ofDrawing_eq_ok {clock : Clock} {heading : Heading} {d : Drawing} {document : Document}
    (h : ofDrawing clock heading d = .ok document) :
    List.Forall₂ (fun b r ↦ BlockRecord.ofBlock b = .ok r) d.blocks document.blocks ∧
      List.Forall₂ (fun w r ↦ ∃ kind, WireRecord.ofWire w kind = .ok r) d.wires
        document.wires := by
  unfold ofDrawing at h
  split at h
  · exact absurd h (by simp)
  · next stated hstated =>
    dsimp only at h
    split at h
    · exact absurd h (by simp)
    · next metadata blocks wires hpair =>
      obtain rfl := Except.ok.inj h
      obtain ⟨-, hpair⟩ := Checked.pair_eq_ok_iff.1 hpair
      obtain ⟨hblocks, hwires⟩ := Checked.pair_eq_ok_iff.1 hpair
      refine ⟨blockRecords_eq_ok (Checked.within_eq_ok_iff.1 hblocks), ?_⟩
      rw [← statedKinds_eq_ok hstated, List.forall₂_map_left_iff]
      exact (wireRecords_eq_ok (Checked.within_eq_ok_iff.1 hwires)).imp fun w r hr ↦ ⟨w.2, hr⟩

/-- **Writing a drawing down keeps its outline**, where all types are stated. -/
theorem outline_of_ofDrawing {clock : Clock} {heading : Heading} {d : Drawing} {document : Document}
    (htypes : ∀ b ∈ d.blocks, b.type ≠ "") (h : ofDrawing clock heading d = .ok document) :
    document.outline = d.outline := by
  obtain ⟨hblocks, hwires⟩ := ofDrawing_eq_ok h
  have hspots : document.blocks.map BlockRecord.spot = d.blocks.map Block.spot := by
    refine Canvas.map_forall₂ ?_ ((List.forall₂_and_left _ _).2 ⟨htypes, hblocks⟩)
    rintro b r ⟨hne, hr⟩
    obtain ⟨-, hid, htype, hparent⟩ := BlockRecord.ofBlock_eq_ok hr
    rw [Block.spot, BlockRecord.spot, hid, BlockRecord.typeId_of_type htype hne, hparent]
  have hends : (document.wires.map fun w ↦ (w.source, w.target)) =
      d.wires.map fun w ↦ (w.source, w.target) := by
    refine Canvas.map_forall₂ ?_ hwires
    rintro w r ⟨kind, hr⟩
    obtain ⟨-, hsource, htarget⟩ := WireRecord.ofWire_eq_ok hr
    rw [hsource, htarget]
  rw [outline, Drawing.outline, hspots, hends]

/-- Writing a drawing down keeps the ids of its wires. -/
theorem wireIds_of_ofDrawing {clock : Clock} {heading : Heading} {d : Drawing} {document : Document}
    (h : ofDrawing clock heading d = .ok document) :
    document.wires.map WireRecord.id = d.wires.map Wire.id := by
  refine Canvas.map_forall₂ ?_ (ofDrawing_eq_ok h).2
  rintro w r ⟨kind, hr⟩
  exact (WireRecord.ofWire_eq_ok hr).1

/-- **Reading a document keeps its outline.** -/
theorem outline_of_toDrawing {palette : Option Palette} {document : Document} {d : Drawing}
    (h : document.toDrawing palette = .ok d) : d.outline = document.outline := by
  obtain ⟨-, hblocks, hwires⟩ := toDrawing_eq_ok h
  have hspots : d.blocks.map Block.spot = document.blocks.map BlockRecord.spot := by
    refine Canvas.map_forall₂ (fun r b hb ↦ ?_) hblocks
    obtain ⟨hid, htype, hparent⟩ := BlockRecord.toBlock_keeps hb
    rw [Block.spot, BlockRecord.spot, hid, htype, hparent]
  rw [outline, Drawing.outline, hspots, hwires, List.map_map]
  rfl

end Document

end FlowCanvas
