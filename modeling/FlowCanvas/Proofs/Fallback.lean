import FlowCanvas.Proofs.Lowering

/-!
# Blocks that state no type

Old drawings have blocks without a type. Lowering works one out for them (`Program.typeOf`), from a
property or as the type of raw code, and the program has that type. The check in front of lowering
goes by what is **stated**. So a program is made of a drawing that obeys the rules, and it is
another question whether the program obeys them.

The rules are those of an outline, and a program has one too (`Program.outline`). They fall apart
into rules about ids, parents and ends, which see no type, and rules about types
(`Outline.obeys_some_iff`). The first a program takes over from its drawing. The second it takes
over for all blocks that state a type; for the others it depends on what they fall back to
(`Drawing.FallsBack`).

The main statement is exact (`Program.ofDrawing_obeys_iff`): the program obeys **if and only if**
every block that states no type falls back to one that fits its place. Two such blocks may well fall
back to the type of the entry point (`Program.two_entry_points_lowered`).
-/

namespace FlowCanvas

/-! ### Rules with and without types -/

namespace Outline

/-- **The rules about types**: parents are containers, what is inside them is none, and one block at
most is an entry point. -/
structure Typed (p : Palette) (o : Outline) : Prop where
  around : ∀ s ∈ o.spots, ∀ k ∈ o.spots, s.parent = some k.id → p.isContainer k.type = true
  inside : ∀ s ∈ o.spots, s.parent ≠ none → p.isContainer s.type = false
  entryPoint : (o.spots.countP fun s ↦ p.isEntryPoint s.type) ≤ 1

/-- **The rules of a palette are those of any graph and those about types.** -/
theorem obeys_some_iff {p : Palette} {o : Outline} :
    o.Obeys (some p) ↔ o.Obeys none ∧ o.Typed p := by
  constructor
  · intro h
    refine ⟨⟨h.ids, fun s hs q hq ↦ ?_, h.ends, by simp⟩, fun s hs k hk hparent ↦ ?_,
      fun s hs hnested ↦ ?_, h.entryPoint p rfl⟩
    · obtain ⟨k, hk, hid, htop, -⟩ := h.parents s hs q hq
      exact ⟨k, hk, hid, htop, by simp⟩
    · obtain ⟨k', hk', hid, -, hrules⟩ := h.parents s hs k.id hparent
      obtain rfl : k' = k := List.inj_on_of_nodup_map h.ids hk' hk hid
      exact (hrules p rfl).1
    · obtain ⟨q, hq⟩ := Option.ne_none_iff_exists'.1 hnested
      obtain ⟨k, -, -, -, hrules⟩ := h.parents s hs q hq
      exact (hrules p rfl).2
  · rintro ⟨h, htyped⟩
    refine ⟨h.ids, fun s hs q hq ↦ ?_, h.ends, fun p' hp' ↦ ?_⟩
    · obtain ⟨k, hk, rfl, htop, -⟩ := h.parents s hs q hq
      refine ⟨k, hk, rfl, htop, fun p' hp' ↦ ?_⟩
      obtain rfl := Option.some.inj hp'
      exact ⟨htyped.around s hs k hk hq, htyped.inside s hs (by simp [hq])⟩
    · obtain rfl := Option.some.inj hp'
      exact htyped.entryPoint

/-- Of different items one at most passes a test exactly if all that pass it are the same. -/
theorem countP_le_one_iff {α : Type} {test : α → Bool} {as : List α} (has : as.Nodup) :
    as.countP test ≤ 1 ↔ ∀ a ∈ as, ∀ b ∈ as, test a = true → test b = true → a = b := by
  have hpass : ∀ {a}, a ∈ as.filter test ↔ a ∈ as ∧ test a = true := List.mem_filter
  have hdistinct : (as.filter test).Nodup := has.filter test
  rw [List.countP_eq_length_filter]
  constructor
  · intro hle a ha b hb htesta htestb
    have hina := hpass.2 ⟨ha, htesta⟩
    have hinb := hpass.2 ⟨hb, htestb⟩
    obtain ⟨x, hx⟩ : ∃ x, as.filter test = [x] :=
      List.length_eq_one_iff.1 (Nat.le_antisymm hle (List.length_pos_of_mem hina))
    rw [hx, List.mem_singleton] at hina hinb
    exact hina.trans hinb.symm
  · intro hsame
    rcases hlist : as.filter test with - | ⟨x, - | ⟨y, rest⟩⟩
    · exact Nat.zero_le 1
    · exact Nat.le_refl 1
    · obtain ⟨hx, htestx⟩ := hpass.1 (hlist ▸ List.mem_cons_self : x ∈ as.filter test)
      obtain ⟨hy, htesty⟩ :=
        hpass.1 (hlist ▸ List.mem_cons_of_mem x List.mem_cons_self : y ∈ as.filter test)
      rw [hlist, hsame x hx y hy htestx htesty] at hdistinct
      exact absurd List.mem_cons_self (List.nodup_cons.1 hdistinct).1

end Outline

/-! ### The outline of a program -/

namespace Program

/-- What the rules see of a node. -/
def Node.spot (n : Node) : Spot := ⟨n.id, n.type, n.parent⟩

/-- The outline of a program. -/
def outline (program : Program) : Outline where
  spots := program.nodes.map Node.spot
  ends := program.connections.map fun k ↦ (k.source, k.target)

/-- A type that is stated is the type. -/
theorem typeOf_of_stated {b : Block} (h : b.type ≠ "") : typeOf b = b.type :=
  if_pos (by simpa using h)

theorem mem_spots_lowered {d : Drawing} {s : Spot} :
    s ∈ (lowered d).outline.spots ↔ ∃ b ∈ d.blocks, (Node.ofBlock b).spot = s := by
  simp [outline, lowered]

theorem map_id_lowered (d : Drawing) :
    (lowered d).outline.spots.map Spot.id = d.blocks.map Block.id := by
  rw [outline, lowered, List.map_map, List.map_map]
  rfl

/-- **A program keeps the rules that see no types.** -/
theorem obeys_none_lowered {d : Drawing} (h : d.outline.Obeys none) :
    (lowered d).outline.Obeys none where
  ids := by
    rw [map_id_lowered, ← Drawing.map_id_outline]
    exact h.ids
  parents := by
    intro s hs q hq
    obtain ⟨b, hb, rfl⟩ := mem_spots_lowered.1 hs
    obtain ⟨s, hs, hid, htop, -⟩ := h.parents b.spot (List.mem_map_of_mem hb) q hq
    obtain ⟨k, hk, rfl⟩ := List.mem_map.1 hs
    exact ⟨_, mem_spots_lowered.2 ⟨k, hk, rfl⟩, hid, htop, by simp⟩
  ends := by
    intro e he
    have he : e ∈ d.outline.ends := by
      simpa [outline, lowered, Drawing.outline, Connection.ofWire] using he
    rw [map_id_lowered, ← Drawing.map_id_outline]
    exact h.ends e he
  entryPoint := by simp

end Program

/-! ### Falling back -/

/-- **Blocks that state no type fall back to one that fits.** Inside a container they do not fall
back to a container, around other blocks they do, and none falls back to an entry point beside
another. -/
structure Drawing.FallsBack (p : Palette) (d : Drawing) : Prop where
  around : ∀ b ∈ d.blocks, ∀ k ∈ d.blocks, b.parent = some k.id → k.type = "" →
    p.isContainer (Program.typeOf k) = true
  inside : ∀ b ∈ d.blocks, b.parent ≠ none → b.type = "" →
    p.isContainer (Program.typeOf b) = false
  entryPoint : ∀ b ∈ d.blocks, ∀ k ∈ d.blocks, b.type = "" →
    p.isEntryPoint (Program.typeOf b) = true → p.isEntryPoint (Program.typeOf k) = true → b = k

namespace Program

variable {p : Palette} {d : Drawing}

/-- **The types of a program obey the rules exactly if the unstated ones fit.** -/
theorem typed_lowered_iff (hids : (d.blocks.map Block.id).Nodup) (h : d.outline.Typed p) :
    (lowered d).outline.Typed p ↔ d.FallsBack p := by
  have hblocks : d.blocks.Nodup := List.Nodup.of_map Block.id hids
  have hspot : ∀ {b}, b ∈ d.blocks → b.spot ∈ d.outline.spots := List.mem_map_of_mem
  have hlowered : ∀ {b}, b ∈ d.blocks → (Node.ofBlock b).spot ∈ (lowered d).outline.spots :=
    fun hb ↦ mem_spots_lowered.2 ⟨_, hb, rfl⟩
  have hcount : ((lowered d).outline.spots.countP fun s ↦ p.isEntryPoint s.type) =
      d.blocks.countP fun b ↦ p.isEntryPoint (typeOf b) := by
    rw [outline, lowered, List.map_map, List.countP_map]
    rfl
  have hstated : (d.blocks.countP fun b ↦ p.isEntryPoint b.type) ≤ 1 :=
    Drawing.countP_outline d p ▸ h.entryPoint
  rw [Outline.countP_le_one_iff hblocks] at hstated
  constructor
  · rintro ⟨haround, hinside, hentry⟩
    rw [hcount, Outline.countP_le_one_iff hblocks] at hentry
    refine ⟨fun b hb k hk hparent _ ↦ haround _ (hlowered hb) _ (hlowered hk) hparent,
      fun b hb hnested _ ↦ hinside _ (hlowered hb) hnested, fun b hb k hk _ hb' hk' ↦ ?_⟩
    exact hentry b hb k hk hb' hk'
  · rintro ⟨haround, hinside, hentry⟩
    refine ⟨fun s hs t ht hparent ↦ ?_, fun s hs hnested ↦ ?_, ?_⟩
    · obtain ⟨b, hb, rfl⟩ := mem_spots_lowered.1 hs
      obtain ⟨k, hk, rfl⟩ := mem_spots_lowered.1 ht
      by_cases htype : k.type = ""
      · exact haround b hb k hk hparent htype
      · show p.isContainer (typeOf k) = true
        rw [typeOf_of_stated htype]
        exact h.around b.spot (hspot hb) k.spot (hspot hk) hparent
    · obtain ⟨b, hb, rfl⟩ := mem_spots_lowered.1 hs
      by_cases htype : b.type = ""
      · exact hinside b hb hnested htype
      · show p.isContainer (typeOf b) = false
        rw [typeOf_of_stated htype]
        exact h.inside b.spot (hspot hb) hnested
    · rw [hcount, Outline.countP_le_one_iff hblocks]
      intro b hb k hk hb' hk'
      -- Either one of the two states no type, or both were seen by the check.
      by_cases htypeb : b.type = ""
      · exact hentry b hb k hk htypeb hb' hk'
      by_cases htypek : k.type = ""
      · exact (hentry k hk b hb htypek hk' hb').symm
      rw [typeOf_of_stated htypeb] at hb'
      rw [typeOf_of_stated htypek] at hk'
      exact hstated b hb k hk hb' hk'

/-- **Which programs obey the rules of the palette they were made with.** Let a drawing be lowered
with a palette. In the program

* ids are distinct, connections join nodes, and parents are nodes without a parent;
* parents are containers, what is inside them is none, and one node at most is an entry point,
  **exactly if** the blocks that state no type fall back to types that fit;
* that is so, in particular, where every block states its type. -/
theorem ofDrawing_obeys_iff {program : Program} (h : ofDrawing (some p) d = .ok program) :
    program.outline.Obeys none ∧ (program.outline.Obeys (some p) ↔ d.FallsBack p) ∧
      ((∀ b ∈ d.blocks, b.type ≠ "") → program.outline.Obeys (some p)) := by
  obtain ⟨hobeys, -, rfl⟩ := ofDrawing_eq_ok_iff.1 h
  obtain ⟨hplain, htyped⟩ := Outline.obeys_some_iff.1 hobeys
  have hids : (d.blocks.map Block.id).Nodup := Drawing.map_id_outline d ▸ hplain.ids
  have hnone : (lowered d).outline.Obeys none := obeys_none_lowered hplain
  have hiff : (lowered d).outline.Obeys (some p) ↔ d.FallsBack p := by
    rw [Outline.obeys_some_iff, and_iff_right hnone]
    exact typed_lowered_iff hids htyped
  refine ⟨hnone, hiff, fun hstated ↦ hiff.2 ⟨?_, ?_, ?_⟩⟩
  · exact fun _ _ k hk _ htype ↦ absurd htype (hstated k hk)
  · exact fun b hb _ htype ↦ absurd htype (hstated b hb)
  · exact fun b hb _ _ htype ↦ absurd htype (hstated b hb)

/-- A drawing with old blocks: one inside the entry point that falls back to a type from its
properties, a container that does, and one that falls back to raw code. -/
theorem old_blocks_obey :
    let p := Palette.bundled
    let d : Drawing :=
      { blocks := [{ id := "a", type := "main" },
          { id := "b", type := "", parent := some "a"
            properties := [("nodeType", .text "debug")] },
          { id := "c", type := "", properties := [("nodeType", .text "function-definition")] },
          { id := "d", type := "", properties := [("nodeType", .int 3)] }]
        wires := [{ id := "w", source := "b", target := "d" }] }
    ∃ program, ofDrawing (some p) d = .ok program ∧
      program.nodes.map Node.type = ["main", "debug", "function-definition", "legacy_code"] ∧
      program.outline.Obeys (some p) := by
  intro p d
  have hlowered : ofDrawing (some p) d = .ok (lowered d) := rfl
  have hfits : d.FallsBack p :=
    ⟨by decide, by decide, by decide⟩
  exact ⟨lowered d, hlowered, by decide, (ofDrawing_obeys_iff hlowered).2.1.2 hfits⟩

/-- **A program with two entry points.** Two blocks that state no type fall back to the type of the
entry point; the check in front of lowering takes neither for one. -/
theorem two_entry_points_lowered :
    let p := Palette.bundled
    let old : String → Block := fun id ↦
      { id := id, type := "", properties := [("nodeType", .text "main")] }
    let d : Drawing := { blocks := [old "a", old "b"] }
    ∃ program, ofDrawing (some p) d = .ok program ∧
      (program.nodes.filter fun n ↦ p.isEntryPoint n.type).map Node.id = ["a", "b"] ∧
      ¬ program.outline.Obeys (some p) := by
  intro p old d
  refine ⟨lowered d, rfl, by decide, fun hobeys ↦ ?_⟩
  have hle := hobeys.entryPoint p rfl
  exact absurd hle (by decide)

end Program

end FlowCanvas
