import FlowCanvas.Proofs.Fitting
import FlowCanvas.Proofs.Freshness

/-!
# Typed bags of properties

The properties of a block are a bag that its type describes. `typed_of_run` states what holds of
every bag after every run, where all types are tidy:

* no property has a reserved name;
* a property that is declared, if it is there, is left as it is by its kind;
* a block that was made on the canvas, and not put there by a load since, has all properties that
  its type declares.

The first two are invariants of all blocks, whatever route they came by (`unreserved_of_run`,
`fitting_of_run`). The third is about the blocks of one id, from the event that reports the id on.
**A step keeps the names that a block has and makes only complete blocks** (`Step.complete`), so
what is complete stays so until an action replaces it (`Action.Replaces`).
-/

namespace FlowCanvas

/-- **A block has all that its type declares**, and its type is known. -/
def Block.Complete (p : Palette) (b : Block) : Prop :=
  ∃ t, p.get? b.type = some t ∧ ∀ spec ∈ t.properties, ∀ key, spec.name = .text key →
    ∃ v, Fields.get? b.properties key = some v

theorem Block.Complete.of_keys {p : Palette} {b b' : Block} (h : b.Complete p)
    (htype : b'.type = b.type)
    (hkeys : ∀ key ∈ Fields.keys b.properties, key ∈ Fields.keys b'.properties) :
    b'.Complete p := by
  obtain ⟨t, ht, hspecs⟩ := h
  refine ⟨t, htype ▸ ht, fun spec hspec key hname ↦ Fields.exists_get?_iff.2 (hkeys key ?_)⟩
  exact Fields.exists_get?_iff.1 (hspecs spec hspec key hname)

/-- Whether an action puts the blocks of a document in the place of those on the canvas. It may be
refused after it has. -/
def Action.Replaces (p : Palette) (a : Action) : Prop :=
  ∃ d, a.drawing? p = some d ∧ ∀ b ∈ d.blocks, b.isCopyable = true

namespace Canvas

variable {p : Palette} {s : Supply} {c c' : Canvas} {es : List Event} {id : String}

/-! ### Steps -/

theorem keys_write (b : Block) (e : Value × Value) :
    ∀ key ∈ Fields.keys b.properties, key ∈ Fields.keys (b.write e).properties := by
  intro key hkey
  unfold Block.write
  split
  · exact Fields.mem_keys_set.2 (.inr hkey)
  · exact hkey

theorem keys_foldl_write (b : Block) (entries : List (Value × Value)) :
    ∀ key ∈ Fields.keys b.properties,
      key ∈ Fields.keys (entries.foldl Block.write b).properties := by
  induction entries generalizing b with
  | nil => exact fun _ hkey ↦ hkey
  | cons e rest ih => exact fun key hkey ↦ ih (b.write e) key (keys_write b e key hkey)

/-- A default is filled in for every text that a type declares. -/
theorem mem_keys_defaults {t : BlockType} {spec : PropertySpec} (hspec : spec ∈ t.properties)
    {key : String} (hname : spec.name = .text key) : key ∈ Fields.keys t.defaults := by
  refine Fields.mem_keys_merge.2 (.inr (List.mem_map.2 ⟨(key, spec.default), ?_, rfl⟩))
  exact List.mem_filterMap.2 ⟨spec, hspec, by rw [hname]; rfl⟩

/-- **What a canvas makes is complete.** -/
theorem complete_newBlock {type : String} {t : BlockType} (htype : p.get? type = some t)
    (properties : Fields Value) (position : Point) (label : Value) :
    (c.newBlock t properties position label).Complete p := by
  have hself : p.get? t.id = some t := by rwa [Palette.id_of_get? htype]
  refine ⟨t, hself, fun spec hspec key hname ↦ Fields.exists_get?_iff.2 ?_⟩
  exact Fields.mem_keys_merge.2 (.inl (mem_keys_defaults hspec hname))

/-- **A step keeps what is complete.** -/
theorem Step.complete (h : Step p s c es c') (hids : (c.blocks.map Block.id).Nodup)
    (hc : ∀ b ∈ c.blocks, b.id = id → b.Complete p) :
    ∀ b ∈ c'.blocks, b.id = id → b.Complete p := by
  intro b' hb' hid
  cases h.holding hids b' hb' with
  | kept b _ mem same type properties strays =>
    refine (hc b mem (same ▸ hid)).of_keys type fun key hkey ↦ ?_
    rwa [properties]
  | merged b patch properties label mem origin valid =>
    exact (hc b mem hid).of_keys rfl fun key hkey ↦ Fields.mem_keys_merge.2 (.inl hkey)
  | written b raw entries mem values valid =>
    rw [id_foldl_write] at hid
    exact (hc b mem hid).of_keys (type_foldl_write b entries) (keys_foldl_write b entries)
  | made n t properties position label within type defaults valid =>
    exact complete_newBlock type properties position label

/-- The block whose id a step reports as given out is complete. -/
theorem Step.complete_of_created (h : Step p s c es c') (hids : (c.blocks.map Block.id).Nodup)
    (hid : id ∈ Item.block.allocated es) : ∀ b ∈ c'.blocks, b.id = id → b.Complete p := by
  cases h with
  | change h =>
    rw [h.allocated_block] at hid
    exact absurd hid List.not_mem_nil
  | create h =>
    obtain ⟨n, t, properties, position, within, type, defaults, valid, place⟩ := h
    obtain rfl : id = c.ids.blockId := List.mem_singleton.1 hid
    intro b hb hown
    -- Ids are distinct, so it is the block that was put.
    obtain rfl : b = c.newBlock t properties position _ :=
      List.inj_on_of_nodup_map (nodup_putBy Block.id _ hids) hb (mem_putBy_self Block.id) hown
    exact complete_newBlock (checkType_eq_ok_iff.1 type).1 properties position _

theorem Trace.complete (h : Trace (Step p s) c es c') (hc : Consistent p c.blocks c.wires)
    (hid : id ∈ Item.block.allocated es ∨ ∀ b ∈ c.blocks, b.id = id → b.Complete p) :
    ∀ b ∈ c'.blocks, b.id = id → b.Complete p := by
  induction h with
  | nil c => exact hid.resolve_left List.not_mem_nil
  | cons step _ ih =>
    rw [Item.allocated_append, List.mem_append] at hid
    refine ih (step.consistent hc) ?_
    rcases hid with (hid | hid) | hall
    · exact .inr (step.complete_of_created hc.blockIds hid)
    · exact .inl hid
    · exact .inr (step.complete hc.blockIds hall)

/-! ### Runs -/

/-- An action leaves complete what it makes, and what it does not replace. -/
theorem complete_of_effect {a : Action} (ha : a.Checked) (hc : Consistent p c.blocks c.wires)
    (hid : id ∈ Item.block.allocated (a.effect p c).events ∨
      ¬ a.Replaces p ∧ ∀ b ∈ c.blocks, b.id = id → b.Complete p) :
    ∀ b ∈ (a.effect p c).canvas.blocks, b.id = id → b.Complete p := by
  obtain ⟨d, hd, heffect⟩ | ⟨-, htrace⟩ := a.effect_cases c a.within_anything
  · rw [heffect] at hid ⊢
    rcases hid with hid | ⟨hkept, hall⟩
    · exact absurd ((Item.allocated_load .block d c) ▸ hid) List.not_mem_nil
    · show ∀ b ∈ (c.load d).canvas.blocks, b.id = id → b.Complete p
      rcases load_blocks (c := c) (rules_of_drawing? ha hd).1 with ⟨hblocks, -⟩ | ⟨hcopy, -⟩
      · rw [hblocks]
        exact hall
      · exact absurd ⟨d, hd, hcopy⟩ hkept
  · exact htrace.complete hc (hid.imp_right And.right)

/-- **A block is complete from its creation on**, until an action replaces it. -/
theorem complete_of_run {early late : List Action} {a : Action}
    (h : ∀ x ∈ early ++ a :: late, x.Checked) (hlate : ∀ x ∈ late, ¬ x.Replaces p)
    (hid : id ∈ Item.block.allocated (a.effect p (run p early)).events) :
    ∀ b ∈ (run p (early ++ a :: late)).blocks, b.id = id → b.Complete p := by
  induction late using List.reverseRecOn with
  | nil =>
    rw [run_concat]
    have hbefore : ∀ x ∈ early, x.Checked := fun x hx ↦ h x (List.mem_append_left _ hx)
    exact complete_of_effect (h a (by simp)) (consistent_of_run hbefore) (.inl hid)
  | append_singleton late x ih =>
    have hsplit : early ++ a :: (late ++ [x]) = (early ++ a :: late) ++ [x] := by simp
    rw [hsplit] at h ⊢
    rw [run_concat]
    have hbefore : ∀ y ∈ early ++ a :: late, y.Checked := fun y hy ↦ h y (List.mem_append_left _ hy)
    refine complete_of_effect (h x (by simp)) (consistent_of_run hbefore)
      (.inr ⟨hlate x (by simp), ?_⟩)
    exact ih hbefore fun y hy ↦ hlate y (List.mem_append_left _ hy)

/-- **Bags of properties are typed.** Where all types are tidy, after every run of actions, whatever
they ask for and whichever documents they open: no property of a block has a reserved name, and
every declared property that is present is left as it is by its kind. And a block whose creation was
reported by some action has every property that its type declares, as long as no action after it
replaced the blocks on the canvas. -/
theorem typed_of_run {p : Palette} (hp : p.Tidy) {actions : List Action}
    (h : ∀ a ∈ actions, a.Checked) :
    (∀ b ∈ (run p actions).blocks, (∀ e ∈ b.properties, e.1 ∉ reservedNames) ∧
      ∀ t, p.get? b.type = some t → ∀ spec ∈ t.properties, ∀ key v, spec.name = .text key →
        Fields.get? b.properties key = some v → spec.kind.coerce v = .ok v) ∧
      ∀ early a late, actions = early ++ a :: late → (∀ x ∈ late, ¬ x.Replaces p) →
        ∀ id type, .blockCreated id type ∈ (a.effect p (run p early)).events →
          ∀ b ∈ (run p actions).blocks, b.id = id → b.Complete p := by
  constructor
  · intro b hb
    refine ⟨fun e he ↦ (unreserved_of_run hp h b hb).named e he e.1 rfl, ?_⟩
    intro t ht spec hspec key v hname hv
    have htidy : t.Tidy := hp t (List.mem_of_find?_eq_some ht)
    refine Kind.coerce_eq_self_iff.2 ((fitting_of_run hp h b hb).named (key, v) hv key spec rfl ?_)
    rw [specFor?_of_get? ht]
    exact htidy.propertyNamed?_eq_some_iff.2 ⟨hspec, hname⟩
  · rintro early a late rfl hlate id type hcreated
    exact complete_of_run h hlate (List.mem_filterMap.2 ⟨_, hcreated, rfl⟩)

/-- A function takes an argument without a stated type, a call is bound to it and copies the
argument, the entry point is made as wide as a text says, and reserved names are refused. -/
theorem typed_after_binding :
    let p := Palette.bundled
    let define : Action := .follow (.drop {
      type := .text "function-definition"
      properties := .object [("function_name", .text "f"),
        ("arguments", .list [.object [("name", .text "a")]])] })
    let call : Action := .follow (.create { type := .text "call-function" })
    let late : List Action := [.follow (.bindCall (.text "node_1") (.text "f")),
      .follow (.create { type := .text "main", properties := .object [("width", .text "1200.5")] }),
      .follow (.update (.text "node_1") (.object [("onDelete", .null)]))]
    let actions := define :: call :: late
    let argument := Kind.argumentValue ("a", "")
    (p.Tidy ∧ ∀ a ∈ actions, a.Checked) ∧
      (run p actions).blocks.map (fun b ↦ (b.id, Fields.get? b.properties "arguments")) =
        [("node_0", some (.list [argument])), ("node_1", some (.list [argument])),
          ("node_2", none)] ∧
      (∀ b ∈ (run p actions).blocks, (∀ e ∈ b.properties, e.1 ∉ reservedNames) ∧
        ∀ t, p.get? b.type = some t → ∀ spec ∈ t.properties, ∀ key v, spec.name = .text key →
          Fields.get? b.properties key = some v → spec.kind.coerce v = .ok v) ∧
      ∀ b ∈ (run p actions).blocks, b.id = "node_1" → b.Complete p := by
  intro p define call late actions argument
  have hchecked : ∀ a ∈ actions, a.Checked := by simp [actions, define, call, late, Action.Checked]
  have hlate : ∀ x ∈ late, ¬ x.Replaces p := by simp [late, Action.Replaces, Action.drawing?]
  obtain ⟨htyped, hcomplete⟩ := typed_of_run Palette.bundled_tidy hchecked
  refine ⟨⟨Palette.bundled_tidy, hchecked⟩, by decide +kernel, htyped, ?_⟩
  exact hcomplete [define] call late rfl hlate "node_1" "call-function" (by decide +kernel)

end Canvas

end FlowCanvas
