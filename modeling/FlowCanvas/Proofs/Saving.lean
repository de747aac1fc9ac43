import FlowCanvas.Proofs.AllOrNothing
import FlowCanvas.Proofs.Fitting

/-!
# Canvases saved and opened again

A canvas with the bundled types is worked on from outside, with values that JSON can carry, and then
saved and opened again. `saved_iff` says after which runs it comes back as it was, block by block:
the label is a text or absent, every property has a text for its name, none is nested too deeply,
and no number is infinite or NaN (`Block.Lasting`).

Every other demand that saving and opening make is met **after every run**, because some check
stands in front of whatever could break it (`Block.Filed`): names of properties are distinct and not
reserved, declared properties have their form, places are floats. Nothing looks at labels, so a
label that is no text is written down and read as absent (`numeric_label_lost`). And a check is what
lets a number in that JSON cannot carry: the text `"inf"` is a numeral, and it is read before it is
kept.
-/

namespace FlowCanvas

/-! ### Distinct names -/

namespace Canvas

variable {p : Palette} {s : Supply} {c c' : Canvas} {es : List Event}

/-- The type of a block is known, and the names of its properties are distinct. -/
structure Orderly (p : Palette) (b : Block) : Prop where
  known : ∃ t, p.get? b.type = some t
  names : (Fields.keys b.properties).Nodup

theorem names_write {b : Block} (h : (Fields.keys b.properties).Nodup) (e : Value × Value) :
    (Fields.keys (b.write e).properties).Nodup := by
  unfold Block.write
  split
  · exact Fields.nodup_keys_set h
  · exact h

/-- Writing entries into a block repeats no name. -/
theorem names_foldl_write {b : Block} (h : (Fields.keys b.properties).Nodup)
    (entries : List (Value × Value)) :
    (Fields.keys (entries.foldl Block.write b).properties).Nodup := by
  induction entries generalizing b with
  | nil => exact h
  | cons e rest ih => exact ih (names_write h e)

/-- A step leaves every block orderly. -/
theorem Step.orderly (h : Step p s c es c') (hids : (c.blocks.map Block.id).Nodup)
    (hc : ∀ b ∈ c.blocks, Orderly p b) : ∀ b ∈ c'.blocks, Orderly p b := by
  intro b' hb'
  cases h.holding hids b' hb' with
  | kept b _ mem id type properties strays =>
    exact ⟨type ▸ (hc b mem).known, properties ▸ (hc b mem).names⟩
  | merged b patch properties label mem origin valid =>
    exact ⟨(hc b mem).known, Fields.nodup_keys_merge (hc b mem).names properties⟩
  | written b raw entries mem values valid =>
    refine ⟨?_, names_foldl_write (hc b mem).names entries⟩
    rw [type_foldl_write]
    exact (hc b mem).known
  | made n t properties position label within type defaults valid =>
    refine ⟨⟨t, ?_⟩, Fields.nodup_keys_merge (Fields.nodup_keys_ofList _) properties⟩
    show p.get? t.id = some t
    rwa [Palette.id_of_get? type]

end Canvas

/-! ### Values that JSON can carry -/

namespace Value

/-- Nothing in a list is in the way if nothing in its items is. -/
theorem itemObstacle?_eq_none_iff {items : List Value} :
    itemObstacle? items = none ↔ ∀ v ∈ items, v.obstacle? = none := by
  induction items with
  | nil => simp [itemObstacle?]
  | cons v rest ih => rw [itemObstacle?, Option.or_eq_none_iff, ih, List.forall_mem_cons]

/-- The items of a value are carried with it. -/
theorem obstacle?_of_items? {v : Value} (h : v.obstacle? = none) {items : List Value}
    (hitems : v.items? = some items) : ∀ item ∈ items, item.obstacle? = none := by
  cases v with
  | list own =>
    obtain rfl := Option.some.inj hitems
    exact itemObstacle?_eq_none_iff.1 h
  | text s =>
    obtain rfl := Option.some.inj hitems
    exact List.forall_mem_map.2 fun _ _ ↦ rfl
  | object fields =>
    obtain rfl := Option.some.inj hitems
    exact List.forall_mem_map.2 fun _ _ ↦ rfl
  | _ => exact absurd hitems (by simp [items?])

theorem obstacle?_of_entry {v : Value} (h : v.obstacle? = none) {e : Value × Value}
    (he : v.entry = .ok e) : e.2.obstacle? = none := by
  unfold entry at he
  split at he
  · exact absurd he (by simp)
  · next name value hitems =>
    split at he
    · obtain rfl := Except.ok.inj he
      exact obstacle?_of_items? h hitems value (by simp)
    · exact absurd he (by simp)
  · exact absurd he (by simp)

/-- Nor is anything in the way in the entries that a list is read as. -/
theorem obstacle?_of_entries {items : List Value} (h : ∀ v ∈ items, v.obstacle? = none)
    {es : List (Value × Value)} (hes : entries items = .ok es) :
    ∀ e ∈ es, e.2.obstacle? = none := by
  induction items generalizing es with
  | nil =>
    obtain rfl : [] = es := Except.ok.inj hes
    exact fun _ he ↦ absurd he List.not_mem_nil
  | cons v rest ih =>
    obtain ⟨hv, hrest⟩ := List.forall_mem_cons.1 h
    rw [entries] at hes
    split at hes
    · exact absurd hes (by simp)
    · next e he =>
      obtain ⟨others, hothers, rfl⟩ := Checks.map_eq_ok_iff.1 hes
      exact List.forall_mem_cons.2 ⟨obstacle?_of_entry hv he, ih hrest hothers⟩

/-- **The entries that a value stands for are carried with it.** -/
theorem obstacle?_of_record {v : Value} (h : v.obstacle? = none) {es : List (Value × Value)}
    (hes : v.record = .ok es) : ∀ e ∈ es, e.2.obstacle? = none := by
  unfold record at hes
  split at hes
  · next fields =>
    obtain rfl := Except.ok.inj hes
    exact List.forall_mem_map.2 (fieldObstacle?_eq_none_iff.1 h)
  · split at hes
    · exact absurd hes (by simp)
    · next items hitems =>
      obtain ⟨own, hown, rfl⟩ := Checks.map_eq_ok_iff.1 hes
      intro e he
      obtain ⟨e', he', hvalue⟩ := Stray.exists_of_mem_distinct he
      rw [← hvalue]
      exact obstacle?_of_entries (obstacle?_of_items? h hitems) hown e' he'

/-- JSON can carry a value but for its being a float that is not finite. -/
def AlmostCarried (v : Value) : Prop := v.obstacle? = none ∨ ∃ x, v = float x

theorem AlmostCarried.items {v : Value} (h : v.AlmostCarried) {items : List Value}
    (hitems : v.items? = some items) : (list items).obstacle? = none := by
  rcases h with h | ⟨x, rfl⟩
  · exact itemObstacle?_eq_none_iff.2 (obstacle?_of_items? h hitems)
  · exact absurd hitems (by simp [items?])

/-- What is almost carried is carried, unless it is an infinite number. -/
theorem AlmostCarried.obstacle? {v : Value} (h : v.AlmostCarried)
    (hfinite : ∀ x, v = float x → x.isFinite = true) : v.obstacle? = none := by
  rcases h with h | ⟨x, rfl⟩
  · exact h
  · rw [Value.obstacle?, if_pos (hfinite x rfl)]

end Value

/-! ### What is met after every run -/

/-- Callers hand over what JSON can carry. -/
def Supply.json : Supply := ⟨fun v ↦ v.obstacle? = none, fun v ↦ v.obstacle? = none⟩

namespace Instruction

/-- **An instruction in JSON values.** Loading is none, for what it takes is a drawing. -/
def InJson : Instruction → Prop
  | .create n | .drop n =>
    n.position.obstacle? = none ∧ n.properties.obstacle? = none ∧ n.label.obstacle? = none
  | .update _ patch => patch.obstacle? = none
  | .move _ position | .reparent _ _ position => position.obstacle? = none
  | .bindCall _ name => name.obstacle? = none
  | .load _ => False
  | _ => True

variable {i : Instruction}

theorem InJson.within (h : i.InJson) : i.Within .json := by
  have hrecord : ∀ v : Value, v.obstacle? = none → Supply.json.record v := by
    intro v hv entries hread
    rcases hown : v.record with why | own
    · exact absurd hread (by simp [recordOf, hown, Except.mapError])
    · obtain rfl : own = entries := by simpa [recordOf, hown, Except.mapError] using hread
      exact Value.obstacle?_of_record hv hown
  cases i with
  | create n => exact ⟨h.1, hrecord _ h.2.1, h.2.2⟩
  | drop n => exact ⟨h.1, hrecord _ h.2.1, h.2.2⟩
  | update id patch => exact hrecord _ h
  | move id position => exact h
  | reparent id parent position => exact .inr h
  | bindCall id name => exact h
  | _ => exact trivial

/-- Nothing that JSON can carry is a live point. -/
theorem InJson.fromOutside (h : i.InJson) : (Action.follow i).FromOutside := by
  have hplace : ∀ v : Value, v.obstacle? = none → Supply.outside.place v := by
    rintro v hv x y rfl
    exact absurd hv (by simp [Value.obstacle?])
  refine ⟨?_, fun d hd ↦ by rwa [hd] at h⟩
  cases i with
  | create n => exact ⟨hplace _ h.1, fun _ _ _ _ ↦ trivial, trivial⟩
  | drop n => exact ⟨hplace _ h.1, fun _ _ _ _ ↦ trivial, trivial⟩
  | update id patch => exact fun _ _ _ _ ↦ trivial
  | move id position => exact hplace _ h
  | reparent id parent position => exact .inr (hplace _ h)
  | _ => exact trivial

theorem InJson.drawing?_ne (h : i.InJson) (p : Palette) (d : Drawing) :
    (Action.follow i).drawing? p ≠ some d := by
  cases i with
  | load d' => exact h.elim
  | _ => simp [Action.drawing?]

/-- An instruction in JSON holds no drawing, and is never interrupted. -/
theorem InJson.not_interrupted (h : i.InJson) (p : Palette) :
    ¬ (Action.follow i).Interrupted p := by
  rintro ⟨d, hd, -⟩
  exact h.drawing?_ne p d hd

end Instruction

namespace Canvas

variable {p : Palette}

/-- **What a run in JSON values leaves of an entry**: it has its declared form, no reserved name,
and JSON can carry it but for a number that is not finite. -/
structure Tellable (p : Palette) (type : String) (e : Value × Value) : Prop where
  fitting : Fitting p type e
  unreserved : Unreserved e
  carried : e.2.AlmostCarried

theorem tellable_odd {type : String} {name v : Value} (hname : name.text? = none)
    (hv : v.AlmostCarried) : Tellable p type (name, v) :=
  ⟨fitting_odd hname, unreserved_odd hname, hv⟩

/-- Instructions in JSON uphold it that entries are tellable. -/
theorem upholds_tellable (hp : p.Tidy) : Upholds p .json (Tellable p) where
  defaults := by
    intro type t htype _
    have ht : t.Tidy := hp t (List.mem_of_find?_eq_some htype)
    have hcarried : ∀ spec ∈ t.properties, spec.default.AlmostCarried :=
      fun spec hspec ↦ Kind.obstacle?_of_isForm (Kind.coerce_eq_self_iff.1 (ht.defaults spec hspec))
    constructor
    · intro e he
      obtain ⟨spec, hspec, -, hdefault⟩ := exists_of_mem_defaults he
      exact ⟨fitting_default hp htype he, unreserved_default hp htype he,
        hdefault ▸ hcarried spec hspec⟩
    · intro x hx
      obtain ⟨spec, hspec, hdefault⟩ := exists_of_mem_strayDefaults hx
      exact tellable_odd (Stray.mem_of_mem_ofEntries hx).1 (hdefault ▸ hcarried spec hspec)
  checked := by
    intro type e e' he h
    refine ⟨fitting_checked h, unreserved_checked h, ?_⟩
    obtain ⟨-, -, ⟨spec, -, hcoerce⟩ | ⟨-, hsame, -⟩⟩ := checkedEntry_eq_ok h
    · exact Kind.obstacle?_of_isForm (Kind.isForm_of_coerce hcoerce)
    · rw [hsame]
      exact .inl he
  renamed := fun hname _ _ h ↦ tellable_odd hname h.carried
  arguments := fun h hitems ↦ h.carried.items hitems
  noArguments := rfl

end Canvas

/-- **What the format asks of a block and every run in JSON values meets.** -/
structure Block.Filed (p : Palette) (b : Block) : Prop where
  type : b.type ≠ ""
  position : ∃ x y, b.position = .ofFloats x y
  names : (Fields.keys b.properties).Nodup
  unreserved : ∀ e ∈ b.properties, e.1 ∉ Canvas.reservedNames
  carried : ∀ e ∈ b.properties, e.2.AlmostCarried
  declared : ∀ t, p.get? b.type = some t → ∀ spec ∈ t.properties, ∀ e ∈ b.properties,
    spec.name = .text e.1 → spec.kind.coerce e.2 = .ok e.2

/-- **What the format asks of a block besides.** -/
structure Block.Lasting (b : Block) : Prop where
  label : b.label = .null ∨ ∃ s, b.label = .text s
  /-- Every property has a text for its name. -/
  strays : b.strays = []
  shallow : ∀ e ∈ b.properties, e.2.fitsDepth = true
  finite : ∀ e ∈ b.properties, ∀ x, e.2 = .float x → x.isFinite = true

theorem Block.Filed.listed {p : Palette} {b : Block} (h : b.Filed p) (hstrays : b.strays = []) :
    b.Listed :=
  ⟨h.position, hstrays, h.names, h.unreserved⟩

/-- A filed block that lasts can be stored. -/
theorem Block.Filed.storable {p : Palette} {b : Block} (h : b.Filed p) (hb : b.Lasting) :
    b.Storable p where
  type := h.type
  label := hb.label
  position := h.position
  strays := hb.strays
  names := h.names
  unreserved := h.unreserved
  portable := fun e he ↦ (h.carried e he).obstacle? (hb.finite e he)
  declared := h.declared

namespace Canvas

variable {p : Palette} {instructions : List Instruction}

theorem forall_follow {P : Action → Prop} (h : ∀ i ∈ instructions, P (.follow i)) :
    ∀ a ∈ instructions.map Action.follow, P a :=
  List.forall_mem_map.2 h

/-- After every run of instructions in JSON, the blocks are orderly. -/
theorem orderly_of_run (h : ∀ i ∈ instructions, i.InJson) :
    ∀ b ∈ (run p (instructions.map .follow)).blocks, Orderly p b := by
  refine graph_induction (s := .json) (P := fun blocks _ ↦ ∀ b ∈ blocks, Orderly p b)
    (fun _ hb ↦ absurd hb List.not_mem_nil) (fun step hc ↦ step.orderly hc.blockIds) ?_
  exact forall_follow fun i hi ↦
    ⟨(h i hi).fromOutside.checked, (h i hi).within, fun d hd ↦ absurd hd ((h i hi).drawing?_ne p d)⟩

/-- **After every run of instructions in JSON, what blocks hold is tellable.** -/
theorem tellable_of_run (hp : p.Tidy) (h : ∀ i ∈ instructions, i.InJson) :
    Carries (.all Value) (Tellable p) (run p (instructions.map .follow)).blocks := by
  refine carries_of_run (upholds_tellable hp) (forall_follow fun i hi ↦ ?_)
  exact ⟨(h i hi).fromOutside.checked, (h i hi).within,
    fun d hd ↦ absurd hd ((h i hi).drawing?_ne p d)⟩

/-- **Every block is fit to be written down**, but for what nothing checks. -/
theorem filed_of_run (hp : p.Tidy) (hnameless : p.get? "" = none)
    (h : ∀ i ∈ instructions, i.InJson) :
    ∀ b ∈ (run p (instructions.map .follow)).blocks, b.Filed p := by
  intro b hb
  have hplaced := placed_run (p := p) (forall_follow fun i hi ↦ (h i hi).fromOutside)
  have horderly := orderly_of_run (p := p) h b hb
  have htellable := (tellable_of_run hp h b hb).named
  refine ⟨?_, hplaced b hb, horderly.names, fun e he ↦ (htellable e he).unreserved e.1 rfl,
    fun e he ↦ (htellable e he).carried, fun t ht spec hspec e he hname ↦ ?_⟩
  · intro hempty
    obtain ⟨t, ht⟩ := horderly.known
    rw [hempty, hnameless] at ht
    exact absurd ht (by simp)
  · have htidy : t.Tidy := hp t (List.mem_of_find?_eq_some ht)
    refine Kind.coerce_eq_self_iff.2 ((htellable e he).fitting e.1 spec rfl ?_)
    rw [specFor?_of_get? ht]
    exact htidy.propertyNamed?_eq_some_iff.2 ⟨hspec, hname⟩

end Canvas

/-! ### What comes back -/

namespace Document

variable {p : Palette} {b : Block}

/-- The label of a block that was read is a text or absent. -/
theorem label_of_toBlock {palette : Option Palette} {r : BlockRecord}
    (h : r.toBlock palette = .ok b) : b.label = .null ∨ ∃ s, b.label = .text s := by
  obtain ⟨properties, -, rfl⟩ := BlockRecord.toBlock_eq_ok_iff.1 h
  exact r.labelRead_eq

/-- The properties stand in a record as JSON can carry them. -/
theorem filter_carried (h : ∀ e ∈ b.properties, e.1 ∉ Canvas.reservedNames) :
    ((BlockRecord.written b).carried.data.filter fun e ↦ !Canvas.reservedNames.contains e.1) =
      Fields.mapValues Value.portable b.properties := by
  rw [BlockRecord.carried, Fields.mapValues, List.filter_map]
  exact congrArg _ (BlockRecord.filter_written h)

/-- **A block that comes back has no number that is not finite.** JSON carries null in its place,
and what is read as null stays null. -/
theorem finite_of_toBlock {palette : Option Palette} (hfiled : b.Filed p)
    (h : (BlockRecord.written b).carried.toBlock palette = .ok b) :
    ∀ e ∈ b.properties, ∀ x, e.2 = .float x → x.isFinite = true := by
  intro e he x hx
  by_contra hinfinite
  obtain ⟨properties, hcoerce, heq⟩ := BlockRecord.toBlock_eq_ok_iff.1 h
  obtain rfl : b.properties = properties := congrArg Block.properties heq
  rw [filter_carried hfiled.unreserved] at hcoerce
  have hget : Fields.get? b.properties e.1 = some (.float x) :=
    hx ▸ Fields.get?_of_mem hfiled.names he
  have hnull : Fields.get? (Fields.mapValues Value.portable b.properties) e.1 = some .null := by
    rw [Fields.get?_mapValues, hget, Option.map_some, Value.portable, if_neg hinfinite]
  have hread := get?_coerceDeclared_null hnull hcoerce
  rw [hget] at hread
  exact absurd hread (by simp)

/-- **A drawing that comes back was lasting.** -/
theorem lasting_of_reopened {d again : Drawing} (hfiled : ∀ b ∈ d.blocks, b.Filed p)
    (hwires : ∀ w ∈ d.wires, w.Storable) {clock : Clock} {name created now : Option String}
    {document : Document} {v : Value}
    (hwritten : ofDrawing clock ⟨.ofText? name, .ofText? created, .ofText? now⟩ d = .ok document)
    (hover : document.handedOver = .ok v) (hread : Drawing.ofValue (some p) v = .ok again)
    (hsame : again.blocks = d.blocks) : ∀ b ∈ d.blocks, b.Lasting := by
  have hstrays : ∀ b ∈ d.blocks, b.strays = [] := strays_of_ofDrawing hwritten
  -- Then there is one document only that can have been written.
  obtain ⟨m, -, -, heq⟩ := ofDrawing_eq_written (fun b hb ↦ (hfiled b hb).listed (hstrays b hb))
    hwires clock name created now
  obtain rfl : written m d = document := Except.ok.inj (heq.symm.trans hwritten)
  obtain ⟨hdepth, rfl⟩ := handedOver_written.1 hover
  have hplaces : ∀ r ∈ (written m d).blocks, ∃ x y, r.position = .ofFloats x y :=
    List.forall_mem_map.2 fun b hb ↦ (hfiled b hb).position
  rw [opened_toValue_eq hplaces portable_written] at hread
  obtain ⟨-, hblocks, -⟩ := toDrawing_eq_ok hread
  rw [hsame, carried, written, List.map_map, List.forall₂_map_left_iff,
    List.forall₂_same] at hblocks
  intro b hb
  exact ⟨label_of_toBlock (hblocks b hb), hstrays b hb,
    fun e he ↦ (hindrance?_eq_none_iff.1 ((hdepth b hb).2 e he)).1,
    finite_of_toBlock (hfiled b hb) (hblocks b hb)⟩

/-- **A lasting drawing comes back.** -/
theorem reopened_of_lasting {d : Drawing} (hsayable : ∀ b ∈ d.blocks, Canvas.Sayable p b)
    (hconsistent : Consistent p d.blocks d.wires) (hnested : Nested p d.blocks)
    (hfiled : ∀ b ∈ d.blocks, b.Filed p) (hwires : ∀ w ∈ d.wires, w.Storable)
    (h : ∀ b ∈ d.blocks, b.Lasting) (clock : Clock) (name created now : Option String) :
    ∃ document v again,
      ofDrawing clock ⟨.ofText? name, .ofText? created, .ofText? now⟩ d = .ok document ∧
      document.handedOver = .ok v ∧ Drawing.ofValue (some p) v = .ok again ∧
      again.blocks = d.blocks ∧ again.wires = d.wires := by
  have hd : d.Storable p :=
    ⟨hconsistent, hnested, fun b hb ↦ (hfiled b hb).storable (h b hb), hwires⟩
  obtain ⟨m, -, -, hwritten⟩ := ofDrawing_eq_written (fun b hb ↦ (hd.blocks b hb).listed) hwires
    clock name created now
  let again : Drawing := { d with name := some m.name, created := some m.created }
  refine ⟨written m d, _, again, hwritten,
    (handedOver_eq_ok_iff hd).2 ⟨fun b hb ↦ (h b hb).shallow, rfl⟩, ?_, rfl, rfl⟩
  rw [opened_toValue (written_portable hd)]
  exact (toDrawing_written hd).2 ⟨fun b hb ↦ forall_specsOf.1 (hsayable b hb), rfl⟩

end Document

namespace Canvas

/-- **After which runs a canvas comes back.** Whatever is asked of a canvas with the bundled types,
in JSON values and in any order, it can be saved under any name and opened again with the same
blocks and the same wires **exactly if** every label is a text or absent, every property has a text
for its name, none is nested too deeply, and no number is infinite or NaN. -/
theorem saved_iff {instructions : List Instruction} (h : ∀ i ∈ instructions, i.InJson)
    (clock : Clock) (name created now : Option String) :
    let p := Palette.bundled
    let d := (run p (instructions.map .follow)).drawing none
    (∃ document v again,
        Document.ofDrawing clock ⟨.ofText? name, .ofText? created, .ofText? now⟩ d = .ok document ∧
        document.handedOver = .ok v ∧ Drawing.ofValue (some p) v = .ok again ∧
        again.blocks = d.blocks ∧ again.wires = d.wires) ↔
      ∀ b ∈ d.blocks, b.Lasting := by
  intro p d
  have hchecked : ∀ a ∈ instructions.map Action.follow, a.Checked :=
    forall_follow fun i hi ↦ (h i hi).fromOutside.checked
  have hfiled : ∀ b ∈ d.blocks, b.Filed p := filed_of_run Palette.bundled_tidy (by decide) h
  have hwires : ∀ w ∈ d.wires, w.Storable := wires_of_run hchecked
  have hsound := sound_of_calm hchecked (forall_follow fun i hi ↦ (h i hi).not_interrupted p)
  constructor
  · rintro ⟨document, v, again, hwritten, hover, hread, hblocks, -⟩
    exact Document.lasting_of_reopened hfiled hwires hwritten hover hread hblocks
  · intro hlasting
    exact Document.reopened_of_lasting (sayable_of_run hchecked) hsound.consistent hsound.nested
      hfiled hwires hlasting clock name created now

/-- A block inside the entry point, which was made as wide as a text says, with a label, a property
that nothing declares and a wire that maps a variable: all of it comes back. -/
theorem nested_canvas_saved :
    let p := Palette.bundled
    let instructions : List Instruction := [
      .drop { type := .text "main", properties := .object [("width", .text "1200.5")] },
      .drop { type := .text "debug", properties := .object [("note", .list [.int 1, .null])] },
      .update (.text "node_1") (.object [("label", .text "Show"), ("variable", .text "x")]),
      .connect (.text "node_0") (.text "node_1")
        (.object [("connectionType", .text "function_call"),
          ("variableMapping", .object [("a", .int 1)])])]
    let d := (run p (instructions.map .follow)).drawing none
    let clock : Clock := ⟨2025, 1, 1, 10, 0, 0, 0⟩
    (∀ i ∈ instructions, i.InJson) ∧ (∀ b ∈ d.blocks, b.Lasting) ∧
      d.blocks.map (fun b ↦ (b.id, b.parent)) = [("node_0", none), ("node_1", some "node_0")] ∧
      ∃ document v again,
        Document.ofDrawing clock ⟨.ofText? (some "flow"), .ofText? none, .ofText? none⟩ d =
          .ok document ∧
        document.handedOver = .ok v ∧ Drawing.ofValue (some p) v = .ok again ∧
        again.blocks = d.blocks ∧ again.wires = d.wires := by
  intro p instructions d clock
  have hjson : ∀ i ∈ instructions, i.InJson := by
    simp [instructions, Instruction.InJson, Value.obstacle?, Value.fieldObstacle?,
      Value.itemObstacle?]
  have hblocks : ∀ b ∈ d.blocks, b.label.text?.isSome = true ∧ b.strays = [] ∧
      ∀ e ∈ b.properties, e.2.fitsDepth = true ∧ e.2.obstacle? = none := by decide +kernel
  have hlasting : ∀ b ∈ d.blocks, b.Lasting := by
    intro b hb
    obtain ⟨hlabel, hstrays, hproperties⟩ := hblocks b hb
    obtain ⟨s, hs⟩ := Option.isSome_iff_exists.1 hlabel
    refine ⟨.inr ⟨s, Value.text?_eq_some_iff.1 hs⟩, hstrays, fun e he ↦ (hproperties e he).1, ?_⟩
    intro e he x hx
    have hcarried := (hproperties e he).2
    rw [hx] at hcarried
    simpa [Value.obstacle?] using hcarried
  exact ⟨hjson, hlasting, by decide +kernel,
    (saved_iff hjson clock (some "flow") none none).2 hlasting⟩

/-- **A label that is no text is lost.** A block is made and its label set to a number. The canvas
is saved and opened without a complaint, and the label is absent. -/
theorem numeric_label_lost :
    let p := Palette.bundled
    let instructions : List Instruction := [
      .create { type := .text "debug" },
      .update (.text "node_0") (.object [("label", .int 7)])]
    let d := (run p (instructions.map .follow)).drawing none
    let clock : Clock := ⟨2025, 1, 1, 10, 0, 0, 0⟩
    (∀ i ∈ instructions, i.InJson) ∧ ∃ document v again,
      Document.ofDrawing clock ⟨.ofText? (some "flow"), .ofText? none, .ofText? none⟩ d =
        .ok document ∧
      document.handedOver = .ok v ∧ Drawing.ofValue (some p) v = .ok again ∧
      d.blocks.map Block.label = [.int 7] ∧ again.blocks.map Block.label = [.null] := by
  intro p instructions d clock
  have hjson : ∀ i ∈ instructions, i.InJson := by
    simp [instructions, Instruction.InJson, Value.obstacle?, Value.fieldObstacle?]
  have hlabels : ((Document.ofDrawing clock
      ⟨.ofText? (some "flow"), .ofText? none, .ofText? none⟩ d).toOption.bind fun document ↦
        document.handedOver.toOption.bind fun v ↦
          (Drawing.ofValue (some p) v).toOption.map fun again ↦ again.blocks.map Block.label) =
      some [.null] := by decide +kernel
  obtain ⟨document, hwritten, hlabels⟩ := Option.bind_eq_some_iff.1 hlabels
  obtain ⟨v, hover, hlabels⟩ := Option.bind_eq_some_iff.1 hlabels
  obtain ⟨again, hread, hlabels⟩ := Option.map_eq_some_iff.1 hlabels
  exact ⟨hjson, document, v, again, Checks.toOption_eq_some_iff.1 hwritten,
    Checks.toOption_eq_some_iff.1 hover, Checks.toOption_eq_some_iff.1 hread, by decide +kernel,
    hlabels⟩

end Canvas

end FlowCanvas
