import FlowCanvas.Document.Basic
import FlowCanvas.Proofs.Checks
import FlowCanvas.Proofs.Records

/-!
# Documents as values

Reading the value of a document gives the document back (`Document.ofValue_toValue`). It does so
**if** every value in it is one that JSON can carry, since `portable` changes all others, and if the
coordinates are floats, since reading a point makes floats of them. Without the former, the data of
blocks comes back as JSON can carry it (`Document.ofValue_toValue_eq`). Entries that the format does
not know survive beside the data of a wire as long as they do not bear the name of one that it
knows.

The checks of a shape are taken apart into small facts about records: what is looked up in a record
that was just written is found, in whatever order the fields stand.
-/

namespace FlowCanvas

/-! ### Walks through values -/

namespace Value

theorem depth_pos (v : Value) : 0 < v.depth := by cases v <;> simp [depth]

section Faults

variable {α : Type} {own : Value → Option α} {deep : α}

mutual

/-- **A walk meets no fault** exactly if there is room for the depth of the value and nothing in it
has a fault of its own. -/
theorem firstFault?_eq_none_iff : (room : Nat) → (v : Value) →
    (firstFault? own deep room v = none ↔
      v.depth ≤ room ∧ v.holds (fun u ↦ (own u).isSome) = false)
  | 0, v => by simp [firstFault?, Nat.ne_of_gt v.depth_pos]
  | room + 1, list items => by
    rw [firstFault?, Option.or_eq_none_iff, itemFault?_eq_none_iff room items, depth, holds,
      Bool.or_eq_false_iff, Option.isSome_eq_false_iff, Option.isNone_iff_eq_none,
      Nat.add_le_add_iff_right, and_left_comm]
  | room + 1, object fields => by
    rw [firstFault?, Option.or_eq_none_iff, fieldFault?_eq_none_iff room fields, depth, holds,
      Bool.or_eq_false_iff, Option.isSome_eq_false_iff, Option.isNone_iff_eq_none,
      Nat.add_le_add_iff_right, and_left_comm]
  | room + 1, point x y => by
    rw [firstFault?, Option.or_eq_none_iff, Option.or_eq_none_iff, firstFault?_eq_none_iff room x,
      firstFault?_eq_none_iff room y, depth, holds, Bool.or_eq_false_iff, Bool.or_eq_false_iff,
      Option.isSome_eq_false_iff, Option.isNone_iff_eq_none, Nat.add_le_add_iff_right, Nat.max_le]
    tauto
  | room + 1, argument name type => by
    -- An argument counts for two, though nothing in it is looked at.
    cases room <;> simp [firstFault?, depth, holds]
  | _ + 1, null | _ + 1, bool _ | _ + 1, int _ | _ + 1, float _ | _ + 1, text _
  | _ + 1, callback => by
    simp [firstFault?, depth, holds]

theorem itemFault?_eq_none_iff (room : Nat) : (items : List Value) →
    (itemFault? own deep room items = none ↔
      itemDepth items ≤ room ∧ itemsHold (fun u ↦ (own u).isSome) items = false)
  | [] => by simp [itemFault?, itemDepth, itemsHold]
  | v :: rest => by
    rw [itemFault?, Option.or_eq_none_iff, firstFault?_eq_none_iff room v,
      itemFault?_eq_none_iff room rest, itemDepth, itemsHold, Bool.or_eq_false_iff, Nat.max_le,
      and_and_and_comm]

theorem fieldFault?_eq_none_iff (room : Nat) : (fields : List (String × Value)) →
    (fieldFault? own deep room fields = none ↔
      fieldDepth fields ≤ room ∧ fieldsHold (fun u ↦ (own u).isSome) fields = false)
  | [] => by simp [fieldFault?, fieldDepth, fieldsHold]
  | (_, v) :: rest => by
    rw [fieldFault?, Option.or_eq_none_iff, firstFault?_eq_none_iff room v,
      fieldFault?_eq_none_iff room rest, fieldDepth, fieldsHold, Bool.or_eq_false_iff, Nat.max_le,
      and_and_and_comm]

end

end Faults

mutual

/-- Nothing that JSON can carry holds a callback. -/
theorem holds_isCallback_eq_false : (v : Value) → v.obstacle? = none → v.holds isCallback = false
  | null, _ | bool _, _ | int _, _ | text _, _ | float _, _ => rfl
  | list items, h => itemsHold_isCallback_eq_false items h
  | object fields, h => fieldsHold_isCallback_eq_false fields h

theorem itemsHold_isCallback_eq_false : (items : List Value) → itemObstacle? items = none →
    itemsHold isCallback items = false
  | [], _ => rfl
  | v :: rest, h => by
    obtain ⟨hv, hrest⟩ := Option.or_eq_none_iff.1 h
    rw [itemsHold, holds_isCallback_eq_false v hv, itemsHold_isCallback_eq_false rest hrest,
      Bool.or_false]

theorem fieldsHold_isCallback_eq_false : (fields : List (String × Value)) →
    fieldObstacle? fields = none → fieldsHold isCallback fields = false
  | [], _ => rfl
  | (_, v) :: rest, h => by
    obtain ⟨hv, hrest⟩ := Option.or_eq_none_iff.1 h
    rw [fieldsHold, holds_isCallback_eq_false v hv, fieldsHold_isCallback_eq_false rest hrest,
      Bool.or_false]

end

/-! ### Values that JSON can carry -/

mutual

/-- A value without an obstacle is carried as it is. -/
theorem portable_eq_self : (v : Value) → v.obstacle? = none → v.portable = v
  | null, _ | bool _, _ | int _, _ | text _, _ => rfl
  | float x, h => by
    by_cases hx : x.isFinite = true
    · rw [portable, if_pos hx]
    · simp [obstacle?, hx] at h
  | list items, h => by rw [portable, portableItems_eq_self items h]
  | object fields, h => by rw [portable, portableFields_eq_self fields h]

theorem portableItems_eq_self : (items : List Value) → itemObstacle? items = none →
    portableItems items = items
  | [], _ => rfl
  | v :: rest, h => by
    obtain ⟨hv, hrest⟩ := Option.or_eq_none_iff.1 h
    rw [portableItems, portable_eq_self v hv, portableItems_eq_self rest hrest]

theorem portableFields_eq_self : (fields : List (String × Value)) → fieldObstacle? fields = none →
    portableFields fields = fields
  | [], _ => rfl
  | (k, v) :: rest, h => by
    obtain ⟨hv, hrest⟩ := Option.or_eq_none_iff.1 h
    rw [portableFields, portable_eq_self v hv, portableFields_eq_self rest hrest]

end

/-- The values of an object are carried one by one, under their names. -/
theorem portableFields_eq (fields : Fields Value) :
    portableFields fields = Fields.mapValues portable fields := by
  induction fields with
  | nil => rfl
  | cons e rest ih => rw [portableFields, ih, Fields.mapValues, Fields.mapValues, List.map_cons]

/-- Nothing in an object is in the way if nothing in its values is. -/
theorem fieldObstacle?_eq_none_iff {fields : Fields Value} :
    fieldObstacle? fields = none ↔ ∀ e ∈ fields, e.2.obstacle? = none := by
  induction fields with
  | nil => simp [fieldObstacle?]
  | cons e rest ih =>
    obtain ⟨k, v⟩ := e
    rw [fieldObstacle?, Option.or_eq_none_iff, ih, List.forall_mem_cons]

end Value

/-! ### Reading lists and mappings back -/

namespace Checked

open Shape

variable {α : Type}

/-- A field that may be absent is read back; whether it is left out or null makes no difference. -/
theorem optional_eq {fs : Fields Value} {key : String} {check : Value → Checked α}
    (toValue : α → Value) {o : Option α}
    (hget : (Fields.get? fs key).getD .null = (o.map toValue).getD .null)
    (hnull : ∀ a, toValue a ≠ .null) (hcheck : ∀ a, o = some a → check (toValue a) = .ok a) :
    optional fs key check = .ok o := by
  unfold optional
  rcases o with - | a
  · rcases hfound : Fields.get? fs key with - | v
    · rfl
    · obtain rfl : v = .null := by simpa [hfound] using hget
      rfl
  · rcases hfound : Fields.get? fs key with - | v
    · exact absurd (by simpa [hfound] using hget.symm) (hnull a)
    · obtain rfl : v = toValue a := by simpa [hfound] using hget
      split
      · next h => simp at h
      · next h => exact absurd (Option.some.inj h) (hnull a)
      · next v' _ h =>
        rw [← Option.some.inj h, hcheck a rfl]
        rfl

/-- A list is read item by item. -/
theorem items_map {check : Value → Checked α} {toValue : α → Value} {f : α → α} {as : List α}
    (h : ∀ a ∈ as, check (toValue a) = .ok (f a)) (i : Nat) :
    items check i (as.map toValue) = .ok (as.map f) := by
  induction as generalizing i with
  | nil => rfl
  | cons a rest ih =>
    obtain ⟨ha, hrest⟩ := List.forall_mem_cons.1 h
    rw [List.map_cons, items, ha, ih hrest]
    rfl

/-- A mapping of texts is read as it is. -/
theorem entries_text (mapping : Fields String) :
    entries text (Fields.mapValues .text mapping) = .ok mapping := by
  induction mapping with
  | nil => rfl
  | cons e rest ih =>
    have hmap : Fields.mapValues Value.text (e :: rest) =
        (e.1, .text e.2) :: Fields.mapValues .text rest := rfl
    rw [hmap, entries, ih]
    rfl

end Checked

namespace Document

open Shape

/-! ### Reading records back -/

theorem kindOf_kindValue (kind : ConnectionKind) : kindOf (kindValue kind) = .ok kind := by
  cases kind <;> rfl

/-- A mapping is written so that it is read back. -/
theorem mappingOf_mappingValue (mapping : Fields String) :
    mappingOf .value (mappingValue mapping) = .ok mapping := by
  show (Checked.entries Checked.text (Fields.mapValues .text mapping)).map _ = .ok mapping
  rw [Checked.entries_text]
  rfl

/-- A point that is made of floats is read back. -/
theorem pointOf_toValue (x y : Float) :
    pointOf .value (Point.ofFloats x y).toValue = .ok (.ofFloats x y) :=
  rfl

theorem metadataOf_toValue (m : Metadata) : metadataOf .value m.toValue = .ok m :=
  rfl

/-- A record with its data as JSON can carry it. -/
def BlockRecord.carried (r : BlockRecord) : BlockRecord :=
  { r with data := Fields.mapValues Value.portable r.data }

/-- **The record of a block is read back as JSON can carry it**, if its coordinates are floats. -/
theorem blockOf_toValue {r : BlockRecord} (h : ∃ x y, r.position = .ofFloats x y) :
    blockOf .value r.toValue = .ok r.carried := by
  obtain ⟨x, y, hposition⟩ := h
  obtain ⟨id, type, position, data, parent⟩ := r
  obtain rfl : position = .ofFloats x y := hposition
  rw [BlockRecord.toValue, Value.portable, Value.portableFields_eq]
  -- Which fields are written depends on the type and the parent.
  rcases type with - | type
  · rcases parent with - | parent <;> rfl
  · rcases parent with - | parent <;> rfl

/-- What the value of a record must be made of to be read back: floats for coordinates, and data
that JSON can carry. -/
structure BlockRecord.Portable (r : BlockRecord) : Prop where
  position : ∃ x y, r.position = .ofFloats x y
  data : ∀ e ∈ r.data, e.2.obstacle? = none

theorem BlockRecord.Portable.carried_eq {r : BlockRecord} (h : r.Portable) : r.carried = r := by
  have hdata : Fields.mapValues Value.portable r.data = r.data := by
    rw [← Value.portableFields_eq]
    exact Value.portableFields_eq_self r.data (Value.fieldObstacle?_eq_none_iff.2 h.data)
  rw [BlockRecord.carried, hdata]

/-- What else stands beside the data of a wire is known to JSON and not to the format. -/
def WireData.Portable (data : WireData) : Prop :=
  ∀ e ∈ data.extras, e.1 ∉ wireDataNames ∧ e.2.obstacle? = none

/-- What a wire carries along is read back if JSON can carry it. -/
theorem wireDataOf_toValue {data : WireData} (h : data.Portable) :
    wireDataOf .value data.toValue = .ok data := by
  obtain ⟨kind, mapping, extras⟩ := data
  have hportable : Value.portableFields extras = extras :=
    Value.portableFields_eq_self extras
      (Value.fieldObstacle?_eq_none_iff.2 fun e he ↦ (h e he).2)
  have hothers : (extras.filter fun e ↦ !wireDataNames.contains e.1) = extras :=
    List.filter_eq_self.2 fun e he ↦ by simpa using (h e he).1
  let fs : Fields Value := ("connectionType", (kind.map kindValue).getD .null) ::
    ("variableMapping", (mapping.map mappingValue).getD .null) :: extras
  have hkind : Checked.optional fs "connectionType" kindOf = .ok kind :=
    Checked.optional_eq kindValue rfl (fun _ ↦ by simp [kindValue]) fun k _ ↦ kindOf_kindValue k
  have hmapping : Checked.optional fs "variableMapping" (mappingOf .value) = .ok mapping :=
    Checked.optional_eq mappingValue rfl (fun _ ↦ by simp [mappingValue]) fun m _ ↦
      mappingOf_mappingValue m
  have hread : wireDataOf .value (.object fs) =
      (Checked.pair (Checked.optional fs "connectionType" kindOf)
        (Checked.optional fs "variableMapping" (mappingOf .value))).map fun r ↦
          ⟨r.1, r.2, extras.filter fun e ↦ !wireDataNames.contains e.1⟩ := rfl
  rw [WireData.toValue, hportable]
  show wireDataOf .value (.object fs) = _
  rw [hread, hkind, hmapping, hothers]
  rfl

/-- **The record of a wire is read back.** -/
theorem wireOf_toValue {w : WireRecord} (h : ∀ data, w.data = some data → data.Portable) :
    wireOf .value w.toValue = .ok w := by
  obtain ⟨id, source, target, kind, mapping, data⟩ := w
  let fs : Fields Value :=
    [("id", .text id), ("source", .text source), ("target", .text target)] ++
      fieldIf "connectionType" kindValue kind ++ fieldIf "variableMapping" mappingValue mapping ++
      fieldIf "data" WireData.toValue data
  have hkind : Checked.optional fs "connectionType" kindOf = .ok kind := by
    refine Checked.optional_eq kindValue ?_ (fun _ ↦ by simp [kindValue])
      fun k _ ↦ kindOf_kindValue k
    rcases kind with - | kind <;> rcases mapping with - | mapping <;> rcases data with - | data <;>
      rfl
  have hmapping : Checked.optional fs "variableMapping" (mappingOf .value) = .ok mapping := by
    refine Checked.optional_eq mappingValue ?_ (fun _ ↦ by simp [mappingValue])
      fun m _ ↦ mappingOf_mappingValue m
    rcases kind with - | kind <;> rcases mapping with - | mapping <;> rcases data with - | data <;>
      rfl
  have hdata : Checked.optional fs "data" (wireDataOf .value) = .ok data := by
    refine Checked.optional_eq WireData.toValue ?_ (fun _ ↦ by simp [WireData.toValue])
      fun data hd ↦ wireDataOf_toValue (h data hd)
    rcases kind with - | kind <;> rcases mapping with - | mapping <;> rcases data with - | data <;>
      rfl
  have hread : wireOf .value (.object fs) =
      (Checked.pair (.ok id) (Checked.pair (.ok source) (Checked.pair (.ok target)
        (Checked.pair (Checked.optional fs "connectionType" kindOf)
          (Checked.pair (Checked.optional fs "variableMapping" (mappingOf .value))
            (Checked.optional fs "data" (wireDataOf .value))))))).map
        fun r ↦ ⟨r.1, r.2.1, r.2.2.1, r.2.2.2.1, r.2.2.2.2.1, r.2.2.2.2.2⟩ := rfl
  show wireOf .value (.object fs) = _
  rw [hread, hkind, hmapping, hdata]
  rfl

/-! ### Reading documents back -/

/-- A document with the data of its blocks as JSON can carry it. -/
def carried (d : Document) : Document := { d with blocks := d.blocks.map BlockRecord.carried }

/-- What the value of a document is read as. -/
theorem ofValue_toValue_eq {d : Document}
    (hplaces : ∀ r ∈ d.blocks, ∃ x y, r.position = .ofFloats x y)
    (hwires : ∀ w ∈ d.wires, ∀ data, w.data = some data → data.Portable) :
    ofValue .value d.toValue = .ok d.carried := by
  have hblocks : Checked.list (blockOf .value) (.list (d.blocks.map BlockRecord.toValue)) =
      .ok (d.blocks.map BlockRecord.carried) :=
    Checked.items_map (fun r hr ↦ blockOf_toValue (hplaces r hr)) 0
  have hwires : Checked.list (wireOf .value) (.list (d.wires.map WireRecord.toValue)) =
      .ok d.wires :=
    (Checked.items_map (fun w hw ↦ wireOf_toValue (hwires w hw)) 0).trans (by rw [List.map_id'])
  have hread : ofValue .value d.toValue =
      (Checked.pair (.ok d.version) (Checked.pair (.ok d.metadata)
        (Checked.pair
          (Checked.within (.key "nodes")
            (Checked.list (blockOf .value) (.list (d.blocks.map BlockRecord.toValue))))
          (Checked.within (.key "edges")
            (Checked.list (wireOf .value) (.list (d.wires.map WireRecord.toValue))))))).map
        fun r ↦ ⟨r.1, r.2.1, r.2.2.1, r.2.2.2⟩ := rfl
  rw [hread, hblocks, hwires]
  rfl

/-- What the value of a document must be made of to be read back. -/
structure Portable (d : Document) : Prop where
  blocks : ∀ r ∈ d.blocks, r.Portable
  wires : ∀ w ∈ d.wires, ∀ data, w.data = some data → data.Portable

/-- **Reading the value of a document gives the document back.** -/
theorem ofValue_toValue {d : Document} (h : d.Portable) : ofValue .value d.toValue = .ok d := by
  have hcarried : d.blocks.map BlockRecord.carried = d.blocks :=
    (List.map_congr_left fun r hr ↦ (h.blocks r hr).carried_eq).trans (List.map_id d.blocks)
  rw [ofValue_toValue_eq (fun r hr ↦ (h.blocks r hr).position) h.wires, carried, hcarried]

/-- A document handed over as a value is read from it. -/
theorem ofInput_toValue {d : Document} (h : d.Portable) : ofInput d.toValue = .ok d :=
  ofValue_toValue h

end Document

/-! ### What is read -/

namespace Checked

open Shape

variable {α β : Type}

theorem within_eq_ok_iff {step : Step} {check : Checked α} {a : α} :
    within step check = .ok a ↔ check = .ok a := by
  cases check <;> simp [within]

theorem pair_eq_ok_iff {first : Checked α} {second : Checked β} {a : α} {b : β} :
    pair first second = .ok (a, b) ↔ first = .ok a ∧ second = .ok b := by
  cases first <;> cases second <;> simp [pair]

/-- A field that must be there was there. -/
theorem required_eq_ok {fs : Fields Value} {key : String} {check : Value → Checked α} {a : α}
    (h : required fs key check = .ok a) : ∃ v, Fields.get? fs key = some v ∧ check v = .ok a := by
  have hcheck := within_eq_ok_iff.1 h
  split at hcheck
  · next v hv => exact ⟨v, hv, hcheck⟩
  · exact absurd hcheck (by simp [flawed])

theorem optional_eq_ok {fs : Fields Value} {key : String} {check : Value → Checked α} {a : α}
    (h : optional fs key check = .ok (some a)) : ∃ v, check v = .ok a := by
  unfold optional at h
  split at h
  · exact absurd h (by simp)
  · exact absurd h (by simp)
  · next v _ _ =>
    obtain ⟨a', hcheck, ha⟩ := Checks.map_eq_ok_iff.1 (within_eq_ok_iff.1 h)
    exact ⟨v, Option.some.inj ha ▸ hcheck⟩

/-- A record that was not written as a text is read as it stands. -/
theorem record_eq_ok {source : Source} {v : Value} {fs : Fields Value}
    (h : record source v = .ok fs) (hwritten : source.written = false) : v = .object fs := by
  cases v with
  | object own =>
    rw [record, hwritten] at h
    exact congrArg Value.object (Except.ok.inj h)
  | _ => exact absurd h (by simp [record, flawed])

theorem fields_eq_ok {source : Source} {v : Value} {fs : Fields Value}
    (h : fields source v = .ok fs) :
    ∃ own, v = .object own ∧ (if source.written then Value.settledFields own else own) = fs := by
  cases v with
  | object own => exact ⟨own, rfl, Except.ok.inj h⟩
  | _ => exact absurd h (by simp [fields, flawed])

/-- Every item of what is read was read from an item. -/
theorem items_eq_ok {check : Value → Checked α} {i : Nat} {vs : List Value} {as : List α}
    (h : items check i vs = .ok as) : ∀ a ∈ as, ∃ v ∈ vs, check v = .ok a := by
  induction vs generalizing i as with
  | nil =>
    obtain rfl : [] = as := Except.ok.inj h
    exact fun _ ha ↦ absurd ha List.not_mem_nil
  | cons v rest ih =>
    obtain ⟨⟨a, as'⟩, hpair, rfl⟩ := Checks.map_eq_ok_iff.1 h
    obtain ⟨ha, has⟩ := pair_eq_ok_iff.1 hpair
    refine List.forall_mem_cons.2 ⟨⟨v, List.mem_cons_self, within_eq_ok_iff.1 ha⟩, fun a' ha' ↦ ?_⟩
    obtain ⟨w, hw, hcheck⟩ := ih has a' ha'
    exact ⟨w, List.mem_cons_of_mem _ hw, hcheck⟩

end Checked

namespace Document

open Checks Shape

/-- A place that is read is made of floats, whatever numbers stood for it. -/
theorem pointOf_eq_ok {source : Source} {v : Value} {q : Point} (h : pointOf source v = .ok q) :
    ∃ x y, q = .ofFloats x y := by
  obtain ⟨fs, -, h⟩ := bind_eq_ok_iff.1 h
  obtain ⟨⟨x, y⟩, -, rfl⟩ := map_eq_ok_iff.1 h
  exact ⟨x, y, rfl⟩

theorem blockOf_eq_ok {source : Source} {v : Value} {r : BlockRecord}
    (h : blockOf source v = .ok r) : ∃ x y, r.position = .ofFloats x y := by
  obtain ⟨fs, -, h⟩ := bind_eq_ok_iff.1 h
  obtain ⟨⟨id, type, position, data, parent⟩, hpair, rfl⟩ := map_eq_ok_iff.1 h
  obtain ⟨-, hpair⟩ := Checked.pair_eq_ok_iff.1 hpair
  obtain ⟨-, hpair⟩ := Checked.pair_eq_ok_iff.1 hpair
  obtain ⟨hposition, -⟩ := Checked.pair_eq_ok_iff.1 hpair
  obtain ⟨w, -, hw⟩ := Checked.required_eq_ok hposition
  exact pointOf_eq_ok hw

/-- The names in the data of a block are distinct, if it is read from a text or repeats none. -/
theorem nodup_of_blockOf {source : Source} {v : Value} {r : BlockRecord}
    (h : blockOf source v = .ok r) (hv : source.written = false → v.settled = v) :
    (Fields.keys r.data).Nodup := by
  obtain ⟨fs, hfs, h⟩ := bind_eq_ok_iff.1 h
  obtain ⟨⟨id, type, position, data, parent⟩, hpair, rfl⟩ := map_eq_ok_iff.1 h
  show (Fields.keys data).Nodup
  obtain ⟨-, hpair⟩ := Checked.pair_eq_ok_iff.1 hpair
  obtain ⟨-, hpair⟩ := Checked.pair_eq_ok_iff.1 hpair
  obtain ⟨-, hpair⟩ := Checked.pair_eq_ok_iff.1 hpair
  obtain ⟨hdata, -⟩ := Checked.pair_eq_ok_iff.1 hpair
  unfold dataOf at hdata
  split at hdata
  · obtain rfl := Except.ok.inj hdata
    exact List.nodup_nil
  · next w hw =>
    obtain ⟨own, rfl, rfl⟩ := Checked.fields_eq_ok (Checked.within_eq_ok_iff.1 hdata)
    split
    · exact Value.nodup_keys_settledFields own
    · next hwritten =>
      have hwritten : source.written = false := by simpa using hwritten
      obtain rfl := Checked.record_eq_ok hfs hwritten
      exact Value.nodup_of_settled (Value.settled_of_get? (hv hwritten) hw)

/-- Where the records of blocks are read from. -/
theorem ofValue_eq_ok {source : Source} {v : Value} {d : Document}
    (h : ofValue source v = .ok d) : ∀ r ∈ d.blocks, ∃ w, blockOf source w = .ok r ∧
      (source.written = false → v.settled = v → w.settled = w) := by
  obtain ⟨fs, hfs, h⟩ := bind_eq_ok_iff.1 h
  obtain ⟨⟨version, metadata, blocks, wires⟩, hpair, rfl⟩ := map_eq_ok_iff.1 h
  obtain ⟨-, hpair⟩ := Checked.pair_eq_ok_iff.1 hpair
  obtain ⟨-, hpair⟩ := Checked.pair_eq_ok_iff.1 hpair
  obtain ⟨hblocks, -⟩ := Checked.pair_eq_ok_iff.1 hpair
  obtain ⟨listed, hlisted, hread⟩ := Checked.required_eq_ok hblocks
  intro r hr
  unfold Checked.list at hread
  split at hread
  · obtain ⟨w, hw, hcheck⟩ := Checked.items_eq_ok hread r hr
    refine ⟨w, hcheck, fun hwritten hv ↦ ?_⟩
    obtain rfl := Checked.record_eq_ok hfs hwritten
    exact Value.settled_of_mem (Value.settled_of_get? hv hlisted) w hw
  · exact absurd hread (by simp [Checked.flawed])

/-- **A document read from any input has floats for places**, and distinct names in the data of its
blocks if the input repeats none. -/
theorem ofInput_eq_ok {v : Value} {d : Document} (h : ofInput v = .ok d) :
    ∀ r ∈ d.blocks, (∃ x y, r.position = .ofFloats x y) ∧
      (v.settled = v → (Fields.keys r.data).Nodup) := by
  intro r hr
  unfold ofInput at h
  split at h
  · unfold ofText at h
    split at h
    · exact absurd h (by simp [Checked.flawed])
    · obtain ⟨w, hw, -⟩ := ofValue_eq_ok h r hr
      exact ⟨blockOf_eq_ok hw, fun _ ↦ nodup_of_blockOf hw fun hwritten ↦
        absurd hwritten (by decide)⟩
  · obtain ⟨w, hw, hsettled⟩ := ofValue_eq_ok h r hr
    exact ⟨blockOf_eq_ok hw, fun hv ↦ nodup_of_blockOf hw fun hwritten ↦ hsettled hwritten hv⟩

end Document

end FlowCanvas
