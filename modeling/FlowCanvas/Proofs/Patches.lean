import FlowCanvas.Proofs.AllOrNothing
import FlowCanvas.Proofs.Coercions
import FlowCanvas.Proofs.Drag

/-!
# Patches compose

A patch of a block is a record: what stands under the name `label` becomes the label, and everything
else is brought to its declared form and written over the properties. Two patches one after the
other do what **one patch** does that is the first with the second written over it
(`patches_compose`).

The two sides meet in a different order. On the one side the raw patches are laid over each other,
split, and brought to form; on the other each is split and brought to form, and the results are laid
over the properties. So every step has to go along with writing records over each other: taking the
label out (`Fields.erase_merge`), bringing to form (`validated_merge`), and writing over the
properties (`Fields.merge_merge`). They hold for records without repeated names, as values and in
their order.
-/

namespace FlowCanvas

namespace Fields

variable {α : Type} {fields patch : Fields α} {key other : String} {v w : α}

/-! ### Records written over each other -/

theorem merge_cons (fields : Fields α) (e : String × α) (rest : Fields α) :
    merge fields (e :: rest) = merge (set fields e.1 e.2) rest :=
  rfl

theorem set_cons_of_eq {e : String × α} (h : e.1 = key) (rest : Fields α) (v : α) :
    set (e :: rest) key v = (e.1, v) :: rest :=
  if_pos h

theorem set_cons_of_ne {e : String × α} (h : e.1 ≠ key) (rest : Fields α) (v : α) :
    set (e :: rest) key v = e :: set rest key v :=
  if_neg h

theorem set_set_self (fields : Fields α) (key : String) (v w : α) :
    set (set fields key v) key w = set fields key w := by
  induction fields with
  | nil => simp [set]
  | cons e rest ih =>
    by_cases he : e.1 = key
    · simp [set, he]
    · simp [set, he, ih]

/-- The order in which two names are written does not matter if the first is there already. -/
theorem set_comm (hne : key ≠ other) (hkey : key ∈ keys fields) :
    set (set fields key v) other w = set (set fields other w) key v := by
  induction fields with
  | nil => exact absurd hkey List.not_mem_nil
  | cons e rest ih =>
    by_cases he : e.1 = key
    · simp [set, he, hne]
    · have hrest : key ∈ keys rest := (List.mem_cons.1 hkey).resolve_left (Ne.symm he)
      by_cases ho : e.1 = other
      · simp [set, ho, Ne.symm hne]
      · simp [set, he, ho, ih hrest]

/-- What is there already may be written before or after entries under other names. -/
theorem merge_set_comm (hnew : key ∉ keys patch) (hkey : key ∈ keys fields) :
    merge (set fields key v) patch = set (merge fields patch) key v := by
  induction patch generalizing fields with
  | nil => rfl
  | cons e rest ih =>
    obtain ⟨hne, hrest⟩ := not_or.1 (mt List.mem_cons.2 hnew)
    rw [merge_cons, merge_cons, set_comm hne hkey, ih hrest (mem_keys_set.2 (.inr hkey))]

/-- Writing a record with one more entry is writing the record and then the entry. -/
theorem merge_set (hpatch : (keys patch).Nodup) (fields : Fields α) :
    merge fields (set patch key v) = set (merge fields patch) key v := by
  induction patch generalizing fields with
  | nil => rfl
  | cons e rest ih =>
    obtain ⟨hfirst, hrest⟩ := List.nodup_cons.1 hpatch
    by_cases he : e.1 = key
    · subst he
      rw [set_cons_of_eq rfl, merge_cons, merge_cons,
        ← merge_set_comm hfirst (mem_keys_set.2 (.inl rfl)), set_set_self]
    · rw [set_cons_of_ne he, merge_cons, merge_cons, ih hrest]

/-- **Writing two records one after the other is writing the second over the first, and then
that.** -/
theorem merge_merge (hpatch : (keys patch).Nodup) (fields next : Fields α) :
    merge (merge fields patch) next = merge fields (merge patch next) := by
  induction next generalizing patch with
  | nil => rfl
  | cons e rest ih =>
    rw [merge_cons, merge_cons, ← merge_set hpatch, ih (nodup_keys_set hpatch)]

/-- Writing a record over itself changes nothing. -/
theorem merge_self (h : (keys fields).Nodup) : merge fields fields = fields := by
  have hthere : ∀ {patch : Fields α}, (∀ e ∈ patch, get? fields e.1 = some e.2) →
      merge fields patch = fields := by
    intro patch hall
    induction patch with
    | nil => rfl
    | cons e rest ih =>
      obtain ⟨hfirst, hrest⟩ := List.forall_mem_cons.1 hall
      rw [merge_cons, set_of_get? hfirst, ih hrest]
  exact hthere fun e he ↦ get?_of_mem h he

/-! ### Leaving a name out -/

theorem keys_erase (fields : Fields α) (key : String) :
    keys (erase fields key) = (keys fields).filter (· != key) := by
  rw [erase, keys, keys, List.filter_map]
  rfl

theorem nodup_keys_erase (h : (keys fields).Nodup) (key : String) :
    (keys (erase fields key)).Nodup := by
  rw [keys_erase]
  exact h.filter _

theorem erase_cons_self (fields : Fields α) (key : String) (v : α) :
    erase ((key, v) :: fields) key = erase fields key :=
  List.filter_cons_of_neg (by simp)

theorem erase_cons_of_ne (fields : Fields α) {e : String × α} (h : e.1 ≠ key) :
    erase (e :: fields) key = e :: erase fields key :=
  List.filter_cons_of_pos (by simpa using h)

theorem erase_set_self (fields : Fields α) (key : String) (v : α) :
    erase (set fields key v) key = erase fields key := by
  induction fields with
  | nil => exact erase_cons_self [] key v
  | cons e rest ih =>
    by_cases he : e.1 = key
    · subst he
      rw [set_cons_of_eq rfl, erase_cons_self]
      exact (erase_cons_self rest e.1 e.2).symm
    · rw [set_cons_of_ne he, erase_cons_of_ne _ he, erase_cons_of_ne _ he, ih]

theorem erase_set_of_ne (fields : Fields α) (v : α) (h : other ≠ key) :
    erase (set fields other v) key = set (erase fields key) other v := by
  induction fields with
  | nil => exact erase_cons_of_ne [] h
  | cons e rest ih =>
    by_cases ho : e.1 = other
    · have hkey : e.1 ≠ key := ho ▸ h
      have hkept : erase ((e.1, v) :: rest) key = (e.1, v) :: erase rest key :=
        erase_cons_of_ne _ hkey
      rw [set_cons_of_eq ho, hkept, erase_cons_of_ne _ hkey, set_cons_of_eq ho]
    · rw [set_cons_of_ne ho]
      by_cases he : e.1 = key
      · subst he
        exact (erase_cons_self _ e.1 e.2).trans (ih.trans (by rw [← erase_cons_self rest e.1 e.2]))
      · rw [erase_cons_of_ne _ he, erase_cons_of_ne _ he, set_cons_of_ne ho, ih]

/-- A name may be left out before or after one record is written over another. -/
theorem erase_merge (fields patch : Fields α) (key : String) :
    erase (merge fields patch) key = merge (erase fields key) (erase patch key) := by
  induction patch generalizing fields with
  | nil => rfl
  | cons e rest ih =>
    rw [merge_cons, ih]
    by_cases he : e.1 = key
    · subst he
      rw [erase_set_self]
      exact congrArg _ (erase_cons_self rest e.1 e.2).symm
    · rw [erase_set_of_ne fields e.2 he, erase_cons_of_ne rest he, merge_cons]

end Fields

namespace Canvas

variable {p : Palette} {type id : String} {c : Canvas} {b : Block}
  {patch first second properties properties' : Fields Value}

/-! ### Bringing to form -/

theorem fst_of_validatedEntry {e e' : String × Value} (h : validatedEntry p type e = .ok e') :
    e'.1 = e.1 := by
  rw [validatedEntry] at h
  split at h
  · exact absurd h (by simp)
  · split at h
    · split at h
      · rw [← Except.ok.inj h]
      · exact absurd h (by simp)
    · split at h
      · rw [← Except.ok.inj h]
      · exact absurd h (by simp)

theorem keys_validated (h : validated p type patch = .ok properties) :
    Fields.keys properties = Fields.keys patch := by
  have hall := validated_eq_ok_iff.1 h
  clear h
  induction hall with
  | nil => rfl
  | cons he _ ih => exact congrArg₂ List.cons (fst_of_validatedEntry he) ih

/-- With one more entry in the patch, what it is brought to has that entry in its form. -/
theorem validated_set {key : String} {v w : Value} (h : validated p type patch = .ok properties)
    (he : validatedEntry p type (key, v) = .ok (key, w)) :
    validated p type (Fields.set patch key v) = .ok (Fields.set properties key w) := by
  rw [validated_eq_ok_iff] at h ⊢
  induction h with
  | nil => exact .cons he .nil
  | @cons e e' patch properties hfirst hrest ih =>
    have hname : e'.1 = e.1 := fst_of_validatedEntry hfirst
    by_cases hkey : e.1 = key
    · rw [Fields.set_cons_of_eq hkey, Fields.set_cons_of_eq (hname.trans hkey), hname, hkey]
      exact .cons he hrest
    · rw [Fields.set_cons_of_ne hkey, Fields.set_cons_of_ne (hname ▸ hkey)]
      exact .cons hfirst ih

/-- **Patches may be written over each other before or after they are brought to form.** -/
theorem validated_merge (hfirst : validated p type first = .ok properties)
    (hsecond : validated p type second = .ok properties') :
    validated p type (Fields.merge first second) = .ok (Fields.merge properties properties') := by
  have hall := validated_eq_ok_iff.1 hsecond
  clear hsecond
  induction hall generalizing first properties with
  | nil => exact hfirst
  | @cons e e' second properties' he _ ih =>
    have hname := fst_of_validatedEntry he
    rw [Fields.merge_cons, Fields.merge_cons, hname]
    have hentry : (e.1, e'.2) = e' := Prod.ext hname.symm rfl
    exact ih (validated_set hfirst (hentry ▸ he))

end Canvas

/-! ### Updates -/

/-- A block with properties written over its own, and a label. -/
def Block.patched (properties : Fields Value) (label : Value) (b : Block) : Block :=
  { b with properties := Fields.merge b.properties properties, label := label }

namespace Canvas

variable {p : Palette} {id : String} {c : Canvas} {b : Block}
  {patch first second properties properties' : Fields Value}

open Checks

theorem block?_patched (hb : c.block? id = some b) (properties : Fields Value) (label : Value) :
    (c.modifyBlock id (Block.patched properties label)).block? id =
      some (b.patched properties label) := by
  rw [block?_modifyBlock (f := Block.patched properties label) (fun _ ↦ rfl), hb, Option.map_some,
    if_pos (mem_of_block? hb).2]

/-- Of two labels written to a block the second stays, and the properties are written over each
other. -/
theorem patched_patched (hdistinct : (Fields.keys properties).Nodup) (label label' : Value) :
    (c.modifyBlock id (Block.patched properties label)).modifyBlock id
        (Block.patched properties' label') =
      c.modifyBlock id (Block.patched (Fields.merge properties properties') label') := by
  rw [modifyBlock_modifyBlock (f := Block.patched properties label) (fun _ ↦ rfl)]
  refine congrArg (c.modifyBlock id) (funext fun b ↦ ?_)
  show Block.patched properties' label' (Block.patched properties label b) = _
  rw [Block.patched, Block.patched, Block.patched, Fields.merge_merge hdistinct]

/-- Asks for a patch of a block. -/
def amend (p : Palette) (v : Value) (patch : Fields Value) (c : Canvas) : Outcome Reply :=
  c.follow p (.update v (.object patch))

/-- What asking for a patch of a block of the canvas comes to. -/
theorem amend_eq (hb : c.block? id = some b) (patch : Fields Value) :
    c.amend p (.text id) patch = (c.updateBlock p id patch).map fun _ ↦ .done := by
  obtain ⟨-, rfl⟩ := mem_of_block? hb
  have hrecord : Instruction.recordOf (.object patch) =
      .ok (patch.map fun e ↦ (.text e.1, e.2)) := rfl
  have hread : (Instruction.update (.text b.id) (.object patch)).read p c =
      .ok (.edit (.update b.id patch)) := by
    simp only [Instruction.read, blockNamed_text hb, hrecord, textFields?_map_text, bind,
      Except.bind]
    rfl
  rw [amend, follow, hread]
  rfl

/-- **A patch is carried out if the block is there and the patch can be brought to form.** Then its
properties and its label are written, and nothing else. -/
theorem amend_of_validated (hb : c.block? id = some b)
    (hvalid : validated p b.type (Fields.erase patch "label") = .ok properties) :
    (c.amend p (.text id) patch).result = .ok .done ∧
      (c.amend p (.text id) patch).canvas = c.modifyBlock id
        (Block.patched properties ((Fields.get? patch "label").getD b.label)) := by
  rw [amend_eq hb, updateBlock, block_eq_ok_iff.2 hb, Outcome.given, hvalid]
  exact ⟨rfl, rfl⟩

/-- **And only then.** -/
theorem validated_of_amend {v : Value} {reply : Reply}
    (h : (c.amend p v patch).result = .ok reply) :
    ∃ b properties, v = .text b.id ∧ c.block? b.id = some b ∧
      validated p b.type (Fields.erase patch "label") = .ok properties := by
  obtain ⟨reading, hread, -⟩ := Outcome.given_eq_ok h
  obtain ⟨b, hb, -⟩ := bind_eq_ok_iff.1 hread
  obtain ⟨rfl, hfound⟩ := eq_text_of_blockNamed hb
  rw [amend_eq hfound] at h
  obtain ⟨⟨⟩, hupdate, -⟩ := map_eq_ok_iff.1 h
  obtain ⟨b', hb', hgiven⟩ := Outcome.given_eq_ok hupdate
  obtain rfl : b' = b := Option.some.inj ((block_eq_ok_iff.1 hb').symm.trans hfound)
  rw [updateBlock, hgiven] at hupdate
  obtain ⟨properties, hvalid, -⟩ := Outcome.given_eq_ok hupdate
  exact ⟨b', properties, rfl, hfound, hvalid⟩

/-- **Patches compose.** On any canvas, if a patch of a block comes through and a second patch of it
after that, then the first with the second written over it comes through at once, and leads to the
same canvas. The canvas differs from the one before in the block alone: the properties of the two
patches, brought to form, are written over its own, and its label is the last that was given. A
patch that came through may be repeated, and then changes nothing. -/
theorem patches_compose {v : Value} {reply reply' : Reply} (hfirst : (Fields.keys first).Nodup)
    (hsecond : (Fields.keys second).Nodup) (h : (c.amend p v first).result = .ok reply)
    (h' : ((c.amend p v first).canvas.amend p v second).result = .ok reply') :
    ((c.amend p v (Fields.merge first second)).result = .ok .done ∧
        (c.amend p v (Fields.merge first second)).canvas =
          ((c.amend p v first).canvas.amend p v second).canvas) ∧
      (∃ b properties, v = .text b.id ∧ c.block? b.id = some b ∧
        validated p b.type (Fields.erase (Fields.merge first second) "label") = .ok properties ∧
        (c.amend p v (Fields.merge first second)).canvas =
          c.modifyBlock b.id (Block.patched properties
            (((Fields.get? second "label").or (Fields.get? first "label")).getD b.label))) ∧
      ((c.amend p v first).canvas.amend p v first).result = .ok .done ∧
        ((c.amend p v first).canvas.amend p v first).canvas = (c.amend p v first).canvas := by
  obtain ⟨b, properties, rfl, hb, hvalid⟩ := validated_of_amend h
  obtain ⟨-, hafter⟩ := amend_of_validated hb hvalid
  have hb' := block?_patched hb properties ((Fields.get? first "label").getD b.label)
  have hdistinct : (Fields.keys properties).Nodup := by
    rw [keys_validated hvalid]
    exact Fields.nodup_keys_erase hfirst "label"
  rw [hafter] at h' ⊢
  obtain ⟨b', properties', hid, hfound, hvalid'⟩ := validated_of_amend h'
  obtain rfl : b' = b.patched properties ((Fields.get? first "label").getD b.label) := by
    rw [Value.text.injEq] at hid
    exact Option.some.inj (hfound.symm.trans (hid ▸ hb'))
  obtain ⟨-, htwice⟩ := amend_of_validated hb' hvalid'
  -- The first patch again finds the block with its type, and has nothing new to write.
  obtain ⟨hagain, hsame⟩ := amend_of_validated hb' hvalid
  have hmerged : validated p b.type (Fields.erase (Fields.merge first second) "label") =
      .ok (Fields.merge properties properties') := by
    rw [Fields.erase_merge]
    exact validated_merge hvalid hvalid'
  have hlabel : (Fields.get? (Fields.merge first second) "label").getD b.label =
      (Fields.get? second "label").getD ((Fields.get? first "label").getD b.label) := by
    rw [Fields.get?_merge hsecond]
    cases Fields.get? second "label" <;> rfl
  obtain ⟨honce, hcanvas⟩ := amend_of_validated hb hmerged
  refine ⟨⟨honce, ?_⟩, ⟨b, _, rfl, hb, hmerged, ?_⟩, hagain, ?_⟩
  · rw [hcanvas, htwice, patched_patched hdistinct, hlabel]
    rfl
  · rw [hcanvas, Fields.get?_merge hsecond]
  · have hkept : (Fields.get? first "label").getD ((Fields.get? first "label").getD b.label) =
        (Fields.get? first "label").getD b.label := by
      cases Fields.get? first "label" <;> rfl
    rw [hsame, patched_patched hdistinct, Fields.merge_self hdistinct]
    exact congrArg (fun label ↦ c.modifyBlock b.id (Block.patched properties label)) hkept

/-- A function is given a width as a text and a remark, and then a label, another width and another
property. -/
theorem patches_compose_on_function :
    let p := Palette.bundled
    let c := run p [.follow (.create { type := .text "function-definition" })]
    let first : Fields Value := [("remark", .list [.null]), ("width", .text "12.0")]
    let second : Fields Value := [("label", .text "f"), ("width", .text "500"), ("color", .int 3)]
    let overlay : Fields Value :=
      [("remark", .list [.null]), ("width", .text "500"), ("label", .text "f"), ("color", .int 3)]
    ((Fields.keys first).Nodup ∧ (Fields.keys second).Nodup ∧ Fields.merge first second = overlay) ∧
      (c.amend p (.text "node_0") first).result = .ok .done ∧
        ((c.amend p (.text "node_0") first).canvas.amend p (.text "node_0") second).result =
          .ok .done ∧
        (c.amend p (.text "node_0") overlay).canvas =
          ((c.amend p (.text "node_0") first).canvas.amend p (.text "node_0") second).canvas ∧
        (c.amend p (.text "node_0") overlay).canvas.blocks.map
            (fun b ↦ (b.label, b.properties.drop 4)) =
          [(.text "f", [("height", .int 300), ("remark", .list [.null]), ("color", .int 3)])] := by
  intro p c first second overlay
  have hmerge : Fields.merge first second = overlay := by decide +kernel
  have hfirst : (c.amend p (.text "node_0") first).result = .ok .done :=
    toOption_eq_some_iff.1 (by decide +kernel)
  have hsecond :
      ((c.amend p (.text "node_0") first).canvas.amend p (.text "node_0") second).result =
      .ok .done := toOption_eq_some_iff.1 (by decide +kernel)
  obtain ⟨⟨-, hcanvas⟩, -⟩ := patches_compose (by decide) (by decide) hfirst hsecond
  rw [hmerge] at hcanvas
  exact ⟨⟨by decide, by decide, hmerge⟩, hfirst, hsecond, hcanvas, by decide +kernel⟩

end Canvas

end FlowCanvas
