import FlowCanvas.Proofs.Rereading

/-!
# Writing and reading bring properties to the same form

Properties come to a block in two ways. What is written on a canvas is gone through **entry by
entry**: each is looked up among the declarations of the type, brought to its kind, or copied if
nothing is declared for it (`Canvas.validated`). What is read from a document is gone through
**declaration by declaration**: each looks for its entry and brings it to its kind in its place
(`Document.coerceDeclared`). Both are the same map on entries, `PropertySpec.Forms`, as long as no
text is declared twice: reading by induction on the declarations
(`coerceDeclared_eq_ok_iff_forall₂`), and writing at once (`validatedEntry_eq_ok_iff_forms`).

They do not refuse the same. Writing copies what is not declared, and what is nested too deeply
cannot be copied; reading takes it as it is. Reading looks every declared name up, and a list or an
object cannot be looked up; writing compares it with the names at hand. `validated_iff_read` says
that **nothing else** tells the two apart: what is written and what is read have the same names, in
the same order, with the same values.
-/

namespace FlowCanvas

open Checks

/-- What an entry becomes when it is brought to all the kinds under which it is declared. -/
def PropertySpec.Forms (specs : List PropertySpec) (e e' : String × Value) : Prop :=
  e'.1 = e.1 ∧ Kind.coerceAll (kindsOf specs e.1) e.2 = .ok e'.2

namespace Document

variable {id type : String} {specs : List PropertySpec} {properties properties' : Fields Value}

/-! ### Reading -/

theorem forms_nil_iff {e e' : String × Value} : PropertySpec.Forms [] e e' ↔ e = e' := by
  constructor
  · rintro ⟨hname, hvalue⟩
    exact Prod.ext hname.symm (Except.ok.inj hvalue)
  · rintro rfl
    exact ⟨rfl, rfl⟩

theorem forms_cons_of_ne {spec : PropertySpec} {e e' : String × Value} (h : spec.name ≠ .text e.1) :
    PropertySpec.Forms (spec :: specs) e e' ↔ PropertySpec.Forms specs e e' := by
  rw [PropertySpec.Forms, PropertySpec.kindsOf_cons_of_ne h, PropertySpec.Forms]

theorem forms_cons_self {spec : PropertySpec} {key : String} {v w : Value} {e' : String × Value}
    (hname : spec.name = .text key) (hcoerce : spec.kind.coerce v = .ok w) :
    PropertySpec.Forms (spec :: specs) (key, v) e' ↔ PropertySpec.Forms specs (key, w) e' := by
  have hfirst : Kind.coerceAll (PropertySpec.kindsOf (spec :: specs) key) v =
      spec.kind.coerce v >>= Kind.coerceAll (PropertySpec.kindsOf specs key) := by
    rw [PropertySpec.kindsOf_cons_self hname]
    rfl
  rw [PropertySpec.Forms, PropertySpec.Forms, hfirst, hcoerce]
  rfl

/-- A declaration leaves entries under other names as they are. -/
theorem forall₂_forms_cons {spec : PropertySpec} (h : ∀ e ∈ properties, spec.name ≠ .text e.1) :
    List.Forall₂ (PropertySpec.Forms (spec :: specs)) properties properties' ↔
      List.Forall₂ (PropertySpec.Forms specs) properties properties' := by
  constructor
  · intro hall
    exact ((List.forall₂_and_left _ _).2 ⟨h, hall⟩).imp fun _ _ he ↦ (forms_cons_of_ne he.1).1 he.2
  · intro hall
    exact ((List.forall₂_and_left _ _).2 ⟨h, hall⟩).imp fun _ _ he ↦ (forms_cons_of_ne he.1).2 he.2

/-- A declaration acts on its own entry only. -/
theorem forall₂_forms_set {spec : PropertySpec} {key : String} {v w : Value}
    (hdistinct : (Fields.keys properties).Nodup) (hname : spec.name = .text key)
    (hv : Fields.get? properties key = some v) (hcoerce : spec.kind.coerce v = .ok w) :
    List.Forall₂ (PropertySpec.Forms (spec :: specs)) properties properties' ↔
      List.Forall₂ (PropertySpec.Forms specs) (Fields.set properties key w) properties' := by
  induction properties generalizing properties' with
  | nil => exact absurd hv (by simp)
  | cons e rest ih =>
    obtain ⟨k, u⟩ := e
    obtain ⟨hnew, hrest⟩ := List.nodup_cons.1 hdistinct
    by_cases hk : k = key
    · subst hk
      obtain rfl : u = v := by simpa [Fields.get?] using hv
      have hothers : ∀ e ∈ rest, spec.name ≠ .text e.1 := by
        intro e he heq
        have hsame : k = e.1 := Value.text.inj (hname.symm.trans heq)
        have hmem : k ∈ Fields.keys rest := by
          rw [hsame]
          exact List.mem_map_of_mem he
        exact hnew hmem
      rw [Fields.set, if_pos rfl, List.forall₂_cons_left_iff, List.forall₂_cons_left_iff]
      simp only [forms_cons_self hname hcoerce, forall₂_forms_cons hothers]
    · have hv' : Fields.get? rest key = some v := by simpa [Fields.get?, hk] using hv
      have hne : spec.name ≠ .text (k, u).1 := by
        rw [hname]
        exact fun heq ↦ hk (Value.text.inj heq).symm
      rw [Fields.set, if_neg hk, List.forall₂_cons_left_iff, List.forall₂_cons_left_iff]
      simp only [forms_cons_of_ne hne, ih hrest hv']

/-- An entry that its first kind refuses is brought to nothing. -/
theorem not_forall₂_forms {spec : PropertySpec} {key : String} {v : Value} {why : Kind.Mismatch}
    (hname : spec.name = .text key) (hv : (key, v) ∈ properties)
    (hcoerce : spec.kind.coerce v = .error why) :
    ¬ List.Forall₂ (PropertySpec.Forms (spec :: specs)) properties properties' := by
  intro hall
  obtain ⟨e', -, -, hvalue⟩ := Canvas.exists_of_forall₂ hall.flip hv
  rw [PropertySpec.kindsOf_cons_self hname] at hvalue
  have hfirst : (spec.kind.coerce v >>= Kind.coerceAll (PropertySpec.kindsOf specs key)) =
      .ok e'.2 := hvalue
  rw [hcoerce] at hfirst
  exact absurd hfirst (by simp [bind, Except.bind])

/-- **What reading does to properties**: every declared name can be a name, and every entry is
brought to all its kinds, in its place. -/
theorem coerceDeclared_eq_ok_iff_forall₂ (hdistinct : (Fields.keys properties).Nodup) :
    coerceDeclared id type specs properties = .ok properties' ↔
      (∀ spec ∈ specs, spec.name.isName = true) ∧
        List.Forall₂ (PropertySpec.Forms specs) properties properties' := by
  induction specs generalizing properties with
  | nil =>
    have heq : PropertySpec.Forms [] = Eq := by
      funext e e'
      exact propext forms_nil_iff
    rw [coerceDeclared, heq, List.forall₂_eq_eq_eq, Except.ok.injEq]
    simp
  | cons spec rest ih =>
    rw [List.forall_mem_cons]
    by_cases hname : spec.name.isName = true
    · rw [and_iff_right hname]
      rcases absent_or_present spec properties with habsent | ⟨key, v, hkey, hv⟩
      · have hne : ∀ e ∈ properties, spec.name ≠ .text e.1 := by
          intro e he heq
          have hthere := Fields.get?_of_mem hdistinct he
          rw [habsent e.1 heq] at hthere
          exact absurd hthere (by simp)
        rw [coerceDeclared_absent hname habsent, ih hdistinct, forall₂_forms_cons hne]
      · rcases hcoerce : spec.kind.coerce v with why | w
        · rw [coerceDeclared_refused hkey hv hcoerce]
          refine iff_of_false (by simp) fun h ↦ ?_
          exact not_forall₂_forms hkey (Fields.mem_of_get? hv) hcoerce h.2
        · rw [coerceDeclared_present hkey hv hcoerce, ih (Fields.nodup_keys_set hdistinct),
            forall₂_forms_set hdistinct hkey hv hcoerce]
    · rw [coerceDeclared_unusable (by simpa using hname)]
      simp [hname]

end Document

/-! ### Writing -/

namespace Canvas

variable {p : Palette} {type : String} {patch properties : Fields Value} {e e' : String × Value}

/-- **What writing does to properties**: every entry is checked by itself. -/
theorem validated_eq_ok_iff : validated p type patch = .ok properties ↔
    List.Forall₂ (fun e e' ↦ validatedEntry p type e = .ok e') patch properties := by
  induction patch generalizing properties with
  | nil =>
    rw [validated, Except.ok.injEq, List.forall₂_nil_left_iff]
    exact eq_comm
  | cons e rest ih =>
    rw [validated, List.forall₂_cons_left_iff]
    rcases he : validatedEntry p type e with fault | e'
    · simp
    · rcases hrest : validated p type rest with fault | others
      · simp [← ih, hrest]
      · simp only [Except.ok.injEq, exists_and_left, exists_eq_left', ← ih, hrest]
        exact eq_comm

/-- Where no text is declared twice, writing brings an entry to the same form as reading; what is
not declared has to be copied. -/
theorem validatedEntry_eq_ok_iff_forms
    (honce : PropertySpec.Separate (Document.specsOf (some p) type)) (hname : e.1 ∉ reservedNames) :
    validatedEntry p type e = .ok e' ↔
      ((∀ spec ∈ Document.specsOf (some p) type, spec.name ≠ .text e.1) → e.2.isCopyable = true) ∧
        PropertySpec.Forms (Document.specsOf (some p) type) e e' := by
  have hfind : ((p.get? type).bind fun t ↦ t.property? e.1) =
      (Document.specsOf (some p) type).find? fun spec ↦ spec.isNamed e.1 := by
    rcases ht : p.get? type with - | t
    · simp [Document.specsOf, ht]
    · simp [Document.specsOf, ht, BlockType.property?]
  rw [validatedEntry, if_neg (by simpa using hname), hfind]
  generalize Document.specsOf (some p) type = specs at honce
  rcases hspec : specs.find? fun spec ↦ spec.isNamed e.1 with - | spec
  · have hundeclared : ∀ spec ∈ specs, spec.name ≠ .text e.1 := fun spec hmem ↦
      mt PropertySpec.isNamed_iff.2 (List.find?_eq_none.1 hspec spec hmem)
    rw [PropertySpec.Forms, PropertySpec.kindsOf_of_undeclared hundeclared,
      imp_iff_right hundeclared]
    have hkept : Kind.coerceAll [] e.2 = .ok e'.2 ↔ e.2 = e'.2 := by
      show Except.ok e.2 = Except.ok e'.2 ↔ _
      rw [Except.ok.injEq]
    rw [hkept]
    simp only [hspec]
    by_cases hcopy : e.2.isCopyable = true
    · rw [if_pos hcopy, Except.ok.injEq, and_iff_right hcopy, Prod.ext_iff, eq_comm (a := e.1)]
    · simp [hcopy]
  · have hmem := List.mem_of_find?_eq_some hspec
    have hnamed : spec.isNamed e.1 = true := by simpa using List.find?_some hspec
    have hkey : spec.name = .text e.1 := PropertySpec.isNamed_iff.1 hnamed
    have hdeclared : ¬ ∀ spec ∈ specs, spec.name ≠ .text e.1 := fun h ↦ h spec hmem hkey
    rw [PropertySpec.Forms, PropertySpec.kindsOf_of_separate honce hmem hkey]
    have hone : Kind.coerceAll [spec.kind] e.2 = spec.kind.coerce e.2 := by
      show (spec.kind.coerce e.2 >>= pure) = _
      exact bind_pure _
    rw [hone, and_iff_right fun h ↦ absurd h hdeclared]
    simp only [hspec]
    rcases spec.kind.coerce e.2 with why | w
    · simp
    · simp only [Except.ok.injEq, Prod.ext_iff]
      rw [eq_comm (a := e.1)]

/-- Where no text is declared twice, writing brings all entries to the same form as reading. -/
theorem validated_eq_ok_iff_forms (honce : PropertySpec.Separate (Document.specsOf (some p) type))
    (hfree : ∀ e ∈ patch, e.1 ∉ reservedNames) :
    validated p type patch = .ok properties ↔
      (∀ e ∈ patch, (∀ spec ∈ Document.specsOf (some p) type, spec.name ≠ .text e.1) →
        e.2.isCopyable = true) ∧
        List.Forall₂ (PropertySpec.Forms (Document.specsOf (some p) type)) patch properties := by
  rw [validated_eq_ok_iff, ← List.forall₂_and_left]
  constructor
  · intro hall
    exact ((List.forall₂_and_left _ _).2 ⟨hfree, hall⟩).imp fun _ _ he ↦
      (validatedEntry_eq_ok_iff_forms honce he.1).1 he.2
  · intro hall
    exact ((List.forall₂_and_left _ _).2 ⟨hfree, hall⟩).imp fun _ _ he ↦
      (validatedEntry_eq_ok_iff_forms honce he.1).2 he.2

end Canvas

/-! ### The two together -/

namespace Document

variable {p : Palette} {type : String} {v : Value} {source : Document} {r : BlockRecord}
  {properties : Fields Value}

/-- A document of one block without a parent fits together. -/
theorem linked_of_single {palette : Option Palette} (hblocks : source.blocks = [r])
    (hwires : source.wires = []) (hparent : r.parent = none) : source.Linked palette where
  blockIds := by simp [hblocks]
  parents := by
    intro b hb q hq
    rw [hblocks, List.mem_singleton] at hb
    rw [hb, hparent] at hq
    exact absurd hq (by simp)
  wireIds := by simp [hwires]
  ends := by simp [hwires]
  entryPoint := by
    intro p _
    rw [hblocks]
    exact List.countP_le_length

/-- What a document of one block is read as. -/
theorem ofValue_single_iff {palette : Option Palette} (hsource : ofInput v = .ok source)
    (hblocks : source.blocks = [r]) (hwires : source.wires = []) (hparent : r.parent = none) :
    (∃ d b, Drawing.ofValue palette v = .ok d ∧ d.blocks = [b] ∧ b.properties = properties) ↔
      ∃ b, r.toBlock palette = .ok b ∧ b.properties = properties := by
  have hlinked : source.Linked palette := linked_of_single hblocks hwires hparent
  have hopen : Drawing.ofValue palette v = source.toDrawing palette := by
    rw [Drawing.ofValue, hsource]
    rfl
  rw [hopen]
  constructor
  · rintro ⟨d, b, hd, hb, hproperties⟩
    have hall := (toDrawing_eq_ok hd).2.1
    rw [hblocks, hb] at hall
    exact ⟨b, (List.forall₂_cons.1 hall).1, hproperties⟩
  · rintro ⟨b, hb, hproperties⟩
    obtain ⟨d, hd⟩ := (toDrawing_isOk_iff hlinked).2 (by simp [hblocks, hb])
    have hall := (toDrawing_eq_ok hd).2.1
    rw [hblocks, List.forall₂_cons_left_iff] at hall
    obtain ⟨own, rest, hown, hrest, hd'⟩ := hall
    obtain rfl := Except.ok.inj (hb.symm.trans hown)
    rw [List.forall₂_nil_left_iff.1 hrest] at hd'
    exact ⟨d, b, hd, hd', hproperties⟩

/-- What the block of a record without reserved names holds. -/
theorem toBlock_properties_iff {palette : Option Palette} (htype : type ≠ "")
    (hstated : r.type = some type) (hdistinct : (Fields.keys r.data).Nodup)
    (hfree : ∀ e ∈ r.data, e.1 ∉ Canvas.reservedNames) :
    (∃ b, r.toBlock palette = .ok b ∧ b.properties = properties) ↔
      (∀ spec ∈ specsOf palette type, spec.name.isName = true) ∧
        List.Forall₂ (PropertySpec.Forms (specsOf palette type)) r.data properties := by
  have htypeId : r.typeId = type := by simp [BlockRecord.typeId, hstated, htype]
  have hkept : (r.data.filter fun e ↦ !Canvas.reservedNames.contains e.1) = r.data :=
    List.filter_eq_self.2 fun e he ↦ by simpa using hfree e he
  simp only [BlockRecord.toBlock_eq_ok_iff, htypeId, hkept,
    coerceDeclared_eq_ok_iff_forall₂ hdistinct]
  constructor
  · rintro ⟨b, ⟨out, h, rfl⟩, rfl⟩
    exact h
  · exact fun h ↦ ⟨_, ⟨properties, h, rfl⟩, rfl⟩

/-- A document of one block, as a value. -/
def single (version : String) (m : Metadata) (id type : String) (x y : Float)
    (properties : Fields Value) : Value :=
  .object [("version", .text version), ("metadata", m.toValue),
    ("nodes", .list [.object [("id", .text id), ("pluginId", .text type),
      ("position", (Point.ofFloats x y).toValue), ("data", .object properties)]]),
    ("edges", .list [])]

theorem ofInput_single (version : String) (m : Metadata) (id type : String) (x y : Float)
    (properties : Fields Value) :
    ofInput (single version m id type x y properties) =
      .ok ⟨version, m, [⟨id, some type, .ofFloats x y, properties, none⟩], []⟩ :=
  rfl

/-- **Writing and reading take the same properties and bring them to the same form.** Let no type of
the palette declare a text twice. For every type, known to the palette or not, all properties
without a reserved name, and every document of one block of that type with these data: they are
written as `q`, and the names that the type declares can be looked up, **exactly if** the block is
read with the properties `q`, and what is not declared is not nested too deeply to be copied. -/
theorem validated_iff_read (hp : ∀ t ∈ p.types, PropertySpec.Separate t.properties)
    (htype : type ≠ "") (hdistinct : (Fields.keys properties).Nodup)
    (hfree : ∀ e ∈ properties, e.1 ∉ Canvas.reservedNames) (version : String) (m : Metadata)
    (id : String) (x y : Float) (q : Fields Value) :
    Canvas.validated p type properties = .ok q ∧
        (∀ spec ∈ specsOf (some p) type, spec.name.isName = true) ↔
      (∃ d b, Drawing.ofValue (some p) (single version m id type x y properties) = .ok d ∧
        d.blocks = [b] ∧ b.properties = q) ∧
        ∀ e ∈ properties, (∀ spec ∈ specsOf (some p) type, spec.name ≠ .text e.1) →
          e.2.isCopyable = true := by
  have honce : PropertySpec.Separate (specsOf (some p) type) :=
    separate_specsOf (by rintro _ ⟨⟩; exact hp) type
  rw [ofValue_single_iff (ofInput_single version m id type x y properties) rfl rfl rfl,
    toBlock_properties_iff htype rfl hdistinct hfree, Canvas.validated_eq_ok_iff_forms honce hfree]
  tauto

/-- Numbers written as texts, one of them declared and one of them not, on the bundled palette. -/
theorem declared_number_written_and_read :
    let properties : Fields Value := [("note", .list [.text "7"]), ("width", .text "500")]
    let q : Fields Value := [("note", .list [.text "7"]), ("width", .int 500)]
    Canvas.validated .bundled "main" properties = .ok q ∧
      ∃ d b, Drawing.ofValue (some .bundled)
          (single currentVersion ⟨"flow", "then", "now"⟩ "a" "main" 0 0 properties) = .ok d ∧
        d.blocks = [b] ∧ b.properties = q := by
  intro properties q
  have hwritten : Canvas.validated .bundled "main" properties = .ok q := rfl
  have hread := (validated_iff_read (fun t ht ↦ (Palette.bundled_tidy t ht).once)
    (by decide) (by decide) (by decide) currentVersion ⟨"flow", "then", "now"⟩ "a" 0 0 q).1
    ⟨hwritten, by decide⟩
  exact ⟨hwritten, hread.1⟩

/-- **Properties that are read and cannot be written.** One that is not declared holds 700 lists
inside one another. -/
theorem deep_property_read_not_written :
    let properties : Fields Value := [("deep", wrapped 700)]
    (∃ d b, Drawing.ofValue (some .bundled)
        (single currentVersion ⟨"flow", "then", "now"⟩ "a" "debug" 0 0 properties) = .ok d ∧
      d.blocks = [b] ∧ b.properties = properties) ∧
      Canvas.validated .bundled "debug" properties = .error .tooDeep := by
  intro properties
  have hdeep : (wrapped 700).isCopyable = false := by
    rw [Value.isCopyable, depth_wrapped]
    rfl
  refine ⟨⟨_, _, rfl, rfl, rfl⟩, ?_⟩
  have hentry (v : Value) : Canvas.validatedEntry .bundled "debug" ("deep", v) =
      if v.isCopyable then .ok ("deep", v) else .error .tooDeep := rfl
  rw [Canvas.validated, hentry, hdeep]
  rfl

end Document

end FlowCanvas
