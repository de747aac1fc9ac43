import FlowCanvas.Palette.Bundled
import FlowCanvas.Proofs.Contents

/-!
# Properties of the declared form

On a canvas whose types are *tidy*, a property that is declared has the form of its kind, and none
bears a reserved name, after every run (`fitting_of_run`, `unreserved_of_run`). It comes onto the
canvas as a default of that form, or through a check that brings it to the form, or out of a
document, whose reader brings it there as well.

A type is tidy if no text is declared twice or is reserved, and every default is of its kind. The
bundled types are (`Palette.bundled_tidy`). A type that declares a name twice has two forms for it,
and the first one is asked for; a type whose default has another form hands that out. What a type
declares under something that is no text stands beside the record, and nothing is said of it here.

Documents may repeat a name. Only the entry that is found under it is brought to its form, so the
result is about the entries that are found.
-/

namespace FlowCanvas

open Canvas Checks

/-- **No text is declared twice or is reserved, and every default is of its kind.** -/
structure BlockType.Tidy (t : BlockType) : Prop where
  unreserved : ∀ spec ∈ t.properties, ∀ key, spec.name = .text key → key ∉ reservedNames
  once : PropertySpec.Separate t.properties
  defaults : ∀ spec ∈ t.properties, spec.kind.coerce spec.default = .ok spec.default

/-- All types of a palette are tidy. -/
def Palette.Tidy (p : Palette) : Prop := ∀ t ∈ p.types, t.Tidy

/-- **The bundled types are tidy.** -/
theorem Palette.bundled_tidy : bundled.Tidy := by
  have hchecked : ∀ t ∈ bundled.types, (t.properties.map PropertySpec.name).Nodup ∧
      ∀ spec ∈ t.properties, spec.kind.coerce spec.default = .ok spec.default ∧
        ∀ key ∈ reservedNames, spec.name ≠ .text key := by decide
  intro t ht
  obtain ⟨honce, hspecs⟩ := hchecked t ht
  exact ⟨fun spec hspec key hname hkey ↦ (hspecs spec hspec).2 key hkey hname,
    PropertySpec.separate_of_nodup honce, fun spec hspec ↦ (hspecs spec hspec).1⟩

/-! ### Looking up what is declared -/

/-- In a tidy type a name finds the one property that has it. -/
theorem BlockType.Tidy.propertyNamed?_eq_some_iff {t : BlockType} (ht : t.Tidy)
    {spec : PropertySpec} {key : String} :
    t.propertyNamed? (.text key) = some spec ↔ spec ∈ t.properties ∧ spec.name = .text key := by
  have hnamed : ∀ {other : PropertySpec}, t.propertyNamed? (.text key) = some other →
      other.name = .text key := fun h ↦
    same_text_iff.1 (List.find?_some (p := fun s : PropertySpec ↦ Value.same s.name (.text key)) h)
  constructor
  · exact fun h ↦ ⟨List.mem_of_find?_eq_some h, hnamed h⟩
  · rintro ⟨hspec, hname⟩
    obtain ⟨other, hother⟩ : ∃ other, t.propertyNamed? (.text key) = some other := by
      refine Option.isSome_iff_exists.1 (List.find?_isSome.2 ⟨spec, hspec, ?_⟩)
      exact same_text_iff.2 hname
    -- Names are declared once, so what is found is the one that is there.
    obtain rfl : other = spec :=
      ht.once.eq (List.mem_of_find?_eq_some hother) hspec (hnamed hother) hname
    exact hother

/-! ### Entries of the declared form -/

namespace Canvas

variable {p : Palette} {type : String} {t : BlockType}

/-- An entry of a block of some type has the form of the kind for which its name is declared, if the
name is a text and it is declared. -/
def Fitting (p : Palette) (type : String) (e : Value × Value) : Prop :=
  ∀ key spec, e.1 = .text key → specFor? p type (.text key) = some spec → spec.kind.IsForm e.2

/-- An entry has no reserved name. -/
def Unreserved (e : Value × Value) : Prop := ∀ key, e.1 = .text key → key ∉ reservedNames

theorem specFor?_of_get? (h : p.get? type = some t) (name : Value) :
    specFor? p type name = t.propertyNamed? name := by
  rw [specFor?, h]
  rfl

theorem ne_text_of_text? {name : Value} (hname : name.text? = none) (key : String) :
    name ≠ .text key := by
  rintro rfl
  exact absurd hname (by simp [Value.text?])

theorem fitting_odd {name v : Value} (hname : name.text? = none) : Fitting p type (name, v) :=
  fun key _ hkey ↦ absurd hkey (ne_text_of_text? hname key)

theorem unreserved_odd {name v : Value} (hname : name.text? = none) : Unreserved (name, v) :=
  fun key hkey ↦ absurd hkey (ne_text_of_text? hname key)

/-- What a tidy type puts into a block has the form that the type declares. -/
theorem fitting_default (hp : p.Tidy) (htype : p.get? type = some t) {e : String × Value}
    (he : e ∈ t.defaults) : Fitting p t.id (.text e.1, e.2) := by
  have ht : t.Tidy := hp t (List.mem_of_find?_eq_some htype)
  obtain ⟨spec, hspec, hname, hdefault⟩ := exists_of_mem_defaults he
  rintro key spec' ⟨⟩ hspec'
  rw [Palette.id_of_get? htype, specFor?_of_get? htype,
    ht.propertyNamed?_eq_some_iff.2 ⟨hspec, hname⟩] at hspec'
  obtain rfl := Option.some.inj hspec'
  exact hdefault ▸ Kind.coerce_eq_self_iff.1 (ht.defaults spec hspec)

/-- What a tidy type puts into a block has no reserved name. -/
theorem unreserved_default (hp : p.Tidy) (htype : p.get? type = some t) {e : String × Value}
    (he : e ∈ t.defaults) : Unreserved (.text e.1, e.2) := by
  obtain ⟨spec, hspec, hname, -⟩ := exists_of_mem_defaults he
  rintro key ⟨⟩
  exact (hp t (List.mem_of_find?_eq_some htype)).unreserved spec hspec e.1 hname

/-- **What has passed the check has the declared form.** -/
theorem fitting_checked {e e' : Value × Value} (h : checkedEntry p type e = .ok e') :
    Fitting p type e' := by
  obtain ⟨hname, -, hvalue⟩ := checkedEntry_eq_ok h
  intro key spec' hkey hspec'
  rw [← hkey, hname] at hspec'
  rcases hvalue with ⟨spec, hspec, hcoerce⟩ | ⟨hnone, -⟩
  · obtain rfl := Option.some.inj (hspec.symm.trans hspec')
    exact Kind.isForm_of_coerce hcoerce
  · rw [hnone] at hspec'
    exact absurd hspec' (by simp)

/-- What has passed the check has no reserved name. -/
theorem unreserved_checked {e e' : Value × Value} (h : checkedEntry p type e = .ok e') :
    Unreserved e' := by
  obtain ⟨hname, hfree, -⟩ := checkedEntry_eq_ok h
  exact fun key hkey ↦ hfree key (hname ▸ hkey)

/-- The declared form is asked for on every route, whatever callers hand over. -/
theorem upholds_fitting (hp : p.Tidy) {s : Supply} (hs : ∀ v, s.value v) :
    Upholds p s (Fitting p) where
  defaults := fun htype _ ↦ ⟨fun _ he ↦ fitting_default hp htype he,
    fun _ hx ↦ fitting_odd (Stray.mem_of_mem_ofEntries hx).1⟩
  checked := fun _ h ↦ fitting_checked h
  renamed := fun hname _ _ _ ↦ fitting_odd hname
  arguments := fun _ _ ↦ hs _
  noArguments := hs _

/-- Reserved names are kept out on every route. -/
theorem upholds_unreserved (hp : p.Tidy) {s : Supply} (hs : ∀ v, s.value v) :
    Upholds p s fun _ ↦ Unreserved where
  defaults := fun htype _ ↦ ⟨fun _ he ↦ unreserved_default hp htype he,
    fun _ hx ↦ unreserved_odd (Stray.mem_of_mem_ofEntries hx).1⟩
  checked := fun _ h ↦ unreserved_checked h
  renamed := fun hname _ _ _ ↦ unreserved_odd hname
  arguments := fun _ _ ↦ hs _
  noArguments := hs _

end Canvas

/-! ### Documents -/

namespace Canvas

variable {p : Palette}

/-- What is opened has the declared form. -/
theorem brings_fitting (hp : p.Tidy) {a : Action} (ha : a.Checked) :
    Brings p (.found Value) (Fitting p) a := by
  intro d hd _ b hb
  refine ⟨fun e he ↦ ?_, fun x hx ↦ ?_⟩
  · rintro key spec ⟨⟩ hspec
    obtain ⟨document, hopen⟩ := toDrawing_of_drawing? ha hd
    obtain ⟨-, hblocks, -⟩ := Document.toDrawing_eq_ok hopen
    obtain ⟨r, -, hr⟩ := exists_of_forall₂ hblocks hb
    obtain ⟨properties, hcoerce, rfl⟩ := Document.BlockRecord.toBlock_eq_ok_iff.1 hr
    obtain ⟨t, ht, hfound⟩ := Option.bind_eq_some_iff.1 hspec
    have htidy : t.Tidy := hp t (List.mem_of_find?_eq_some ht)
    have hspecs : Document.specsOf (some p) r.typeId = t.properties := by
      rw [Document.specsOf, Option.bind_some, ht]
      rfl
    obtain ⟨hmem, hname⟩ := htidy.propertyNamed?_eq_some_iff.1 hfound
    rw [hspecs] at hcoerce
    exact Document.isForm_of_coerceDeclared htidy.once hcoerce hmem hname he
  · rw [strays_of_drawing? ha hd b hb] at hx
    exact absurd hx List.not_mem_nil

/-- A checked action brings nothing under a reserved name. -/
theorem brings_unreserved {a : Action} (ha : a.Checked) :
    Brings p (.all Value) (fun _ ↦ Unreserved) a := by
  intro d hd _ b hb
  refine ⟨fun e he ↦ ?_, fun x hx ↦ ?_⟩
  · rintro key ⟨⟩
    obtain ⟨document, hopen⟩ := toDrawing_of_drawing? ha hd
    obtain ⟨r, -, hr⟩ := exists_of_forall₂ (Document.toDrawing_eq_ok hopen).2.1 hb
    exact Document.BlockRecord.unreserved_of_toBlock hr e he
  · rw [strays_of_drawing? ha hd b hb] at hx
    exact absurd hx List.not_mem_nil

/-- **Declared properties have the form of their kind**, after every run. -/
theorem fitting_of_run (hp : p.Tidy) {actions : List Action} (h : ∀ a ∈ actions, a.Checked) :
    Carries (.found Value) (Fitting p) (run p actions).blocks :=
  carries_of_run (upholds_fitting hp (s := .anything) fun _ ↦ trivial) fun a ha ↦
    ⟨h a ha, a.within_anything, brings_fitting hp (h a ha)⟩

/-- **No property has a reserved name**, after every run. -/
theorem unreserved_of_run (hp : p.Tidy) {actions : List Action} (h : ∀ a ∈ actions, a.Checked) :
    Carries (.all Value) (fun _ ↦ Unreserved) (run p actions).blocks :=
  carries_of_run (upholds_unreserved hp (s := .anything) fun _ ↦ trivial) fun a ha ↦
    ⟨h a ha, a.within_anything, brings_unreserved (h a ha)⟩

end Canvas

end FlowCanvas
