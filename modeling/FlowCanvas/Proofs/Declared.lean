import FlowCanvas.Document.Convert
import FlowCanvas.Proofs.Forms
import FlowCanvas.Proofs.Records

/-!
# Declared properties of documents

Reading the record of a block brings the properties that its type declares to their form, one
declaration after the other (`Document.coerceDeclared`). A declaration either finds its property
absent or brings it to its kind in its place, if the kind takes it (`coerceDeclared_absent`,
`coerceDeclared_present`, `coerceDeclared_refused`). Everything else here is an induction over the
declarations with these equations.

* What comes out has the names that went in (`keys_coerceDeclared`), and what is declared once has
  its form in the end (`isForm_of_coerceDeclared`).
* What has its form already stays as it is (`coerceDeclared_eq_ok_iff`).
* Reading comes through **exactly if** every property can be brought to all the kinds under which it
  is declared, one after the other (`coerceDeclared_isOk_iff`). The properties do not get into each
  other's way.
-/

namespace FlowCanvas

/-- No text is the name of two declarations. -/
def PropertySpec.Separate (specs : List PropertySpec) : Prop :=
  specs.Pairwise fun spec other ↦ ∀ key, spec.name = .text key → other.name ≠ .text key

theorem PropertySpec.separate_of_nodup {specs : List PropertySpec}
    (h : (specs.map PropertySpec.name).Nodup) : Separate specs := by
  refine (List.pairwise_map.1 h).imp fun hne key hname hother ↦ ?_
  exact hne (hname.trans hother.symm)

/-- What one text names is one declaration. -/
theorem PropertySpec.Separate.eq {specs : List PropertySpec} (h : Separate specs)
    {spec other : PropertySpec} (hspec : spec ∈ specs) (hother : other ∈ specs) {key : String}
    (hname : spec.name = .text key) (hname' : other.name = .text key) : spec = other := by
  induction specs with
  | nil => exact absurd hspec List.not_mem_nil
  | cons first rest ih =>
    obtain ⟨hfirst, hrest⟩ := List.pairwise_cons.1 h
    rcases List.mem_cons.1 hspec with rfl | hin
    · rcases List.mem_cons.1 hother with rfl | hin'
      · rfl
      · exact absurd hname' (hfirst other hin' key hname)
    · rcases List.mem_cons.1 hother with rfl | hin'
      · exact absurd hname (hfirst spec hin key hname')
      · exact ih hrest hin hin'

theorem PropertySpec.isNamed_iff {spec : PropertySpec} {key : String} :
    spec.isNamed key = true ↔ spec.name = .text key := by
  unfold isNamed
  split
  · next s hs => simp [hs]
  · next hodd => simpa using hodd key

/-- Brings a value to several kinds, one after the other. -/
def Kind.coerceAll (kinds : List Kind) (v : Value) : Except Mismatch Value :=
  kinds.foldlM (fun v kind ↦ kind.coerce v) v

/-- The kinds under which a text is declared, in order. -/
def PropertySpec.kindsOf (specs : List PropertySpec) (key : String) : List Kind :=
  (specs.filter fun spec ↦ spec.isNamed key).map PropertySpec.kind

theorem PropertySpec.kindsOf_cons_self {spec : PropertySpec} {specs : List PropertySpec}
    {key : String} (h : spec.name = .text key) :
    kindsOf (spec :: specs) key = spec.kind :: kindsOf specs key := by
  have hfilter : (spec :: specs).filter (fun spec ↦ spec.isNamed key) =
      spec :: specs.filter fun spec ↦ spec.isNamed key :=
    List.filter_cons_of_pos (isNamed_iff.2 h)
  rw [kindsOf, hfilter, List.map_cons, kindsOf]

theorem PropertySpec.kindsOf_cons_of_ne {spec : PropertySpec} {specs : List PropertySpec}
    {key : String} (h : spec.name ≠ .text key) :
    kindsOf (spec :: specs) key = kindsOf specs key := by
  have hfilter : (spec :: specs).filter (fun spec ↦ spec.isNamed key) =
      specs.filter fun spec ↦ spec.isNamed key :=
    List.filter_cons_of_neg (mt isNamed_iff.1 h)
  rw [kindsOf, hfilter, kindsOf]

theorem PropertySpec.kindsOf_of_undeclared {specs : List PropertySpec} {key : String}
    (h : ∀ spec ∈ specs, spec.name ≠ .text key) : kindsOf specs key = [] := by
  induction specs with
  | nil => rfl
  | cons spec rest ih =>
    obtain ⟨hspec, hrest⟩ := List.forall_mem_cons.1 h
    rw [kindsOf_cons_of_ne hspec, ih hrest]

/-- What is declared once has one kind. -/
theorem PropertySpec.kindsOf_of_separate {specs : List PropertySpec} (h : Separate specs)
    {spec : PropertySpec} (hspec : spec ∈ specs) {key : String} (hname : spec.name = .text key) :
    kindsOf specs key = [spec.kind] := by
  induction specs with
  | nil => exact absurd hspec List.not_mem_nil
  | cons first rest ih =>
    obtain ⟨hfirst, hrest⟩ := List.pairwise_cons.1 h
    rcases List.mem_cons.1 hspec with rfl | hspec
    · rw [kindsOf_cons_self hname,
        kindsOf_of_undeclared fun other hother ↦ hfirst other hother key hname]
    · rw [kindsOf_cons_of_ne fun heq ↦ hfirst spec hspec key heq hname, ih hrest hspec]

namespace Document

open Checks

variable {id type : String} {spec : PropertySpec} {specs : List PropertySpec}
  {properties properties' : Fields Value} {key : String} {v : Value}

/-! ### One declaration -/

theorem absent_or_present (spec : PropertySpec) (properties : Fields Value) :
    (∀ key, spec.name = .text key → Fields.get? properties key = none) ∨
      ∃ key v, spec.name = .text key ∧ Fields.get? properties key = some v := by
  rcases hname : spec.name.text? with - | key
  · refine .inl fun key hkey ↦ ?_
    rw [hkey] at hname
    exact absurd hname (by simp [Value.text?])
  · have hkey : spec.name = .text key := Value.text?_eq_some_iff.1 hname
    rcases hget : Fields.get? properties key with - | v
    · refine .inl fun other hother ↦ ?_
      rw [← Value.text.inj (hkey.symm.trans hother)]
      exact hget
    · exact .inr ⟨key, v, hkey, hget⟩

/-- A declaration whose property is absent changes nothing. -/
theorem coerceDeclared_absent (hname : spec.name.isName = true)
    (habsent : ∀ key, spec.name = .text key → Fields.get? properties key = none) :
    coerceDeclared id type (spec :: specs) properties =
      coerceDeclared id type specs properties := by
  rw [coerceDeclared, if_neg (by simpa using hname)]
  split
  · rfl
  · next key v hfound =>
    obtain ⟨own, htext, hget⟩ := Option.bind_eq_some_iff.1 hfound
    rw [habsent own (Value.text?_eq_some_iff.1 htext)] at hget
    exact absurd hget (by simp)

/-- What a declaration finds under its name. -/
theorem found_of_present (hname : spec.name = .text key)
    (hv : Fields.get? properties key = some v) :
    spec.name.isName = true ∧ (spec.name.text?.bind fun key ↦
      (Fields.get? properties key).map fun v ↦ (key, v)) = some (key, v) := by
  rw [hname, Value.text?, Option.bind_some, hv, Option.map_some]
  exact ⟨rfl, rfl⟩

/-- **A declaration whose property is present brings it to its kind, in its place.** -/
theorem coerceDeclared_present {w : Value} (hname : spec.name = .text key)
    (hv : Fields.get? properties key = some v) (hcoerce : spec.kind.coerce v = .ok w) :
    coerceDeclared id type (spec :: specs) properties =
      coerceDeclared id type specs (Fields.set properties key w) := by
  obtain ⟨husable, hfound⟩ := found_of_present hname hv
  rw [coerceDeclared, if_neg (by simpa using husable), hfound]
  simp only [hcoerce]

theorem coerceDeclared_refused {why : Kind.Mismatch} (hname : spec.name = .text key)
    (hv : Fields.get? properties key = some v) (hcoerce : spec.kind.coerce v = .error why) :
    coerceDeclared id type (spec :: specs) properties = .error (.property id type key why) := by
  obtain ⟨husable, hfound⟩ := found_of_present hname hv
  rw [coerceDeclared, if_neg (by simpa using husable), hfound]
  simp only [hcoerce]

theorem coerceDeclared_unusable (hname : spec.name.isName = false) :
    coerceDeclared id type (spec :: specs) properties = .error (.unusableName type) := by
  rw [coerceDeclared, if_pos (by simpa using hname)]

/-- **What one declaration does that comes through**: its name can be a name, and the property is
absent, or brought to its form in its place. -/
theorem coerceDeclared_cons
    (h : coerceDeclared id type (spec :: specs) properties = .ok properties') :
    spec.name.isName = true ∧
      ((∀ key, spec.name = .text key → Fields.get? properties key = none) ∧
          coerceDeclared id type specs properties = .ok properties' ∨
        ∃ key v w, spec.name = .text key ∧ Fields.get? properties key = some v ∧
          spec.kind.coerce v = .ok w ∧
          coerceDeclared id type specs (Fields.set properties key w) = .ok properties') := by
  by_cases hname : spec.name.isName = true
  · refine ⟨hname, ?_⟩
    rcases absent_or_present spec properties with habsent | ⟨key, v, hkey, hv⟩
    · rw [coerceDeclared_absent hname habsent] at h
      exact .inl ⟨habsent, h⟩
    · rcases hcoerce : spec.kind.coerce v with why | w
      · rw [coerceDeclared_refused hkey hv hcoerce] at h
        exact absurd h (by simp)
      · rw [coerceDeclared_present hkey hv hcoerce] at h
        exact .inr ⟨key, v, w, hkey, hv, hcoerce, h⟩
  · rw [coerceDeclared_unusable (by simpa using hname)] at h
    exact absurd h (by simp)

/-! ### What comes out -/

theorem isName_of_coerceDeclared (h : coerceDeclared id type specs properties = .ok properties') :
    ∀ spec ∈ specs, spec.name.isName = true := by
  induction specs generalizing properties with
  | nil => exact fun _ hspec ↦ absurd hspec List.not_mem_nil
  | cons spec rest ih =>
    obtain ⟨hname, ⟨-, h⟩ | ⟨_, _, _, -, -, -, h⟩⟩ := coerceDeclared_cons h
    · exact List.forall_mem_cons.2 ⟨hname, ih h⟩
    · exact List.forall_mem_cons.2 ⟨hname, ih h⟩

/-- The names stay as they are. -/
theorem keys_coerceDeclared (h : coerceDeclared id type specs properties = .ok properties') :
    Fields.keys properties' = Fields.keys properties := by
  induction specs generalizing properties with
  | nil => rw [Except.ok.inj h]
  | cons spec rest ih =>
    obtain ⟨-, ⟨-, h⟩ | ⟨key, v, w, -, hv, -, h⟩⟩ := coerceDeclared_cons h
    · exact ih h
    · have hmem : key ∈ Fields.keys properties := List.mem_map_of_mem (Fields.mem_of_get? hv)
      rw [ih h, Fields.keys_set_of_mem hmem]

/-- Only what is declared is touched. -/
theorem get?_coerceDeclared (hkey : ∀ spec ∈ specs, spec.name ≠ .text key)
    (h : coerceDeclared id type specs properties = .ok properties') :
    Fields.get? properties' key = Fields.get? properties key := by
  induction specs generalizing properties with
  | nil => rw [Except.ok.inj h]
  | cons spec rest ih =>
    obtain ⟨hspec, hrest⟩ := List.forall_mem_cons.1 hkey
    obtain ⟨-, ⟨-, h⟩ | ⟨other, v, w, hname, -, -, h⟩⟩ := coerceDeclared_cons h
    · exact ih hrest h
    · have hne : other ≠ key := by
        rintro rfl
        exact hspec hname
      rw [ih hrest h, Fields.get?_set_of_ne properties w hne]

/-- **What is declared once and present is brought to its form.** -/
theorem isForm_of_coerceDeclared (honce : PropertySpec.Separate specs)
    (h : coerceDeclared id type specs properties = .ok properties') (hspec : spec ∈ specs)
    (hname : spec.name = .text key) (hv : Fields.get? properties' key = some v) :
    spec.kind.IsForm v := by
  induction specs generalizing properties with
  | nil => exact absurd hspec List.not_mem_nil
  | cons first rest ih =>
    obtain ⟨hfirst, hrest⟩ := List.pairwise_cons.1 honce
    rcases List.mem_cons.1 hspec with rfl | hspec
    · -- The rest declares other names, so what this one left is what is there in the end.
      have hother : ∀ other ∈ rest, other.name ≠ .text key := fun other hmem ↦
        hfirst other hmem key hname
      obtain ⟨-, ⟨habsent, h⟩ | ⟨own, u, w, hown, -, hcoerce, h⟩⟩ := coerceDeclared_cons h
      · rw [get?_coerceDeclared hother h, habsent key hname] at hv
        exact absurd hv (by simp)
      · obtain rfl : own = key := Value.text.inj (hown.symm.trans hname)
        rw [get?_coerceDeclared hother h, Fields.get?_set_self] at hv
        obtain rfl := Option.some.inj hv
        exact Kind.isForm_of_coerce hcoerce
    · obtain ⟨-, ⟨-, h⟩ | ⟨_, _, _, -, -, -, h⟩⟩ := coerceDeclared_cons h
      · exact ih hrest h hspec
      · exact ih hrest h hspec

/-- What is read as null stays null, since no kind makes anything of it. -/
theorem get?_coerceDeclared_null (hnull : Fields.get? properties key = some .null)
    (h : coerceDeclared id type specs properties = .ok properties') :
    Fields.get? properties' key = some .null := by
  induction specs generalizing properties with
  | nil => rwa [← Except.ok.inj h]
  | cons spec rest ih =>
    obtain ⟨-, ⟨-, h⟩ | ⟨other, v, w, -, hv, hcoerce, h⟩⟩ := coerceDeclared_cons h
    · exact ih hnull h
    · have hne : other ≠ key := by
        rintro rfl
        obtain rfl := Option.some.inj (hv.symm.trans hnull)
        exact Kind.coerce_null_ne_ok spec.kind w hcoerce
      exact ih (by rwa [Fields.get?_set_of_ne properties w hne]) h

/-! ### When reading comes through -/

/-- **Declared properties that have their form keep it**, and are read exactly if every declared
name can be a name. -/
theorem coerceDeclared_eq_ok_iff
    (h : ∀ spec ∈ specs, ∀ e ∈ properties, spec.name = .text e.1 →
      spec.kind.coerce e.2 = .ok e.2) :
    coerceDeclared id type specs properties = .ok properties' ↔
      (∀ spec ∈ specs, spec.name.isName = true) ∧ properties' = properties := by
  induction specs with
  | nil =>
    rw [coerceDeclared, Except.ok.injEq, eq_comm]
    simp
  | cons spec rest ih =>
    obtain ⟨hspec, hrest⟩ := List.forall_mem_cons.1 h
    rw [List.forall_mem_cons]
    by_cases hname : spec.name.isName = true
    · rw [and_iff_right hname, ← ih hrest]
      rcases absent_or_present spec properties with habsent | ⟨key, v, hkey, hv⟩
      · rw [coerceDeclared_absent hname habsent]
      · -- Writing the value it has in its place changes nothing.
        have hkept := hspec (key, v) (Fields.mem_of_get? hv) hkey
        rw [coerceDeclared_present hkey hv hkept, Fields.set_of_get? hv]
    · rw [coerceDeclared_unusable (by simpa using hname)]
      simp [hname]

/-- **Reading comes through exactly if every property can be brought to all its kinds**, one after
the other, where declared names can be names. -/
theorem coerceDeclared_isOk_iff (hnames : ∀ spec ∈ specs, spec.name.isName = true) :
    (∃ properties', coerceDeclared id type specs properties = .ok properties') ↔
      ∀ key v, Fields.get? properties key = some v →
        ∃ w, Kind.coerceAll (PropertySpec.kindsOf specs key) v = .ok w := by
  induction specs generalizing properties with
  | nil => exact iff_of_true ⟨properties, rfl⟩ fun key v _ ↦ ⟨v, rfl⟩
  | cons spec rest ih =>
    obtain ⟨hname, hrest⟩ := List.forall_mem_cons.1 hnames
    rcases absent_or_present spec properties with habsent | ⟨key, v, hkey, hv⟩
    · -- What is looked up is found, so it is not what this declares.
      rw [coerceDeclared_absent hname habsent, ih hrest]
      refine forall₃_congr fun key v hv ↦ ?_
      rw [PropertySpec.kindsOf_cons_of_ne]
      intro hkey
      rw [habsent key hkey] at hv
      exact absurd hv (by simp)
    · have hown : Kind.coerceAll (PropertySpec.kindsOf (spec :: rest) key) v =
          spec.kind.coerce v >>= Kind.coerceAll (PropertySpec.kindsOf rest key) := by
        rw [PropertySpec.kindsOf_cons_self hkey]
        rfl
      rcases hcoerce : spec.kind.coerce v with why | w
      · -- The first kind refuses it, and nothing after it matters.
        rw [coerceDeclared_refused hkey hv hcoerce]
        refine iff_of_false (by simp) fun h ↦ ?_
        obtain ⟨u, hu⟩ := h key v hv
        rw [hown, hcoerce] at hu
        exact absurd hu (by simp [bind, Except.bind])
      · rw [coerceDeclared_present hkey hv hcoerce, ih hrest]
        refine forall_congr' fun other ↦ ?_
        by_cases hother : key = other
        · subst hother
          rw [Fields.get?_set_self, hv]
          simp only [Option.some.injEq, forall_eq']
          rw [hown, hcoerce]
          rfl
        · rw [Fields.get?_set_of_ne properties w hother, PropertySpec.kindsOf_cons_of_ne]
          rw [hkey]
          exact fun heq ↦ hother (Value.text.inj heq)

/-- What goes wrong with a property is the fault of the document. -/
theorem isMalformed_of_coerceDeclared (hnames : ∀ spec ∈ specs, spec.name.isName = true)
    {fault : DocumentFault} (h : coerceDeclared id type specs properties = .error fault) :
    fault.isMalformed = true := by
  induction specs generalizing properties with
  | nil => exact absurd h (by simp [coerceDeclared])
  | cons spec rest ih =>
    obtain ⟨hname, hrest⟩ := List.forall_mem_cons.1 hnames
    rcases absent_or_present spec properties with habsent | ⟨key, v, hkey, hv⟩
    · rw [coerceDeclared_absent hname habsent] at h
      exact ih hrest h
    · rcases hcoerce : spec.kind.coerce v with why | w
      · rw [coerceDeclared_refused hkey hv hcoerce] at h
        rw [← Except.error.inj h]
        rfl
      · rw [coerceDeclared_present hkey hv hcoerce] at h
        exact ih hrest h

end Document

end FlowCanvas
