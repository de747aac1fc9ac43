import FlowCanvas.Proofs.Forms
import FlowCanvas.Proofs.Invariant
import FlowCanvas.Proofs.RoundTrip

/-!
# What blocks and wires hold

Invariants about the properties of blocks, told one entry at a time. A property comes onto the
canvas by three routes: it is a default of the type, it was handed over and checked, or it was
copied from the definition of a function. What a step can do to the contents of blocks is said once
(`Step.holding`). `Upholds` asks of a condition on entries that each route ends in it; then **every
run keeps it** (`carries_of_run`), as far as loads bring in nothing else.

A condition may depend on the type of the block, as being of the declared form does. Checks are made
against the type of the block that is looked up, so distinct ids are needed: it has to be the block
that is written to. It may be asked of all entries or only of those that look-ups find, which are
fewer where a document repeats a name (`Fields.View`).

What holds of every run is stated here for three conditions. Nothing on a canvas is nested too
deeply to be copied (`copyable_of_run`), since everything was copied on its way in. The type of
every block declares names that can be names (`sayable_of_run`). And every wire has a kind and maps
to texts (`wires_of_run`).
-/

namespace FlowCanvas

/-! ### Entries of records -/

namespace Fields

variable {α : Type} {fields patch : Fields α} {e : String × α}

/-- **A way to look at the entries of a record**: at all of them, or at those that are found under
their names. The two differ where a name is repeated, which is possible in what was handed over. -/
structure View (α : Type) where
  Shows : Fields α → String × α → Prop
  of_get? : ∀ {fields : Fields α} {key : String} {v : α}, get? fields key = some v →
    Shows fields (key, v)
  mem : ∀ {fields : Fields α} {e : String × α}, Shows fields e → e ∈ fields
  of_set : ∀ {fields : Fields α} {key : String} {value : α} {e : String × α},
    Shows (set fields key value) e → e = (key, value) ∨ Shows fields e

namespace View

/-- Looking at all entries. -/
def all (α : Type) : View α where
  Shows := fun fields e ↦ e ∈ fields
  of_get? := mem_of_get?
  mem := fun h ↦ h
  of_set := mem_of_mem_set

/-- Looking at the entries that are found under their names. -/
def found (α : Type) : View α where
  Shows := fun fields e ↦ get? fields e.1 = some e.2
  of_get? := fun h ↦ h
  mem := mem_of_get?
  of_set := get?_of_get?_set

variable {V : View α}

theorem of_merge (h : V.Shows (merge fields patch) e) : e ∈ patch ∨ V.Shows fields e := by
  induction patch generalizing fields with
  | nil => exact .inr h
  | cons entry rest ih =>
    rcases ih h with h | h
    · exact .inl (List.mem_cons_of_mem _ h)
    · rcases V.of_set h with rfl | h
      · exact .inl List.mem_cons_self
      · exact .inr h

end View

theorem mem_of_mem_ofList {entries : List (String × α)} (h : e ∈ ofList entries) : e ∈ entries :=
  (View.of_merge (V := View.all α) h).resolve_right List.not_mem_nil

end Fields

namespace Stray

/-- What is woven together is what stands in the record and beside it. -/
theorem mem_weave {fields : Fields Value} {strays : List Stray} {e : Value × Value} :
    e ∈ weave fields strays ↔
      (∃ f ∈ fields, (.text f.1, f.2) = e) ∨ ∃ x ∈ strays, (x.name, x.value) = e := by
  suffices hfold : ∀ acc : List (Value × Value),
      e ∈ strays.foldl (fun acc s ↦ acc.take s.place ++ (s.name, s.value) :: acc.drop s.place) acc ↔
        e ∈ acc ∨ ∃ x ∈ strays, (x.name, x.value) = e from
    (hfold _).trans (or_congr_left List.mem_map)
  induction strays with
  | nil => simp
  | cons s rest ih =>
    intro acc
    have hinsert : e ∈ acc.take s.place ++ (s.name, s.value) :: acc.drop s.place ↔
        e ∈ acc ∨ (s.name, s.value) = e := by
      rw [List.mem_append, List.mem_cons, or_left_comm, ← List.mem_append, List.take_append_drop,
        or_comm, eq_comm]
    rw [List.foldl_cons, ih, hinsert, List.exists_mem_cons_iff, or_assoc]

theorem mem_of_mem_put {α : Type} {name : Value} {value : α} {entries : List (Value × α)}
    {e : Value × α} (h : e ∈ put name value entries) : e.2 = value ∨ e ∈ entries := by
  induction entries with
  | nil => exact .inl (congrArg Prod.snd (List.mem_singleton.1 h))
  | cons entry rest ih =>
    obtain ⟨k, v⟩ := entry
    rw [put] at h
    split at h
    · rcases List.mem_cons.1 h with rfl | h
      · exact .inl rfl
      · exact .inr (List.mem_cons_of_mem _ h)
    · rcases List.mem_cons.1 h with rfl | h
      · exact .inr List.mem_cons_self
      · exact (ih h).imp_right (List.mem_cons_of_mem _)

/-- Settling the names brings in no new value. -/
theorem exists_of_mem_distinct {α : Type} {entries : List (Value × α)} {e : Value × α}
    (h : e ∈ distinct entries) : ∃ e' ∈ entries, e'.2 = e.2 := by
  suffices hfold : ∀ acc : List (Value × α), e ∈ entries.foldl (fun acc e ↦ put e.1 e.2 acc) acc →
      (∃ e' ∈ entries, e'.2 = e.2) ∨ e ∈ acc from (hfold [] h).resolve_right List.not_mem_nil
  clear h
  induction entries with
  | nil => exact fun acc h ↦ .inr h
  | cons entry rest ih =>
    intro acc h
    rcases ih _ h with ⟨e', he', heq⟩ | h
    · exact .inl ⟨e', List.mem_cons_of_mem _ he', heq⟩
    · rcases mem_of_mem_put h with heq | h
      · exact .inl ⟨entry, List.mem_cons_self, heq.symm⟩
      · exact .inr h

/-- The stray ones of some entries are among them, and their names are no texts. -/
theorem mem_of_mem_ofEntries {place : Nat} {entries : List (Value × Value)} {x : Stray}
    (h : x ∈ ofEntries place entries) : x.name.text? = none ∧ (x.name, x.value) ∈ entries := by
  fun_induction ofEntries place entries with
  | case1 => exact absurd h List.not_mem_nil
  | case2 place name value rest ih =>
    obtain ⟨hname, hmem⟩ := ih h
    exact ⟨hname, List.mem_cons_of_mem _ hmem⟩
  | case3 place name value rest hname ih =>
    rcases List.mem_cons.1 h with rfl | h
    · refine ⟨?_, List.mem_cons_self⟩
      cases name with
      | text s => exact absurd rfl (hname s)
      | _ => rfl
    · obtain ⟨hname, hmem⟩ := ih h
      exact ⟨hname, List.mem_cons_of_mem _ hmem⟩

/-- Writing a stray entry changes the one under its name or adds one. -/
theorem mem_of_mem_write {count : Nat} {name value : Value} {strays : List Stray} {x : Stray}
    (h : x ∈ write count name value strays) :
    x ∈ strays ∨ x.value = value ∧ (x.name = name ∨
      (∃ y ∈ strays, y.name = x.name) ∧ Value.same x.name name = true) := by
  induction strays with
  | nil =>
    obtain rfl := List.mem_singleton.1 h
    exact .inr ⟨rfl, .inl rfl⟩
  | cons y rest ih =>
    rw [write] at h
    split at h
    · next hsame =>
      rcases List.mem_cons.1 h with rfl | h
      · exact .inr ⟨rfl, .inr ⟨⟨y, List.mem_cons_self, rfl⟩, hsame⟩⟩
      · exact .inl (List.mem_cons_of_mem _ h)
    · rcases List.mem_cons.1 h with rfl | h
      · exact .inl List.mem_cons_self
      · rcases ih h with h | ⟨hvalue, hname | ⟨⟨z, hz, hname⟩, hsame⟩⟩
        · exact .inl (List.mem_cons_of_mem _ h)
        · exact .inr ⟨hvalue, .inl hname⟩
        · exact .inr ⟨hvalue, .inr ⟨⟨z, List.mem_cons_of_mem _ hz, hname⟩, hsame⟩⟩

end Stray

/-! ### Entries of blocks -/

/-- Every entry of a block that a view shows is as asked, and the stray ones are those that no text
names. -/
structure Block.Carries (V : Fields.View Value) (Q : Value × Value → Prop) (b : Block) : Prop where
  named : ∀ e, V.Shows b.properties e → Q (.text e.1, e.2)
  stray : ∀ x ∈ b.strays, x.name.text? = none ∧ Q (x.name, x.value)

namespace Block.Carries

variable {V : Fields.View Value} {Q : Value × Value → Prop} {b : Block}

theorem entries (h : b.Carries (.all Value) Q) : ∀ e ∈ b.entries, Q e := by
  intro e he
  rcases Stray.mem_weave.1 he with ⟨f, hf, rfl⟩ | ⟨x, hx, rfl⟩
  · exact h.named f hf
  · exact (h.stray x hx).2

theorem strays (h : b.Carries V Q) : ∀ x ∈ b.strays, x.name.text? = none :=
  fun x hx ↦ (h.stray x hx).1

theorem merge (h : b.Carries V Q) {patch : Fields Value}
    (hpatch : ∀ e ∈ patch, Q (.text e.1, e.2)) (label : Value) :
    ({ b with properties := Fields.merge b.properties patch, label := label } : Block).Carries
      V Q where
  named := by
    intro e he
    rcases Fields.View.of_merge he with he | he
    · exact hpatch e he
    · exact h.named e he
  stray := h.stray

theorem write (h : b.Carries V Q) {e : Value × Value} (he : Q e)
    (hrenamed : ∀ name, name.text? = none → e.1.text? = none → Value.same name e.1 = true →
      Q (name, e.2)) : (b.write e).Carries V Q := by
  unfold Block.write
  split
  · next key value =>
    refine ⟨fun f hf ↦ ?_, h.stray⟩
    rcases V.of_set hf with rfl | hf
    · exact he
    · exact h.named f hf
  · next name value hname =>
    have hodd : name.text? = none := by
      cases name with
      | text s => exact absurd rfl (hname s)
      | _ => rfl
    refine ⟨h.named, fun x hx ↦ ?_⟩
    rcases Stray.mem_of_mem_write hx with hx | ⟨hvalue, hx⟩
    · exact h.stray x hx
    · rw [hvalue]
      rcases hx with rfl | ⟨⟨y, hy, hyname⟩, hsame⟩
      · exact ⟨hodd, he⟩
      · have hx : x.name.text? = none := hyname ▸ (h.stray y hy).1
        exact ⟨hx, hrenamed x.name hx hodd hsame⟩

end Block.Carries

namespace Canvas

open Checks

variable {p : Palette} {s : Supply} {V : Fields.View Value} {Q : String → Value × Value → Prop}
  {c c' : Canvas} {es : List Event}

/-- Every entry of every block is as asked of blocks of its type, as far as a view shows it. -/
def Carries (V : Fields.View Value) (Q : String → Value × Value → Prop) (blocks : List Block) :
    Prop :=
  ∀ b ∈ blocks, b.Carries V (Q b.type)

/-- **A condition in which every route onto the canvas ends.** -/
structure Upholds (p : Palette) (s : Supply) (Q : String → Value × Value → Prop) : Prop where
  defaults : ∀ {type : String} {t : BlockType}, p.get? type = some t → checkDefaults t = .ok () →
    (∀ e ∈ t.defaults, Q t.id (.text e.1, e.2)) ∧ ∀ x ∈ t.strayDefaults, Q t.id (x.name, x.value)
  checked : ∀ {type : String} {e e' : Value × Value}, s.value e.2 →
    checkedEntry p type e = .ok e' → Q type e'
  /-- An entry keeps the name under which it was written first. -/
  renamed : ∀ {type : String} {name other v : Value}, name.text? = none → other.text? = none →
    Value.same name other = true → Q type (other, v) → Q type (name, v)
  /-- What a call copies could have been handed over. -/
  arguments : ∀ {type : String} {v : Value} {items : List Value}, Q type (.text "arguments", v) →
    v.items? = some items → s.value (.list items)
  noArguments : s.value (.list [])

/-! ### Checks of entries -/

/-- What is declared for an entry of a block of some type. -/
def specFor? (p : Palette) (type : String) (name : Value) : Option PropertySpec :=
  (p.get? type).bind fun t ↦ t.propertyNamed? name

/-- Only a text is the same as a text. -/
theorem same_text_iff {v : Value} {s : String} : Value.same v (.text s) = true ↔ v = .text s := by
  cases v <;> simp [Value.same, Value.sameScalar, Value.whole?]

theorem property?_eq (t : BlockType) (key : String) :
    t.property? key = t.propertyNamed? (.text key) := by
  have hnamed : ∀ spec : PropertySpec, spec.isNamed key = Value.same spec.name (.text key) := by
    intro spec
    rw [Bool.eq_iff_iff, same_text_iff, PropertySpec.isNamed]
    cases spec.name <;> simp
  rw [BlockType.property?, BlockType.propertyNamed?, funext hnamed]

/-- **What an entry becomes that comes through**: it is declared and brought to its form, or a copy
of it is kept. No reserved name comes through. -/
theorem checkedEntry_eq_ok {type : String} {e e' : Value × Value}
    (h : checkedEntry p type e = .ok e') :
    e'.1 = e.1 ∧ (∀ key, e.1 = .text key → key ∉ reservedNames) ∧
      ((∃ spec, specFor? p type e.1 = some spec ∧ spec.kind.coerce e.2 = .ok e'.2) ∨
        specFor? p type e.1 = none ∧ e'.2 = e.2 ∧ e.2.isCopyable = true) := by
  unfold checkedEntry at h
  split at h
  · next key value =>
    obtain ⟨f, hf, rfl⟩ := map_eq_ok_iff.1 h
    rw [validatedEntry, guard_eq_ok_iff] at hf
    obtain ⟨hname, hf⟩ := hf
    have hspec : ((p.get? type).bind fun t ↦ t.property? key) = specFor? p type (.text key) := by
      simp only [property?_eq]
      rfl
    rw [hspec] at hf
    have hreserved : ∀ k, Value.text key = .text k → k ∉ reservedNames := by
      rintro k ⟨⟩
      simpa using hname
    split at hf
    · next hnone =>
      split at hf
      · next hcopy =>
        obtain rfl := Except.ok.inj hf
        exact ⟨rfl, hreserved, .inr ⟨hnone, rfl, hcopy⟩⟩
      · exact absurd hf (by simp)
    · next spec hsome =>
      split at hf
      · next v hv =>
        obtain rfl := Except.ok.inj hf
        exact ⟨rfl, hreserved, .inl ⟨spec, hsome, hv⟩⟩
      · exact absurd hf (by simp)
  · next name value hname =>
    have hreserved : ∀ k, name = .text k → k ∉ reservedNames := fun k hk ↦ absurd hk (hname k)
    split at h
    · next hnone =>
      split at h
      · next hcopy =>
        obtain rfl := Except.ok.inj h
        exact ⟨rfl, hreserved, .inr ⟨hnone, rfl, hcopy⟩⟩
      · exact absurd h (by simp)
    · next spec hsome =>
      split at h
      · next v hv =>
        obtain rfl := Except.ok.inj h
        exact ⟨rfl, hreserved, .inl ⟨spec, hsome, hv⟩⟩
      · exact absurd h (by simp)

/-- Under a text for its name, an entry passes one check exactly if it passes the other. -/
theorem validatedEntry_eq_ok_iff {type : String} {e e' : String × Value} :
    validatedEntry p type e = .ok e' ↔
      checkedEntry p type (.text e.1, e.2) = .ok (.text e'.1, e'.2) := by
  rw [checkedEntry, map_eq_ok_iff]
  constructor
  · exact fun h ↦ ⟨e', h, rfl⟩
  · rintro ⟨f, hf, heq⟩
    obtain ⟨hname, hvalue⟩ := Prod.mk.inj heq
    obtain rfl : f = e' := Prod.ext (Value.text.inj hname) hvalue
    exact hf

/-- What a patch is validated as comes from its entries, one by one. -/
theorem exists_of_validated {type : String} {patch properties : Fields Value}
    (h : validated p type patch = .ok properties) :
    ∀ e' ∈ properties, ∃ e ∈ patch, validatedEntry p type e = .ok e' := by
  induction patch generalizing properties with
  | nil =>
    obtain rfl : [] = properties := Except.ok.inj h
    exact fun _ he ↦ absurd he List.not_mem_nil
  | cons e rest ih =>
    rw [validated] at h
    rcases he : validatedEntry p type e with fault | e'
    · simp [he] at h
    · rcases hrest : validated p type rest with fault | others
      · simp [he, hrest] at h
      · obtain rfl : e' :: others = properties := by simpa [he, hrest] using h
        refine List.forall_mem_cons.2 ⟨⟨e, List.mem_cons_self, he⟩, fun f' hf' ↦ ?_⟩
        obtain ⟨f, hf, hvalid⟩ := ih hrest f' hf'
        exact ⟨f, List.mem_cons_of_mem _ hf, hvalid⟩

theorem exists_of_checkedEntries {type : String} {raw entries : List (Value × Value)}
    (h : checkedEntries p type raw = .ok entries) :
    ∀ e' ∈ entries, ∃ e ∈ raw, checkedEntry p type e = .ok e' := by
  induction raw generalizing entries with
  | nil =>
    obtain rfl : [] = entries := Except.ok.inj h
    exact fun _ he ↦ absurd he List.not_mem_nil
  | cons e rest ih =>
    simp only [checkedEntries, List.mapM_cons, bind_eq_ok_iff, pure_eq_ok_iff] at h
    obtain ⟨e', he, others, hothers, rfl⟩ := h
    refine List.forall_mem_cons.2 ⟨⟨e, List.mem_cons_self, he⟩, fun f' hf' ↦ ?_⟩
    obtain ⟨f, hf, hvalid⟩ := ih hothers f' hf'
    exact ⟨f, List.mem_cons_of_mem _ hf, hvalid⟩

namespace Upholds

/-- What comes through a check is as asked. -/
theorem validated (hQ : Upholds p s Q) {type : String} {patch properties : Fields Value}
    (hpatch : ∀ e ∈ patch, s.value e.2)
    (h : validated p type (Fields.erase patch "label") = .ok properties) :
    ∀ e ∈ properties, Q type (.text e.1, e.2) := by
  intro e' he'
  obtain ⟨e, he, hvalid⟩ := exists_of_validated h e' he'
  exact hQ.checked (hpatch e (List.mem_of_mem_filter he)) (validatedEntry_eq_ok_iff.1 hvalid)

/-- The values of a patch could have been handed over, wherever it comes from. -/
theorem patch (hQ : Upholds p s Q) (hc : Carries V Q c.blocks) {patch : Fields Value}
    (h : Patch s c patch) : ∀ e ∈ patch, s.value e.2 := by
  cases h with
  | given _ values => exact values
  | call name d arguments value found items =>
    have hd : d ∈ c.blocks := List.mem_of_mem_filter (List.mem_of_find?_eq_some found)
    have harguments : s.value (.list arguments) := by
      rcases hget : Fields.get? d.properties "arguments" with - | v
      · rw [hget] at items
        obtain rfl : [] = arguments := Option.some.inj items
        exact hQ.noArguments
      · rw [hget] at items
        exact hQ.arguments ((hc d hd).named _ (V.of_get? hget)) items
    simp only [List.forall_mem_cons]
    exact ⟨value, harguments, fun _ he ↦ absurd he List.not_mem_nil⟩

theorem write (hQ : Upholds p s Q) {type : String} {raw entries : List (Value × Value)}
    (hraw : ∀ e ∈ raw, s.value e.2) (h : checkedEntries p type raw = .ok entries) {b : Block}
    (hb : b.Carries V (Q type)) : (entries.foldl Block.write b).Carries V (Q type) := by
  have hall : ∀ e ∈ entries, Q type e := fun e' he' ↦ by
    obtain ⟨e, he, hvalid⟩ := exists_of_checkedEntries h e' he'
    exact hQ.checked (hraw e he) hvalid
  clear h
  induction entries generalizing b with
  | nil => exact hb
  | cons e rest ih =>
    obtain ⟨he, hrest⟩ := List.forall_mem_cons.1 hall
    exact ih (hb.write he fun name hname hother hsame ↦ hQ.renamed hname hother hsame he) hrest

theorem newBlock (hQ : Upholds p s Q) {n : NewBlock} {t : BlockType} {properties : Fields Value}
    (hn : n.Within s) (htype : p.get? n.type = some t) (hdefaults : checkDefaults t = .ok ())
    (hvalid : Canvas.validated p n.type (Fields.erase n.properties "label") = .ok properties)
    (position : Point) (label : Value) :
    (c.newBlock t properties position label).Carries V (Q t.id) where
  named := by
    intro e he
    rcases Fields.View.of_merge he with he | he
    · rw [Palette.id_of_get? htype]
      exact hQ.validated hn.2.1 hvalid e he
    · exact (hQ.defaults htype hdefaults).1 e (V.mem he)
  stray := fun x hx ↦
    ⟨(Stray.mem_of_mem_ofEntries hx).1, (hQ.defaults htype hdefaults).2 x hx⟩

end Upholds

/-! ### Steps -/

/-- **Where the contents of a block come from that stands on the canvas after a step**: a block held
them before, a checked patch was merged into what a block held, checked entries were written to it,
or the block is new. -/
inductive Holding (p : Palette) (s : Supply) (c : Canvas) : Block → Prop
  | kept (b b' : Block) (mem : b ∈ c.blocks) (id : b'.id = b.id) (type : b'.type = b.type)
      (properties : b'.properties = b.properties) (strays : b'.strays = b.strays) : Holding p s c b'
  | merged (b : Block) (patch properties : Fields Value) (label : Value) (mem : b ∈ c.blocks)
      (origin : Patch s c patch)
      (valid : validated p b.type (Fields.erase patch "label") = .ok properties) :
      Holding p s c { b with properties := Fields.merge b.properties properties, label := label }
  | written (b : Block) (raw entries : List (Value × Value)) (mem : b ∈ c.blocks)
      (values : ∀ e ∈ raw, s.value e.2) (valid : checkedEntries p b.type raw = .ok entries) :
      Holding p s c (entries.foldl Block.write b)
  | made (n : NewBlock) (t : BlockType) (properties : Fields Value) (position : Point)
      (label : Value) (within : n.Within s) (type : p.get? n.type = some t)
      (defaults : checkDefaults t = .ok ())
      (valid : validated p n.type (Fields.erase n.properties "label") = .ok properties) :
      Holding p s c (c.newBlock t properties position label)

theorem holding_self {b : Block} (hb : b ∈ c.blocks) : Holding p s c b :=
  .kept b b hb rfl rfl rfl rfl

/-- Only the block of an id may have changed. -/
theorem holding_modifyBlock (hids : (c.blocks.map Block.id).Nodup) {id : String} {b : Block}
    (hb : c.block? id = some b) {f : Block → Block} (hf : Holding p s c (f b)) :
    ∀ b' ∈ (c.modifyBlock id f).blocks, Holding p s c b' := by
  intro b' hb'
  obtain ⟨k, hk, rfl⟩ := List.mem_map.1 hb'
  split
  · next hid =>
    obtain rfl : k = b := Option.some.inj (((block?_eq_some_iff hids).2 ⟨hk, hid⟩).symm.trans hb)
    exact hf
  · exact holding_self hk

/-- A block that is moved or renamed keeps what it holds. -/
theorem holding_modifyBlock_same {id : String} {f : Block → Block}
    (hf : ∀ b, (f b).id = b.id ∧ (f b).type = b.type ∧ (f b).properties = b.properties ∧
      (f b).strays = b.strays) :
    ∀ b' ∈ (c.modifyBlock id f).blocks, Holding p s c b' := by
  intro b' hb'
  obtain ⟨b, hb, rfl⟩ := List.mem_map.1 hb'
  split
  · obtain ⟨hid, htype, hproperties, hstrays⟩ := hf b
    exact .kept b (f b) hb hid htype hproperties hstrays
  · exact holding_self hb

/-- **What blocks hold after retouching** was held, or has passed the check. -/
theorem Retouch.holding (h : Retouch p s c es c') (hids : (c.blocks.map Block.id).Nodup) :
    ∀ b' ∈ c'.blocks, Holding p s c b' := by
  cases h with
  | number => exact fun _ hb ↦ holding_self hb
  | update id b patch properties keys block origin valid =>
    exact holding_modifyBlock hids block
      (.merged b patch properties _ (mem_of_block? block).1 origin valid)
  | write id b raw entries block values valid =>
    exact holding_modifyBlock hids block
      (.written b raw entries (mem_of_block? block).1 values valid)
  | relabel id label => exact holding_modifyBlock_same fun b ↦ ⟨rfl, rfl, rfl, rfl⟩
  | move id b position place => exact holding_modifyBlock_same fun b ↦ ⟨rfl, rfl, rfl, rfl⟩
  | nest id b parent position place => exact holding_modifyBlock_same fun b ↦ ⟨rfl, rfl, rfl, rfl⟩
  | free id corner =>
    intro b' hb'
    obtain ⟨b, hb, hfreed⟩ := exists_of_forall₂ (freed_forall₂ id corner c.blocks) hb'
    obtain rfl | ⟨spot, -, -, rfl⟩ := hfreed
    · exact holding_self hb
    · exact .kept b _ hb rfl rfl rfl rfl
  | rewire id w patch kind mapping => exact fun _ hb ↦ holding_self hb

/-- **What a step can do to the contents of blocks.** -/
theorem Step.holding (h : Step p s c es c') (hids : (c.blocks.map Block.id).Nodup) :
    ∀ b' ∈ c'.blocks, Holding p s c b' := by
  cases h with
  | change h =>
    cases h with
    | retouch h => exact h.holding hids
    | remove id b block plain childless =>
      rw [deselecting_eq]
      exact fun b hb ↦ holding_self (List.mem_of_mem_filter hb)
    | connect => exact fun _ hb ↦ holding_self hb
    | disconnect id w wire =>
      rw [deselecting_eq]
      exact fun _ hb ↦ holding_self hb
    | select selection known =>
      rw [selecting_eq]
      exact fun _ hb ↦ holding_self hb
  | create h =>
    obtain ⟨n, t, properties, position, within, type, defaults, valid, place⟩ := h
    intro b hb
    rcases mem_putBy Block.id hb with rfl | hb
    · exact .made n t properties position _ within (checkType_eq_ok_iff.1 type).1 defaults valid
    · exact holding_self hb

theorem type_foldl_write (b : Block) (entries : List (Value × Value)) :
    (entries.foldl Block.write b).type = b.type := by
  obtain ⟨properties, strays, heq⟩ := write_eq b entries
  rw [heq]

theorem id_foldl_write (b : Block) (entries : List (Value × Value)) :
    (entries.foldl Block.write b).id = b.id := by
  obtain ⟨properties, strays, heq⟩ := write_eq b entries
  rw [heq]

/-- **A step ends in the condition.** -/
theorem Step.carries (hQ : Upholds p s Q) (h : Step p s c es c')
    (hids : (c.blocks.map Block.id).Nodup) (hc : Carries V Q c.blocks) : Carries V Q c'.blocks := by
  intro b' hb'
  cases h.holding hids b' hb' with
  | kept b _ mem id type properties strays =>
    rw [type]
    exact ⟨properties ▸ (hc b mem).named, strays ▸ (hc b mem).stray⟩
  | merged b patch properties label mem origin valid =>
    exact (hc b mem).merge (hQ.validated (hQ.patch hc origin) valid) label
  | written b raw entries mem values valid =>
    rw [type_foldl_write]
    exact hQ.write values valid (hc b mem)
  | made n t properties position label within type defaults valid =>
    exact hQ.newBlock within type defaults valid position label

/-! ### Runs -/

/-- What an action loads is as asked. -/
def Brings (p : Palette) (V : Fields.View Value) (Q : String → Value × Value → Prop) (a : Action) :
    Prop :=
  ∀ d, a.drawing? p = some d → (∀ b ∈ d.blocks, b.isCopyable = true) → Carries V Q d.blocks

/-- **A condition in which every route ends holds after every run.** -/
theorem carries_of_run (hQ : Upholds p s Q) {actions : List Action}
    (h : ∀ a ∈ actions, a.Checked ∧ a.Within s ∧ Brings p V Q a) :
    Carries V Q (run p actions).blocks :=
  graph_induction (P := fun blocks _ ↦ Carries V Q blocks) (fun _ hb ↦ absurd hb List.not_mem_nil)
    (fun step hc hcarries ↦ step.carries hQ hc.blockIds hcarries) h

/-! ### Defaults -/

theorem checkDefaults_eq_ok_iff {t : BlockType} : checkDefaults t = .ok () ↔
    ∀ spec ∈ t.properties, spec.default.isCopyable = true ∧ spec.name.isName = true := by
  have hfault : t.defaultsFault? = none ↔
      ∀ spec ∈ t.properties, spec.default.isCopyable = true ∧ spec.name.isName = true := by
    rw [BlockType.defaultsFault?, List.findSome?_eq_none_iff]
    refine forall₂_congr fun spec _ ↦ ?_
    by_cases hcopy : spec.default.isCopyable = true
    · by_cases hname : spec.name.isName = true <;> simp [hcopy, hname]
    · simp [hcopy]
  rw [← hfault, checkDefaults]
  split
  · next hnone => simp [hnone]
  · next hdeep => simp [hdeep]
  · next hname => simp [hname]

/-- The defaults of a type are those of its properties. -/
theorem exists_of_mem_defaults {t : BlockType} {e : String × Value} (h : e ∈ t.defaults) :
    ∃ spec ∈ t.properties, spec.name = .text e.1 ∧ spec.default = e.2 := by
  obtain ⟨spec, hspec, hentry⟩ := List.mem_filterMap.1 (Fields.mem_of_mem_ofList h)
  obtain ⟨name, hname, rfl⟩ := Option.map_eq_some_iff.1 hentry
  exact ⟨spec, hspec, Value.text?_eq_some_iff.1 hname, rfl⟩

theorem exists_of_mem_strayDefaults {t : BlockType} {x : Stray} (h : x ∈ t.strayDefaults) :
    ∃ spec ∈ t.properties, spec.default = x.value := by
  have hmem := (Stray.mem_of_mem_ofEntries h).2
  rw [BlockType.declared?] at hmem
  split at hmem
  · obtain ⟨e, he, hvalue⟩ := Stray.exists_of_mem_distinct hmem
    obtain ⟨spec, hspec, rfl⟩ := List.mem_map.1 he
    exact ⟨spec, hspec, hvalue⟩
  · exact absurd hmem List.not_mem_nil

/-! ### What can be copied -/

/-- Whatever comes onto a canvas can be copied. -/
theorem upholds_isCopyable (p : Palette) :
    Upholds p .anything fun _ e ↦ e.2.isCopyable = true where
  defaults := by
    intro type t _ hdefaults
    have hcopy := checkDefaults_eq_ok_iff.1 hdefaults
    constructor
    · intro e he
      obtain ⟨spec, hspec, -, hdefault⟩ := exists_of_mem_defaults he
      exact hdefault ▸ (hcopy spec hspec).1
    · intro x hx
      obtain ⟨spec, hspec, hdefault⟩ := exists_of_mem_strayDefaults hx
      exact hdefault ▸ (hcopy spec hspec).1
  checked := by
    intro type e e' _ h
    obtain ⟨-, -, ⟨spec, -, hcoerce⟩ | ⟨-, hsame, hcopy⟩⟩ := checkedEntry_eq_ok h
    · exact Kind.isCopyable_of_isForm (Kind.isForm_of_coerce hcoerce)
    · rw [hsame]
      exact hcopy
  renamed := fun _ _ _ h ↦ h
  arguments := fun _ _ ↦ trivial
  noArguments := trivial

/-- What is read from a document holds nothing stray. -/
theorem strays_of_drawing? {a : Action} (ha : a.Checked) {d : Drawing} (h : a.drawing? p = some d) :
    ∀ b ∈ d.blocks, b.strays = [] := by
  obtain ⟨document, hopen⟩ := toDrawing_of_drawing? ha h
  obtain ⟨-, hblocks, -⟩ := Document.toDrawing_eq_ok hopen
  intro b hb
  obtain ⟨r, -, hr⟩ := exists_of_forall₂ hblocks hb
  obtain ⟨properties, -, rfl⟩ := Document.BlockRecord.toBlock_eq_ok_iff.1 hr
  rfl

/-- **Every property on a canvas can be copied**, after every run, and what is stray has no text for
its name. -/
theorem copyable_of_run {actions : List Action} (h : ∀ a ∈ actions, a.Checked) :
    Carries (.all Value) (fun _ e ↦ e.2.isCopyable = true) (run p actions).blocks := by
  refine carries_of_run (upholds_isCopyable p) fun a ha ↦ ⟨h a ha, a.within_anything, ?_⟩
  intro d hd hcopy b hb
  have hall : ∀ e ∈ b.entries, e.2.isCopyable = true := List.all_eq_true.1 (hcopy b hb)
  refine ⟨fun e he ↦ hall _ (Stray.mem_weave.2 (.inl ⟨e, he, rfl⟩)), fun x hx ↦ ?_⟩
  rw [strays_of_drawing? (h a ha) hd b hb] at hx
  exact absurd hx List.not_mem_nil

/-- **What a canvas shows can be copied**, after every run. -/
theorem snapshot_of_run {actions : List Action} (h : ∀ a ∈ actions, a.Checked)
    (name : Option String) :
    (run p actions).snapshot name = some ((run p actions).drawing name) := by
  refine if_pos (List.all_eq_true.2 fun b hb ↦ List.all_eq_true.2 fun e he ↦ ?_)
  exact (copyable_of_run h b hb).entries e he

/-- What is written down after a run is what the canvas shows. -/
theorem document_of_run {actions : List Action} (h : ∀ a ∈ actions, a.Checked) (clock : Clock)
    (heading : Document.Heading) (name : Option String) :
    (run p actions).document clock heading name =
      Document.ofDrawing clock heading ((run p actions).drawing name) := by
  rw [Canvas.document, snapshot_of_run h]

/-! ### Names that types declare -/

/-- The names that the type of a block declares can be names. -/
def Sayable (p : Palette) (b : Block) : Prop :=
  ∀ spec ∈ Document.specsOf (some p) b.type, spec.name.isName = true

/-- A step leaves only blocks whose type declares names that can be names. -/
theorem Step.sayable (h : Step p s c es c') (hids : (c.blocks.map Block.id).Nodup)
    (hc : ∀ b ∈ c.blocks, Sayable p b) : ∀ b ∈ c'.blocks, Sayable p b := by
  intro b' hb'
  cases h.holding hids b' hb' with
  | kept b _ mem id type properties strays =>
    rw [Sayable, type]
    exact hc b mem
  | merged b patch properties label mem origin valid => exact hc b mem
  | written b raw entries mem values valid =>
    rw [Sayable, type_foldl_write]
    exact hc b mem
  | made n t properties position label within type defaults valid =>
    -- The type was looked up, and its defaults were filled in under its names.
    refine Document.forall_specsOf.2 fun t' ht' spec hspec ↦ ?_
    have ht : p.get? t.id = some t := by rwa [Palette.id_of_get? type]
    obtain rfl : t = t' := Option.some.inj (ht.symm.trans ht')
    exact (checkDefaults_eq_ok_iff.1 defaults spec hspec).2

/-- **A block stands on a canvas only if its type declares names**, after every run. -/
theorem sayable_of_run {actions : List Action} (h : ∀ a ∈ actions, a.Checked) :
    ∀ b ∈ (run p actions).blocks, Sayable p b := by
  refine graph_induction (s := .anything) (P := fun blocks _ ↦ ∀ b ∈ blocks, Sayable p b)
    (fun _ hb ↦ absurd hb List.not_mem_nil) (fun step hc ↦ step.sayable hc.blockIds) fun a ha ↦
      ⟨h a ha, a.within_anything, fun d hd _ b hb ↦ ?_⟩
  obtain ⟨document, hopen⟩ := toDrawing_of_drawing? (h a ha) hd
  obtain ⟨r, -, hr⟩ := exists_of_forall₂ (Document.toDrawing_eq_ok hopen).2.1 hb
  obtain ⟨properties, hcoerce, rfl⟩ := Document.BlockRecord.toBlock_eq_ok_iff.1 hr
  exact Document.isName_of_coerceDeclared hcoerce

/-! ### Wires -/

/-- A patch leaves a mapping to texts, whatever the caller maps to. -/
theorem storable_patchedWire {w : Wire} (hw : w.Storable) {patch : Fields Value}
    {kind : ConnectionKind} {mapping : Fields Value}
    (h : patchedWire w.kind w.mapping patch = .ok (kind, mapping)) (id source target : String) :
    (⟨id, source, target, some kind, mapping⟩ : Wire).Storable := by
  refine ⟨⟨kind, rfl⟩, ?_⟩
  show ∃ texts, mapping = Fields.mapValues .text texts
  rcases patchedWire_eq_ok h with rfl | ⟨-, rfl | ⟨fields, rfl⟩⟩
  · exact ⟨[], rfl⟩
  · exact hw.mapping
  · refine ⟨Fields.mapValues Value.display fields, ?_⟩
    simp only [Fields.mapValues, List.map_map]
    rfl

/-- A step leaves every wire with a kind and a mapping that can be stored. -/
theorem Step.wires_storable (h : Step p s c es c') (hc : ∀ w ∈ c.wires, w.Storable) :
    ∀ w ∈ c'.wires, w.Storable := by
  cases h with
  | create h =>
    obtain ⟨n, t, properties, position, within, type, defaults, valid, place⟩ := h
    exact hc
  | change h =>
    cases h with
    | remove id b block plain childless =>
      rw [deselecting_eq]
      exact fun w hw ↦ hc w (List.mem_of_mem_filter hw)
    | connect source target data kind mapping ends new valid =>
      intro w hw
      rcases mem_putBy Wire.id hw with rfl | hw
      · exact storable_patchedWire (w := ⟨"", "", "", some .simple, []⟩) ⟨⟨_, rfl⟩, [], rfl⟩ valid
          _ _ _
      · exact hc w hw
    | disconnect id w wire =>
      rw [deselecting_eq]
      exact fun w hw ↦ hc w (List.mem_of_mem_filter hw)
    | select selection known =>
      rw [selecting_eq]
      exact hc
    | retouch h =>
      cases h with
      | rewire id w patch kind mapping wire valid =>
        intro w' hw'
        obtain ⟨v, hv, rfl⟩ := List.mem_map.1 hw'
        split
        · exact storable_patchedWire (hc w (mem_of_wire? wire).1) valid _ _ _
        · exact hc v hv
      | _ => exact hc

/-- Wires that are read from a record have a kind and map to texts. -/
theorem storable_toWire (r : Document.WireRecord) : r.toWire.Storable := by
  refine ⟨⟨_, rfl⟩, ?_⟩
  rw [Document.WireRecord.toWire]
  split
  · exact ⟨_, rfl⟩
  · exact ⟨[], rfl⟩

/-- **Every wire has a kind and maps to texts**, after every run. -/
theorem wires_of_run {actions : List Action} (h : ∀ a ∈ actions, a.Checked) :
    ∀ w ∈ (run p actions).wires, w.Storable := by
  refine graph_induction (s := .anything) (P := fun _ wires ↦ ∀ w ∈ wires, w.Storable)
    (fun _ hw ↦ absurd hw List.not_mem_nil) (fun step _ hc ↦ step.wires_storable hc) fun a ha ↦
      ⟨h a ha, a.within_anything, fun d hd _ w hw ↦ ?_⟩
  obtain ⟨document, hopen⟩ := toDrawing_of_drawing? (h a ha) hd
  rw [(Document.toDrawing_eq_ok hopen).2.2] at hw
  obtain ⟨r, -, rfl⟩ := List.mem_map.1 hw
  exact storable_toWire r

end Canvas

end FlowCanvas
