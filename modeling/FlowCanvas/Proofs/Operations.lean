import FlowCanvas.Proofs.Checks
import FlowCanvas.Proofs.Keyed
import FlowCanvas.Proofs.Steps

/-!
# The operations as traces

Each operation is taken apart once, here: it comes to a trace of steps (`Outcome.Traced`), whether
it is refused or not. The lemmas follow the operations. The pieces that they are put together from
(`given`, `andThen`, `after`, `map`) have one lemma each, so that the proof of an operation has the
shape of its definition.

**Deleting is the only operation whose steps see two canvases.** It frees the blocks inside first
and then removes the block from what is left, so it has to be known what freeing keeps:
`freed_forall₂` says what becomes of each block, and `freed_childless` that none is left inside.

**No operation makes two changes.** One that makes no block retouches, and then changes one thing at
most (`Outcome.Changed`); one that makes a block does so first and retouches afterwards
(`Outcome.Made`).

Where it matters what an operation came to, and not only which writes it is made of, its result is
read backwards: `createBlock_eq_ok`, `dropBlock_eq_ok`, `reparent_eq_ok`, `resolve_eq_ok`,
`moveBlock_eq_ok` and `deleteBlock_eq_ok` say what has happened if there is one.

From the operations the results go up to edits (`apply_changed`, `apply_makes`), to what an
instruction comes to (`carryOut_changed`, `carryOut_made`) and to instructions (`follow_traced`).
-/

namespace FlowCanvas

open Checks

/-- What an outcome did to a canvas is a trace of writes of some kind, and the events it fired are
those of the trace. -/
def Outcome.Traced {α : Type} (o : Outcome α) (R : Canvas → List Event → Canvas → Prop)
    (c : Canvas) : Prop :=
  Canvas.Trace R c o.events o.canvas

namespace Outcome.Traced

variable {α β : Type} {R S : Canvas → List Event → Canvas → Prop} {c : Canvas}

theorem fail (fault : Fault) : (Outcome.fail c fault : Outcome α).Traced R c :=
  .nil c

theorem ok (a : α) : (Outcome.ok c a).Traced R c :=
  .nil c

theorem mono {o : Outcome α} (hRS : ∀ {c es c'}, R c es c' → S c es c') (h : o.Traced R c) :
    o.Traced S c :=
  Canvas.Trace.mono hRS h

theorem map {o : Outcome α} (f : α → β) (h : o.Traced R c) : (o.map f).Traced R c :=
  h

theorem given {check : Except Fault α} {f : α → Outcome β}
    (h : ∀ a, check = .ok a → (f a).Traced R c) : (Outcome.given c check f).Traced R c := by
  cases check with
  | error fault => exact fail fault
  | ok a => exact h a rfl

/-- One write and nothing else. -/
theorem step {c' : Canvas} {es : List Event} {r : Except Fault α} (h : R c es c') :
    (⟨r, c', es⟩ : Outcome α).Traced R c :=
  .single h

theorem after {c' : Canvas} {es : List Event} {o : Outcome α} (h : R c es c')
    (ho : o.Traced R c') : (o.after es).Traced R c :=
  .cons h ho

theorem andThen {o : Outcome α} {f : α → Canvas → Outcome β} (h : o.Traced R c)
    (hf : ∀ a, o.result = .ok a → (f a o.canvas).Traced R o.canvas) :
    (o.andThen f).Traced R c := by
  unfold Outcome.andThen
  split
  · exact h
  · next a ha => exact h.trans (hf a ha)

end Outcome.Traced

/-- **What an operation that makes no block does**: it retouches, and then changes one thing at
most. -/
def Outcome.Changed {α : Type} (o : Outcome α) (p : Palette) (s : Supply) (c : Canvas) : Prop :=
  ∃ c' es fs, Canvas.Trace (Canvas.Retouch p s) c es c' ∧ o.events = es ++ fs ∧
    (o.canvas = c' ∧ fs = [] ∨ Canvas.Change p s c' fs o.canvas)

namespace Outcome.Changed

variable {α β : Type} {p : Palette} {s : Supply} {c : Canvas}

theorem retouched {o : Outcome α} (h : o.Traced (Canvas.Retouch p s) c) : o.Changed p s c :=
  ⟨o.canvas, o.events, [], h, by rw [List.append_nil], .inl ⟨rfl, rfl⟩⟩

/-- One change and nothing else. -/
theorem step {c' : Canvas} {es : List Event} {r : Except Fault α} (h : Canvas.Change p s c es c') :
    (⟨r, c', es⟩ : Outcome α).Changed p s c :=
  ⟨c, [], es, .nil c, rfl, .inr h⟩

theorem map {o : Outcome α} (f : α → β) (h : o.Changed p s c) : (o.map f).Changed p s c :=
  h

theorem given {check : Except Fault α} {f : α → Outcome β}
    (h : ∀ a, check = .ok a → (f a).Changed p s c) : (Outcome.given c check f).Changed p s c := by
  cases check with
  | error fault => exact retouched (.fail fault)
  | ok a => exact h a rfl

/-- The change comes last. -/
theorem andThen {o : Outcome α} {f : α → Canvas → Outcome β}
    (h : o.Traced (Canvas.Retouch p s) c)
    (hf : ∀ a, o.result = .ok a → (f a o.canvas).Changed p s o.canvas) :
    (o.andThen f).Changed p s c := by
  unfold Outcome.andThen
  split
  · exact retouched h
  · next a ha =>
    obtain ⟨c', es, fs, htrace, hevents, hchange⟩ := hf a ha
    refine ⟨c', o.events ++ es, fs, h.trans htrace, ?_, hchange⟩
    show o.events ++ (f a o.canvas).events = o.events ++ es ++ fs
    rw [hevents, List.append_assoc]

theorem traced {o : Outcome α} (h : o.Changed p s c) : o.Traced (Canvas.Change p s) c := by
  obtain ⟨c', es, fs, htrace, hevents, hchange⟩ := h
  show Canvas.Trace _ c o.events o.canvas
  rw [hevents]
  refine (htrace.mono .retouch).trans ?_
  rcases hchange with ⟨hcanvas, rfl⟩ | hchange
  · rw [hcanvas]
    exact .nil c'
  · exact .single hchange

end Outcome.Changed

/-- A check is refused, and nothing happens, or it comes through and what follows it happens. -/
theorem Outcome.given_cases {α β : Type} (c : Canvas) (check : Except Fault α)
    (f : α → Outcome β) :
    (∃ fault, check = .error fault ∧ Outcome.given c check f = .fail c fault) ∨
      ∃ a, check = .ok a ∧ Outcome.given c check f = f a := by
  cases check with
  | error fault => exact .inl ⟨fault, rfl, rfl⟩
  | ok a => exact .inr ⟨a, rfl, rfl⟩

/-- An operation behind a check has a result only if the check came through. -/
theorem Outcome.given_eq_ok {α β : Type} {c : Canvas} {check : Except Fault α}
    {f : α → Outcome β} {b : β} (h : (Outcome.given c check f).result = .ok b) :
    ∃ a, check = .ok a ∧ Outcome.given c check f = f a := by
  obtain ⟨fault, -, hfail⟩ | h' := Outcome.given_cases c check f
  · rw [hfail] at h
    exact absurd h (by simp [Outcome.fail])
  · exact h'

theorem Palette.id_of_get? {p : Palette} {type : String} {t : BlockType}
    (h : p.get? type = some t) : t.id = type := by
  simpa using List.find?_some h

/-- The label is the value of one of the entries. -/
theorem mem_of_takeLabel {entries : List (Value × Value)} {v : Value}
    (h : (takeLabel entries).1 = some v) : ∃ e ∈ entries, e.2 = v := by
  obtain ⟨e, he, rfl⟩ := Option.map_eq_some_iff.1 h
  exact ⟨e, List.mem_of_find?_eq_some he, rfl⟩

/-- Two operations one after the other have a result only if both have. -/
theorem Outcome.andThen_eq_ok {α β : Type} {o : Outcome α} {f : α → Canvas → Outcome β} {b : β}
    (h : (o.andThen f).result = .ok b) :
    ∃ a, o.result = .ok a ∧ (f a o.canvas).result = .ok b ∧
      (o.andThen f) = (f a o.canvas).after o.events := by
  unfold Outcome.andThen at h ⊢
  rcases hresult : o.result with fault | a
  · simp [hresult] at h
  · simp only [hresult] at h
    exact ⟨a, rfl, h, rfl⟩

namespace Canvas

variable {p : Palette} {s : Supply} {c : Canvas}

theorem block_eq_ok_iff {id : String} {b : Block} : c.block id = .ok b ↔ c.block? id = some b := by
  unfold block
  split <;> simp_all

theorem wire_eq_ok_iff {id : String} {w : Wire} : c.wire id = .ok w ↔ c.wire? id = some w := by
  unfold wire
  split <;> simp_all

theorem mem_of_block? {id : String} {b : Block} (h : c.block? id = some b) :
    b ∈ c.blocks ∧ b.id = id :=
  ⟨List.mem_of_find?_eq_some h, by simpa using List.find?_some h⟩

theorem mem_of_wire? {id : String} {w : Wire} (h : c.wire? id = some w) :
    w ∈ c.wires ∧ w.id = id :=
  ⟨List.mem_of_find?_eq_some h, by simpa using List.find?_some h⟩

/-- A text names the block that has it for an id. -/
theorem blockNamed_text {id : String} {b : Block} (h : c.block? id = some b) :
    c.blockNamed (.text id) = .ok b := by
  simp [blockNamed, blockNamed?, Value.lookupText?, Value.isName, Value.text?, Except.map, h, bind,
    Except.bind, pure, Except.pure]

theorem ofText?_inj {q r : Option String} (h : Value.ofText? q = .ofText? r) : q = r := by
  cases q <;> cases r <;> simp_all [Value.ofText?]

/-- Only a text names anything. -/
theorem eq_text_of_lookupText? {v : Value} {id : String} (h : v.lookupText? = .ok (some id)) :
    v = .text id := by
  unfold Value.lookupText? at h
  split at h
  · cases v with
    | text s => exact congrArg Value.text (Option.some.inj (Except.ok.inj h))
    | _ => exact absurd h (by simp [Value.text?])
  · exact absurd h (by simp)

/-- Only the text of its id names a block. -/
theorem eq_text_of_blockNamed? {v : Value} {b : Block} (h : c.blockNamed? v = .ok (some b)) :
    v = .text b.id ∧ c.block? b.id = some b := by
  obtain ⟨name, hname, hfound⟩ := map_eq_ok_iff.1 h
  obtain ⟨id, rfl, hb⟩ := Option.bind_eq_some_iff.1 hfound
  obtain ⟨-, rfl⟩ := mem_of_block? hb
  exact ⟨eq_text_of_lookupText? hname, hb⟩

theorem eq_text_of_blockNamed {v : Value} {b : Block} (h : c.blockNamed v = .ok b) :
    v = .text b.id ∧ c.block? b.id = some b := by
  obtain ⟨found, hfound, h⟩ := bind_eq_ok_iff.1 h
  split at h
  · obtain rfl := pure_eq_ok_iff.1 h
    exact eq_text_of_blockNamed? hfound
  · exact absurd h (by simp [throw_eq_ok_iff])

theorem eq_text_of_endpoint {v : Value} {id : String} (h : c.endpoint v = .ok id) :
    v = .text id := by
  obtain ⟨found, hfound, h⟩ := bind_eq_ok_iff.1 h
  split at h
  · obtain rfl := pure_eq_ok_iff.1 h
    exact (eq_text_of_blockNamed? hfound).1
  · exact absurd h (by simp [throw_eq_ok_iff])

theorem eq_text_of_wireNamed {v : Value} {w : Wire} (h : c.wireNamed v = .ok w) :
    v = .text w.id ∧ c.wire? w.id = some w := by
  obtain ⟨name, hname, h⟩ := bind_eq_ok_iff.1 h
  split at h
  · next w' hfound =>
    obtain rfl := pure_eq_ok_iff.1 h
    obtain ⟨id, rfl, hw⟩ := Option.bind_eq_some_iff.1 hfound
    obtain ⟨-, rfl⟩ := mem_of_wire? hw
    exact ⟨eq_text_of_lookupText? hname, hw⟩
  · exact absurd h (by simp [throw_eq_ok_iff])

/-- Changing a block, its id kept, changes what is found. -/
theorem block?_modifyBlock {id : String} {f : Block → Block} (hf : ∀ b, (f b).id = b.id)
    (k : String) : (c.modifyBlock id f).block? k =
      (c.block? k).map fun b ↦ if b.id = id then f b else b := by
  refine find?_key_map Block.id fun b _ ↦ ?_
  split
  · exact hf b
  · rfl

/-- A block of a type may be made if the type is known and the canvas has no entry point yet that
it would be a second of. -/
theorem checkType_eq_ok_iff {type : String} {t : BlockType} :
    c.checkType p type = .ok t ↔
      p.get? type = some t ∧ (t.entryPoint = true → c.entryBlock? p = none) := by
  unfold checkType
  rcases p.get? type with - | u
  · simp
  · by_cases hu : u.entryPoint = true
    · rcases he : c.entryBlock? p with - | b
      · simp [hu]
      · simp only [hu, if_true, reduceCtorEq, Option.some.injEq, false_iff, not_and]
        rintro rfl h
        exact h hu
    · simp only [hu, Bool.false_eq_true, if_false, Except.ok.injEq, Option.some.injEq]
      constructor
      · rintro rfl
        exact ⟨rfl, fun h ↦ absurd h hu⟩
      · exact And.left

/-! ### Making and changing blocks -/

/-- **What making a block comes to**, where it has a result. -/
theorem createBlock_eq_ok {n : NewBlock} {id : String} (h : (c.createBlock p n).result = .ok id) :
    ∃ t properties position, c.checkType p n.type = .ok t ∧
      validated p n.type (Fields.erase n.properties "label") = .ok properties ∧
      Point.ofValue n.position = .ok position ∧ id = c.ids.blockId ∧
      c.createBlock p n = ⟨.ok id,
        { c with ids := c.ids.afterBlock }.putBlock
          (c.newBlock t properties position ((Fields.get? n.properties "label").getD n.label)),
        [.blockCreated id n.type]⟩ := by
  unfold createBlock at h ⊢
  obtain ⟨t, ht, h₁⟩ := Outcome.given_eq_ok h
  rw [h₁] at h ⊢
  obtain ⟨_, -, h₂⟩ := Outcome.given_eq_ok h
  rw [h₂] at h ⊢
  obtain ⟨properties, hp, h₃⟩ := Outcome.given_eq_ok h
  rw [h₃] at h ⊢
  split at h
  · exact absurd h (by simp [Outcome.fail])
  · next hnames =>
    rw [if_neg hnames]
    rcases hpos : Point.ofValue n.position with why | position
    · simp [hpos, Outcome.fail] at h
    · simp only [hpos, Except.ok.injEq] at h
      subst h
      exact ⟨t, properties, position, ht, hp, rfl, rfl, rfl⟩

theorem updateBlock_traced {id : String} {patch : Fields Value} (h : Patch s c patch) :
    (c.updateBlock p id patch).Traced (RetouchAt p s id) c := by
  refine .given fun b hb ↦ .given fun properties hp ↦ ?_
  exact .step ⟨.update c id b patch properties _ (block_eq_ok_iff.1 hb) h hp, _, rfl⟩

/-- Binding a call is a patch with a name that is given and arguments that the canvas has. -/
theorem bindCall_traced {id : String} {name : Value} (h : s.value name) :
    (c.bindCall p id name).Traced (RetouchAt p s id) c := by
  refine .given fun b _ ↦ ?_
  split
  · exact .fail _
  · split
    · exact .fail _
    · next d hd =>
      split
      · exact .fail _
      · next arguments ha => exact updateBlock_traced (.call name d arguments h hd ha)

theorem updateEntries_traced {id : String} {entries : List (Value × Value)}
    (h : ∀ e ∈ entries, s.value e.2) :
    (c.updateEntries p id entries).Traced (RetouchAt p s id) c := by
  refine .given fun b hb ↦ .given fun others ho ↦ ?_
  have hlabel : ∀ v ∈ (takeLabel entries).1, s.value v := by
    intro v hv
    obtain ⟨e, he, rfl⟩ := mem_of_takeLabel hv
    exact h e he
  have hothers : ∀ e ∈ (takeLabel entries).2, s.value e.2 := fun e he ↦
    h e (List.mem_of_mem_filter he)
  have hwrite : RetouchAt p s id c [] (c.writeEntries id others) :=
    ⟨.write c id b _ others (block_eq_ok_iff.1 hb) hothers ho, _, rfl⟩
  -- The entries and the label are written in two steps; only the second may be reported.
  split
  · exact .cons hwrite (.single ⟨.relabel _ id _ hlabel [] (.inl rfl), _, rfl⟩)
  · next names _ =>
    exact .cons hwrite (.single ⟨.relabel _ id _ hlabel _ (.inr ⟨names, rfl⟩), _, rfl⟩)

/-! ### Moving blocks -/

theorem reparent_traced {id : String} {parent : Option String} {position : Value}
    (h : position = .null ∨ s.place position) :
    (c.reparent p id parent position).Traced (RetouchAt p s id) c := by
  refine .given fun b hb ↦ .given fun _ hallowed ↦ .given fun place hplace ↦ ?_
  refine .step ⟨.nest c id b parent position place (block_eq_ok_iff.1 hb) h ?_ hplace, _, rfl⟩
  rintro q rfl
  exact hallowed

theorem resolve_traced {id : String} : (c.resolve p id).Traced (RetouchAt p s id) c := by
  refine .given fun b _ ↦ ?_
  split
  · exact .ok _
  · refine .given fun spot _ ↦ .given fun found _ ↦ ?_
    split
    · split
      · exact .ok _
      · exact .map _ (reparent_traced (.inl rfl))
    · split
      · exact .map _ (reparent_traced (.inl rfl))
      · exact .ok _

theorem moveBlock_traced {id : String} {position : Value} (h : s.place position) :
    (c.moveBlock p id position).Traced (RetouchAt p s id) c := by
  refine .given fun b hb ↦ ?_
  split
  · exact .fail _
  · next place hplace =>
    refine .given fun _ _ ↦ .given fun _ _ ↦ ?_
    exact .after ⟨.move c id b position place (block_eq_ok_iff.1 hb) h hplace, _, rfl⟩
      resolve_traced

/-- **What giving a block a parent comes to**, where it has a result. -/
theorem reparent_eq_ok {id : String} {parent : Option String} {position : Value}
    (h : (c.reparent p id parent position).result = .ok ()) :
    ∃ b place, c.block? id = some b ∧ (∀ q, parent = some q → c.checkParent p id q = .ok ()) ∧
      c.placeUnder id parent position = .ok place ∧
      c.reparent p id parent position =
        ⟨.ok (), c.modifyBlock id fun b ↦ { b with parent := parent, position := place },
          [.blockReparented id parent b.parent place]⟩ := by
  unfold reparent at h ⊢
  obtain ⟨b, hb, h₁⟩ := Outcome.given_eq_ok h
  rw [h₁] at h ⊢
  obtain ⟨_, hallowed, h₂⟩ := Outcome.given_eq_ok h
  rw [h₂] at h ⊢
  obtain ⟨place, hplace, h₃⟩ := Outcome.given_eq_ok h
  rw [h₃]
  refine ⟨b, place, block_eq_ok_iff.1 hb, ?_, hplace, rfl⟩
  rintro q rfl
  exact hallowed

/-- **What resolving the parent of a block comes to**, where it has a result. Containers stay where
they are. Of any other block the container under it is looked up; if that is its parent nothing
happens, and otherwise the block gets it for a parent, in its place on the canvas. -/
theorem resolve_eq_ok {id : String} {changed : Bool} (h : (c.resolve p id).result = .ok changed) :
    ∃ b, c.block? id = some b ∧
      (p.isContainer b.type = true ∧ c.resolve p id = .ok c false ∨
        p.isContainer b.type = false ∧ ∃ spot found, c.absolute id = .ok spot ∧
          c.containerAt p spot (some id) = .ok found ∧
          (b.parent = found.map Block.id ∧ c.resolve p id = .ok c false ∨
            b.parent ≠ found.map Block.id ∧
              (c.reparent p id (found.map Block.id) .null).result = .ok () ∧
              c.resolve p id =
                (c.reparent p id (found.map Block.id) .null).map fun _ ↦ true)) := by
  unfold resolve at h ⊢
  obtain ⟨b, hb, h₁⟩ := Outcome.given_eq_ok h
  rw [h₁] at h ⊢
  refine ⟨b, block_eq_ok_iff.1 hb, ?_⟩
  split at h
  · next hcontainer =>
    rw [if_pos hcontainer]
    exact .inl ⟨hcontainer, rfl⟩
  · next hplain =>
    rw [if_neg hplain]
    obtain ⟨spot, hspot, h₂⟩ := Outcome.given_eq_ok h
    rw [h₂] at h ⊢
    obtain ⟨found, hfound, h₃⟩ := Outcome.given_eq_ok h
    rw [h₃] at h ⊢
    refine .inr ⟨by simpa using hplain, spot, found, hspot, hfound, ?_⟩
    rcases found with - | k
    · by_cases hparent : b.parent.isSome = true
      · simp only [hparent, if_true] at h ⊢
        obtain ⟨_, hok, -⟩ := map_eq_ok_iff.1 h
        exact .inr ⟨by simpa [Option.isSome_iff_ne_none] using hparent, hok, rfl⟩
      · simp only [hparent, if_false, Bool.false_eq_true]
        exact .inl ⟨by simpa using hparent, trivial⟩
    · by_cases hparent : b.parent = some k.id
      · simp only [hparent, if_true]
        exact .inl ⟨rfl, trivial⟩
      · simp only [hparent, if_false] at h ⊢
        obtain ⟨_, hok, -⟩ := map_eq_ok_iff.1 h
        exact .inr ⟨hparent, hok, rfl⟩

/-- **What ending a drag comes to**, where it has a result: the block is put at the place in its
frame and its parent resolved. The container under it was looked up before. -/
theorem moveBlock_eq_ok {id : String} {position : Value} {changed : Bool}
    (h : (c.moveBlock p id position).result = .ok changed) :
    ∃ b place spot, c.block? id = some b ∧ Point.ofValue position = .ok place ∧
      c.toAbsolute place b.parent = .ok spot ∧ c.hitTest p (some id) spot = .ok () ∧
      ((c.modifyBlock id fun b ↦ { b with position := place }).resolve p id).result =
        .ok changed ∧
      c.moveBlock p id position =
        ((c.modifyBlock id fun b ↦ { b with position := place }).resolve p id).after
          [.blockMoved id place] := by
  unfold moveBlock at h ⊢
  obtain ⟨b, hb, h₁⟩ := Outcome.given_eq_ok h
  rw [h₁] at h ⊢
  rcases hplace : Point.ofValue position with why | place
  · simp [hplace, Outcome.fail] at h
  · simp only [hplace] at h ⊢
    obtain ⟨spot, hspot, h₂⟩ := Outcome.given_eq_ok h
    rw [h₂] at h ⊢
    obtain ⟨_, htest, h₃⟩ := Outcome.given_eq_ok h
    rw [h₃] at h ⊢
    exact ⟨b, place, spot, block_eq_ok_iff.1 hb, rfl, hspot, htest, h, rfl⟩

/-! ### Deleting blocks -/

/-- Where every place has a sum, no block is left inside. -/
theorem freed_childless {id : String} {corner : Point} {blocks : List Block}
    (h : (freed id corner blocks).2 = .ok ()) :
    ∀ b ∈ (freed id corner blocks).1, b.parent ≠ some id := by
  fun_induction freed id corner blocks with
  | case1 => simp
  | case2 b rest hb fault hspot => simp at h
  | case3 b rest hb spot hspot others result hrest ih =>
    rw [hrest] at ih
    exact List.forall_mem_cons.2 ⟨by simp, ih h⟩
  | case4 b rest hb others result hrest ih =>
    rw [hrest] at ih
    exact List.forall_mem_cons.2 ⟨hb, ih h⟩

/-- What is inside a block is set free, one block after the other. -/
theorem freeChildren_traced {id : String} : (c.freeChildren id).Traced (Retouch p s) c := by
  unfold freeChildren
  split
  · exact .ok _
  · exact .given fun corner hcorner ↦ .step (.free c id corner hcorner)

/-- What deleting a container does to another block: nothing, or it sets the block free at its place
on the canvas. -/
def Released (c : Canvas) (id : String) (b b' : Block) : Prop :=
  b' = b ∨ ∃ corner spot, c.absolute id = .ok corner ∧ b.parent = some id ∧
    b.position.plus corner = .ok spot ∧ b' = { b with position := spot, parent := none }

theorem Released.type_eq {id : String} {b b' : Block} (h : c.Released id b b') :
    b'.type = b.type := by
  obtain rfl | ⟨corner, spot, -, -, -, rfl⟩ := h <;> rfl

theorem Released.id_eq {id : String} {b b' : Block} (h : c.Released id b b') : b'.id = b.id := by
  obtain rfl | ⟨corner, spot, -, -, -, rfl⟩ := h <;> rfl

/-- **What freeing leaves**, where it comes through: the same canvas with other blocks, none of them
inside the container, and each block as it was or released. -/
theorem freeChildren_eq_ok {id : String} (h : (c.freeChildren id).result = .ok ()) :
    ∃ blocks, (c.freeChildren id).canvas = { c with blocks := blocks } ∧
      (c.freeChildren id).events = [] ∧ (∀ b ∈ blocks, b.parent ≠ some id) ∧
      List.Forall₂ (c.Released id) c.blocks blocks := by
  unfold freeChildren at h ⊢
  split at h
  · next hnone =>
    rw [if_pos hnone]
    refine ⟨c.blocks, rfl, rfl, fun b hb hparent ↦ ?_, List.forall₂_same.2 fun b _ ↦ Or.inl rfl⟩
    have hchild : b ∈ c.childrenOf id := by simpa [childrenOf, hparent] using hb
    rw [List.isEmpty_iff.1 hnone] at hchild
    exact List.not_mem_nil hchild
  · next hsome =>
    rw [if_neg hsome]
    rcases hcorner : c.absolute id with fault | corner
    · simp [hcorner, Outcome.given, Outcome.fail] at h
    · rw [hcorner] at h
      refine ⟨(freed id corner c.blocks).1, rfl, rfl, freed_childless h,
        (freed_forall₂ id corner c.blocks).imp fun b b' hfreed ↦ ?_⟩
      obtain rfl | ⟨spot, hparent, hspot, rfl⟩ := hfreed
      · exact .inl rfl
      · exact .inr ⟨corner, spot, hcorner, hparent, hspot, rfl⟩

theorem deleteBlock_changed {id : String} : (c.deleteBlock p id).Changed p s c := by
  refine .given fun b hb ↦ ?_
  split
  · exact .retouched (.fail _)
  · next plain =>
    refine .andThen freeChildren_traced fun _ hfree ↦ ?_
    obtain ⟨blocks, hcanvas, -, childless, hkept⟩ := freeChildren_eq_ok hfree
    obtain ⟨b', hb', hreleased⟩ :=
      find?_key_forall₂ Block.id Released.id_eq hkept (block_eq_ok_iff.1 hb)
    rw [hcanvas]
    -- Freeing changes neither wires nor selection, so the step may read them off what is left.
    refine .step (.remove { c with blocks := blocks } id b' hb' ?_ childless)
    rw [hreleased.type_eq]
    simpa using plain

/-- Without a block, whatever is found was found before. -/
theorem block?_without {id k : String} {b : Block} (h : (c.without id).block? k = some b) :
    c.block? k = some b := by
  obtain ⟨hb, rfl⟩ := mem_of_block? h
  have hne : b.id ≠ id := by simpa using (List.mem_filter.1 hb).2
  rw [block?, without, List.find?_filter] at h
  rw [block?, ← h]
  refine congrArg (c.blocks.find? ·) (funext fun k ↦ ?_)
  by_cases hk : k.id = b.id
  · simp [hk, hne]
  · simp [hk]

/-- **What deleting a block comes to**, where it comes through: of the other blocks, each is as it
was or released, and none is inside the block. -/
theorem deleteBlock_inv {id : String} (h : (c.deleteBlock p id).result = .ok ()) :
    ∃ blocks, List.Forall₂ (c.Released id) c.blocks blocks ∧ (∀ b ∈ blocks, b.parent ≠ some id) ∧
      c.deleteBlock p id = ⟨.ok (),
        (deselecting (c.losesSelection id (c.wireIdsOf id) = true)
          ({ c with blocks := blocks }.without id)).1,
        (deselecting (c.losesSelection id (c.wireIdsOf id) = true)
          ({ c with blocks := blocks }.without id)).2 ++ [.blockDeleted id (c.wireIdsOf id)]⟩ := by
  unfold deleteBlock at h ⊢
  obtain ⟨b, -, hblock⟩ := Outcome.given_eq_ok h
  rw [hblock] at h ⊢
  split at h
  · exact absurd h (by simp [Outcome.fail])
  · next hplain =>
    rw [if_neg hplain]
    obtain ⟨_, hfree, -, hthen⟩ := Outcome.andThen_eq_ok h
    obtain ⟨blocks, hcanvas, hevents, childless, hkept⟩ := freeChildren_eq_ok hfree
    rw [hthen, hcanvas, hevents]
    exact ⟨blocks, hkept, childless, rfl⟩

/-- **What deleting a block does**, where it comes through: it reports the block and maybe the lost
selection, and what is left of the others is as it was or released. -/
theorem deleteBlock_eq_ok {id : String} (h : (c.deleteBlock p id).result = .ok ()) :
    ∃ es, (∀ e ∈ es, e = .selectionChanged none none) ∧
      (c.deleteBlock p id).events = es ++ [.blockDeleted id (c.wireIdsOf id)] ∧
      ∀ {k : String} {b b' : Block}, c.block? k = some b →
        (c.deleteBlock p id).canvas.block? k = some b' →
        c.Released id b b' ∧ b'.parent ≠ some id := by
  obtain ⟨blocks, hkept, childless, heq⟩ := deleteBlock_inv h
  rw [heq]
  refine ⟨_, fun e he ↦ mem_deselecting he, rfl, fun {k b b'} hb hb' ↦ ?_⟩
  obtain ⟨b'', hb'', hreleased⟩ := find?_key_forall₂ Block.id Released.id_eq hkept hb
  rw [deselecting_eq] at hb'
  obtain rfl : b'' = b' := Option.some.inj (hb''.symm.trans (block?_without hb'))
  exact ⟨hreleased, childless b'' (List.mem_of_find?_eq_some hb'')⟩

/-! ### Wires and selection -/

theorem createWire_changed {source target : String} {data : Fields Value} :
    (c.createWire source target data).Changed p s c := by
  refine .given fun _ hends ↦ ?_
  split
  · exact .retouched (.ok _)
  · next hnew =>
    refine .given fun wired hvalid ↦ ?_
    obtain ⟨kind, mapping⟩ := wired
    dsimp only
    split
    · exact .retouched (.fail _)
    · exact .step (.connect c source target data kind mapping hends hnew hvalid)

/-- **What joining two blocks comes to**: they are joined already, or a wire is put on the
canvas. -/
theorem createWire_eq_ok {source target id : String} {data : Fields Value}
    (h : (c.createWire source target data).result = .ok id) :
    ((∃ w ∈ c.wires, w.id = id ∧ w.source = source ∧ w.target = target) ∧
      c.createWire source target data = .ok c id) ∨
    (∀ w ∈ c.wires, w.source = source → w.target ≠ target) ∧ id = c.ids.wireId ∧
      ∃ kind mapping, c.createWire source target data = ⟨.ok id,
        { c with ids := c.ids.afterWire }.putWire
          ⟨c.ids.wireId, source, target, some kind, mapping⟩,
        [.wireCreated id source target]⟩ := by
  unfold createWire at h ⊢
  obtain ⟨_, -, hends⟩ := Outcome.given_eq_ok h
  rw [hends] at h ⊢
  split at h
  · next w hw =>
    obtain rfl : w.id = id := Except.ok.inj h
    have hjoined := List.find?_some hw
    rw [Bool.and_eq_true, beq_iff_eq, beq_iff_eq] at hjoined
    exact .inl ⟨⟨w, List.mem_of_find?_eq_some hw, rfl, hjoined⟩, rfl⟩
  · next hnew =>
    obtain ⟨⟨kind, mapping⟩, -, hvalid⟩ := Outcome.given_eq_ok h
    rw [hvalid] at h ⊢
    dsimp only at h ⊢
    split at h
    · exact absurd h (by simp [Outcome.fail])
    · next hnames =>
      rw [if_neg hnames]
      obtain rfl : c.ids.wireId = id := Except.ok.inj h
      refine .inr ⟨fun w hw hsource htarget ↦ ?_, rfl, kind, mapping, rfl⟩
      exact List.find?_eq_none.1 hnew w hw (by simp [hsource, htarget])

theorem deleteWire_changed {id : String} : (c.deleteWire id).Changed p s c := by
  refine .given fun w hw ↦ ?_
  exact .step (.disconnect c id w (wire_eq_ok_iff.1 hw))

/-- What deleting a wire comes to. -/
theorem deleteWire_eq_ok {id : String} (h : (c.deleteWire id).result = .ok ()) :
    ∃ w, c.wire? id = some w ∧ (c.deleteWire id).canvas =
      { c.withoutWire id with
        selection := if c.selection = .wire id then .nothing else c.selection } := by
  unfold deleteWire at h ⊢
  obtain ⟨w, hw, heq⟩ := Outcome.given_eq_ok h
  rw [heq]
  exact ⟨w, wire_eq_ok_iff.1 hw, deselecting_eq _ (c.withoutWire id)⟩

theorem updateWire_traced {id : String} {patch : Fields Value} :
    (c.updateWire id patch).Traced (Retouch p s) c := by
  refine .given fun w hw ↦ .given fun (kind, mapping) hvalid ↦ ?_
  exact .step (.rewire c id w patch kind mapping (wire_eq_ok_iff.1 hw) hvalid)

theorem select_changed {selection : Selection} : (c.select selection).Changed p s c := by
  refine .given fun _ hknown ↦ ?_
  refine .step (.select c selection ?_)
  cases selection with
  | nothing => exact trivial
  | block id =>
    obtain ⟨b, hb, -⟩ := map_eq_ok_iff.1 hknown
    have hfound : c.block? id = some b := block_eq_ok_iff.1 hb
    exact ⟨b, mem_of_block? hfound⟩
  | wire id =>
    obtain ⟨w, hw, -⟩ := map_eq_ok_iff.1 hknown
    have hfound : c.wire? id = some w := wire_eq_ok_iff.1 hw
    exact ⟨w, mem_of_wire? hfound⟩

/-! ### Making blocks -/

end Canvas

/-- **What an operation that is to make a block does**: it makes none, or it makes one first and
retouches that one afterwards. -/
def Outcome.Made {α : Type} (o : Outcome α) (p : Palette) (s : Supply) (c : Canvas) : Prop :=
  o.Traced (Canvas.Retouch p s) c ∨ ∃ c' es fs, Canvas.Create p s c es c' ∧ o.events = es ++ fs ∧
    Canvas.Trace (Canvas.RetouchAt p s c.ids.blockId) c' fs o.canvas

namespace Outcome.Made

variable {α β : Type} {p : Palette} {s : Supply} {c : Canvas}

theorem map {o : Outcome α} (f : α → β) (h : o.Made p s c) : (o.map f).Made p s c :=
  h

theorem given {check : Except Fault α} {f : α → Outcome β}
    (h : ∀ a, check = .ok a → (f a).Made p s c) : (Outcome.given c check f).Made p s c := by
  cases check with
  | error fault => exact .inl (.fail fault)
  | ok a => exact h a rfl

theorem andThen {o : Outcome α} {f : α → Canvas → Outcome β} (h : o.Made p s c)
    (hf : ∀ a, o.result = .ok a →
      (f a o.canvas).Traced (Canvas.RetouchAt p s c.ids.blockId) o.canvas) :
    (o.andThen f).Made p s c := by
  unfold Outcome.andThen
  split
  · exact h
  · next a ha =>
    rcases h with h | ⟨c', es, fs, hcreate, hevents, htrace⟩
    · exact .inl (h.trans ((hf a ha).mono And.left))
    · refine .inr ⟨c', es, fs ++ (f a o.canvas).events, hcreate, ?_, htrace.trans (hf a ha)⟩
      show o.events ++ (f a o.canvas).events = es ++ (fs ++ (f a o.canvas).events)
      rw [hevents, List.append_assoc]

theorem traced {o : Outcome α} (h : o.Made p s c) : o.Traced (Canvas.Step p s) c := by
  rcases h with h | ⟨c', es, fs, hcreate, hevents, htrace⟩
  · exact h.mono fun h ↦ .change (.retouch h)
  · show Canvas.Trace _ c o.events o.canvas
    rw [hevents]
    exact .cons (.create hcreate) (htrace.mono fun h ↦ .change (.retouch h.1))

end Outcome.Made

namespace Canvas

variable {p : Palette} {s : Supply} {c : Canvas}

/-- Making a block makes it, or uses a number up at most. -/
theorem createBlock_made {n : NewBlock} (h : n.Within s) : (c.createBlock p n).Made p s c := by
  refine .given fun t ht ↦ .given fun _ hd ↦ .given fun properties hp ↦ ?_
  split
  · exact .inl (.fail _)
  · split
    · exact .inl (.step (.number c))
    · next position hpos =>
      exact .inr ⟨_, _, [], .make c n t properties position h ht hd hp hpos, rfl, .nil _⟩

/-- A block that is dropped is made, and then that block alone is retouched. -/
theorem dropBlock_made {n : NewBlock} (h : n.Within s) : (c.dropBlock p n).Made p s c := by
  unfold dropBlock
  split
  · exact .inl (.fail _)
  · refine .given fun _ _ ↦ .andThen (createBlock_made h) fun id hid ↦ ?_
    obtain ⟨t, properties, position, -, -, -, rfl, -⟩ := createBlock_eq_ok hid
    exact .map _ resolve_traced

/-- Under the id that was answered stands a block of the type asked for. -/
theorem createBlock_block? {n : NewBlock} {id : String}
    (h : (c.createBlock p n).result = .ok id) :
    ∃ b, (c.createBlock p n).canvas.block? id = some b ∧ b.type = n.type := by
  obtain ⟨t, properties, position, ht, -, -, rfl, heq⟩ := createBlock_eq_ok h
  rw [heq]
  set b := c.newBlock t properties position ((Fields.get? n.properties "label").getD n.label)
  refine ⟨b, find?_putBy_self Block.id b c.blocks, ?_⟩
  exact Palette.id_of_get? (checkType_eq_ok_iff.1 ht).1

/-- What dropping a block comes to, where it has a result: the block was made, and resolved. -/
theorem dropBlock_eq_ok {n : NewBlock} {id : String} (h : (c.dropBlock p n).result = .ok id) :
    (c.createBlock p n).result = .ok id ∧
      (∃ changed, ((c.createBlock p n).canvas.resolve p id).result = .ok changed) ∧
      (c.dropBlock p n).canvas = ((c.createBlock p n).canvas.resolve p id).canvas ∧
      (c.dropBlock p n).events =
        (c.createBlock p n).events ++ ((c.createBlock p n).canvas.resolve p id).events := by
  unfold dropBlock at h ⊢
  split at h
  · exact absurd h (by simp [Outcome.fail])
  · obtain ⟨_, -, hhit⟩ := Outcome.given_eq_ok h
    rw [hhit] at h ⊢
    obtain ⟨made, hmade, hresolved, hthen⟩ := Outcome.andThen_eq_ok h
    obtain ⟨changed, hchanged, rfl⟩ := map_eq_ok_iff.1 hresolved
    rw [hthen]
    exact ⟨hmade, ⟨changed, hchanged⟩, rfl, rfl⟩

/-- The block that was dropped is there, and has its type. -/
theorem dropBlock_block? {n : NewBlock} {id : String} (h : (c.dropBlock p n).result = .ok id) :
    ∃ b, (c.dropBlock p n).canvas.block? id = some b ∧ b.type = n.type := by
  obtain ⟨hmade, -, hcanvas, -⟩ := dropBlock_eq_ok h
  obtain ⟨b, hb, htype⟩ := createBlock_block? hmade
  have hresolve : ((c.createBlock p n).canvas.resolve p id).Traced (Retouch p .anything) _ :=
    resolve_traced.mono And.left
  obtain ⟨b', hb', htype'⟩ := hresolve.kept.block? hb
  exact ⟨b', hcanvas ▸ hb', htype'.trans htype⟩

/-! ### Edits -/

/-- An edit that makes no block and loads nothing retouches and changes one thing at most. -/
theorem apply_changed {edit : Edit} (h : edit.Within s) (hload : ∀ d, edit ≠ .load d)
    (hmake : ∀ n, edit ≠ .create n ∧ edit ≠ .drop n) :
    (c.apply p edit).Changed p s c := by
  cases edit with
  | create n => exact absurd rfl (hmake n).1
  | drop n => exact absurd rfl (hmake n).2
  | delete id => exact .map _ deleteBlock_changed
  | update id patch =>
    exact .retouched (.map _ ((updateBlock_traced (.given patch h)).mono And.left))
  | move id position => exact .retouched (.map _ ((moveBlock_traced h).mono And.left))
  | reparent id parent position => exact .retouched (.map _ ((reparent_traced h).mono And.left))
  | resolve id => exact .retouched (.map _ (resolve_traced.mono And.left))
  | connect source target data => exact .map _ createWire_changed
  | disconnect id => exact .map _ deleteWire_changed
  | rewire id patch => exact .retouched (.map _ updateWire_traced)
  | select selection => exact .map _ select_changed
  | bindCall id name => exact .retouched (.map _ ((bindCall_traced h).mono And.left))
  | load d => exact absurd rfl (hload d)

end Canvas

/-! ### Instructions -/

/-- Entries under texts are among the entries they were read from. -/
theorem mem_of_textFields? {entries : List (Value × Value)} {fields : Fields Value}
    (h : textFields? entries = some fields) {e : String × Value} (he : e ∈ fields) :
    (.text e.1, e.2) ∈ entries := by
  fun_induction textFields? entries generalizing fields with
  | case1 =>
    obtain rfl : [] = fields := by simpa using h
    exact absurd he List.not_mem_nil
  | case2 key v rest ih =>
    obtain ⟨others, hothers, rfl⟩ := Option.map_eq_some_iff.1 h
    rcases List.mem_cons.1 he with rfl | he
    · exact List.mem_cons_self
    · exact List.mem_cons_of_mem _ (ih hothers he)
  | case3 => simp at h

/-- What stands behind a reading that makes a block: an edit that makes it, and maybe entries that
were checked for its type. -/
inductive Reading.Making (p : Palette) (s : Supply) : Reading → Prop
  | edit (make : NewBlock → Edit) (n : NewBlock) (makes : make = .create ∨ make = .drop)
      (h : n.Within s) : Making p s (.edit (make n))
  | furnish (make : NewBlock → Edit) (n : NewBlock) (raw entries : List (Value × Value))
      (makes : make = .create ∨ make = .drop) (h : n.Within s) (values : ∀ e ∈ raw, s.value e.2)
      (valid : Canvas.checkedEntries p n.type raw = .ok entries) :
      Making p s (.furnish (make n) entries)

/-- What stands behind a reading that makes no block and loads nothing: an edit, or an update whose
entries do not all have texts for names. -/
inductive Reading.Changing (s : Supply) (i : Instruction) : Reading → Prop
  | edit (e : Edit) (h : e.Within s) (unloaded : ∀ d, e ≠ .load d)
      (unmade : ∀ n, e ≠ .create n ∧ e ≠ .drop n) : Changing s i (.edit e)
  | write (named patch : Value) (id : String) (entries : List (Value × Value))
      (update : i = .update named patch) (record : Instruction.recordOf patch = .ok entries)
      (odd : textFields? entries = none) (values : ∀ e ∈ entries, s.value e.2) :
      Changing s i (.write id entries)

namespace Canvas

variable {p : Palette} {s : Supply} {c : Canvas}

/-- An edit that makes a block answers with the id that was next, and a block of the type asked for
stands under it. -/
theorem apply_makes {make : NewBlock → Edit} (makes : make = .create ∨ make = .drop) {n : NewBlock}
    (h : n.Within s) :
    (c.apply p (make n)).Made p s c ∧
      ∀ reply, (c.apply p (make n)).result = .ok reply → reply = .id c.ids.blockId ∧
        ∃ b, (c.apply p (make n)).canvas.block? c.ids.blockId = some b ∧ b.type = n.type := by
  rcases makes with rfl | rfl
  · refine ⟨.map _ (createBlock_made h), fun reply hreply ↦ ?_⟩
    obtain ⟨id, hid, rfl⟩ := map_eq_ok_iff.1 hreply
    obtain ⟨t, properties, position, -, -, -, rfl, -⟩ := createBlock_eq_ok hid
    exact ⟨rfl, createBlock_block? hid⟩
  · refine ⟨.map _ (dropBlock_made h), fun reply hreply ↦ ?_⟩
    obtain ⟨id, hid, rfl⟩ := map_eq_ok_iff.1 hreply
    obtain ⟨t, properties, position, -, -, -, rfl, -⟩ := createBlock_eq_ok (dropBlock_eq_ok hid).1
    exact ⟨rfl, dropBlock_block? hid⟩

/-- **Carrying out a reading that makes a block** makes it, and retouches only that block. -/
theorem carryOut_made {reading : Reading} (h : reading.Making p s) :
    (c.carryOut p reading).Made p s c := by
  cases h with
  | edit make n makes h => exact (apply_makes makes h).1
  | furnish make n raw entries makes h values valid =>
    obtain ⟨hmade, hreply⟩ := apply_makes (p := p) (c := c) makes h
    refine .andThen hmade fun reply hok ↦ ?_
    obtain ⟨rfl, b, hb, htype⟩ := hreply reply hok
    exact .step ⟨.write _ _ b raw entries hb values (htype ▸ valid), _, rfl⟩

/-- **Carrying out any other reading** but a load changes what is there. -/
theorem carryOut_changed {i : Instruction} {reading : Reading} (h : reading.Changing s i) :
    (c.carryOut p reading).Changed p s c := by
  cases h with
  | edit e h hload hmake => exact apply_changed h hload hmake
  | write named patch id entries update record odd values =>
    exact .retouched (.map _ ((updateEntries_traced values).mono And.left))

end Canvas

namespace Instruction

variable {p : Palette} {s : Supply} {c : Canvas}

open Canvas (checkedEntries)

/-- **What reading a request for a block comes to**: an edit that makes the block, and entries to be
written to it afterwards if some of their names are no texts. -/
theorem readBlock_eq_ok {make : NewBlock → Edit} {n : BlockRequest} {r : Reading}
    (h : readBlock p c make n = .ok r) :
    ∃ (t : BlockType) (entries : List (Value × Value)),
      (entries = [] ∨ recordOf n.properties = .ok entries) ∧
      ((∃ properties, textFields? entries = some properties ∧
        r = .edit (make ⟨t.id, n.position, properties, n.label⟩)) ∨
      ∃ others, checkedEntries p t.id (takeLabel entries).2 = .ok others ∧
        r = .furnish (make ⟨t.id, n.position, [], (takeLabel entries).1.getD n.label⟩) others) := by
  simp only [readBlock, bind_eq_ok_iff] at h
  obtain ⟨t, -, _, -, h⟩ := h
  split at h
  · obtain ⟨entries, hentries, h⟩ := bind_eq_ok_iff.1 h
    refine ⟨t, entries, .inr hentries, ?_⟩
    split at h
    · next properties hproperties =>
      exact .inl ⟨properties, hproperties, (pure_eq_ok_iff.1 h).symm⟩
    · simp only [bind_eq_ok_iff, pure_eq_ok_iff] at h
      obtain ⟨_, -, others, hothers, rfl⟩ := h
      exact .inr ⟨others, hothers, rfl⟩
  · obtain ⟨_, ⟨⟩, h⟩ := bind_eq_ok_iff.1 h
    exact ⟨t, [], .inl rfl, .inl ⟨[], rfl, (pure_eq_ok_iff.1 h).symm⟩⟩

/-- A request for a block is read as one that makes it, of the values that it was given. -/
theorem readBlock_making {make : NewBlock → Edit} (makes : make = .create ∨ make = .drop)
    {n : BlockRequest} (hplace : s.place n.position) (hrecord : s.record n.properties)
    (hlabel : s.value n.label) {r : Reading} (h : readBlock p c make n = .ok r) :
    r.Making p s := by
  obtain ⟨t, entries, hentries, h⟩ := readBlock_eq_ok h
  have hvalues : ∀ e ∈ entries, s.value e.2 := by
    rcases hentries with rfl | hentries
    · simp
    · exact hrecord entries hentries
  obtain ⟨properties, hproperties, rfl⟩ | ⟨others, hothers, rfl⟩ := h
  · refine .edit make _ makes ⟨hplace, fun e he ↦ ?_, hlabel⟩
    exact hvalues _ (mem_of_textFields? hproperties he)
  · refine .furnish make _ _ others makes ⟨hplace, by simp, ?_⟩
      (fun e he ↦ hvalues e (List.mem_of_mem_filter he)) hothers
    rcases hlabelled : (takeLabel entries).1 with - | v
    · exact hlabel
    · obtain ⟨e, he, rfl⟩ := mem_of_takeLabel hlabelled
      exact hvalues e he

/-- Whether an instruction is to make a block. -/
def MakesBlock : Instruction → Prop
  | create _ | drop _ => True
  | _ => False

/-- What an instruction is read as that is to make a block. -/
theorem read_making {i : Instruction} (h : i.Within s) (hmake : i.MakesBlock) {r : Reading}
    (hr : i.read p c = .ok r) : r.Making p s := by
  cases i with
  | create n => exact readBlock_making (.inl rfl) h.1 h.2.1 h.2.2 hr
  | drop n =>
    simp only [read, bind_eq_ok_iff] at hr
    obtain ⟨_, -, _, -, hr⟩ := hr
    exact readBlock_making (.inr rfl) h.1 h.2.1 h.2.2 hr
  | _ => exact absurd hmake id

/-- A request for a wire is read as one that connects. -/
theorem read_connect {source target data : Value} {r : Reading}
    (h : (connect source target data).read p c = .ok r) :
    ∃ source' target' fields, r = .edit (.connect source' target' fields) := by
  simp only [read, bind_eq_ok_iff] at h
  obtain ⟨source', -, target', -, h⟩ := h
  split at h
  · simp only [bind_eq_ok_iff, pure_eq_ok_iff] at h
    obtain ⟨fields, -, rfl⟩ := h
    exact ⟨source', target', fields, rfl⟩
  · simp only [bind_eq_ok_iff, pure_eq_ok_iff] at h
    obtain ⟨fields, -, rfl⟩ := h
    exact ⟨source', target', fields, rfl⟩

/-- **What every other instruction is read as.** -/
theorem read_changing {i : Instruction} (h : i.Within s) (hload : ∀ d, i ≠ .load d)
    (hmake : ¬ i.MakesBlock) {r : Reading} (hr : i.read p c = .ok r) : r.Changing s i := by
  cases i with
  | create n => exact absurd trivial hmake
  | drop n => exact absurd trivial hmake
  | delete id =>
    obtain ⟨b, -, rfl⟩ := map_eq_ok_iff.1 hr
    exact .edit _ trivial (by simp) (by simp)
  | update id patch =>
    simp only [read, bind_eq_ok_iff] at hr
    obtain ⟨b, -, entries, hentries, hr⟩ := hr
    have hvalues : ∀ e ∈ entries, s.value e.2 := h entries hentries
    split at hr
    · next fields hfields =>
      obtain rfl := pure_eq_ok_iff.1 hr
      exact .edit _ (fun e he ↦ hvalues _ (mem_of_textFields? hfields he)) (by simp) (by simp)
    · next hodd =>
      -- Some name is no text, so the entries are written one by one.
      obtain rfl := pure_eq_ok_iff.1 hr
      exact .write id patch _ _ rfl hentries hodd hvalues
  | move id position =>
    obtain ⟨b, -, rfl⟩ := map_eq_ok_iff.1 hr
    exact .edit _ h (by simp) (by simp)
  | reparent id parent position =>
    simp only [read, bind_eq_ok_iff] at hr
    obtain ⟨b, -, hr⟩ := hr
    split at hr
    · obtain rfl := pure_eq_ok_iff.1 hr
      exact .edit _ h (by simp) (by simp)
    · simp only [bind_eq_ok_iff, pure_eq_ok_iff] at hr
      obtain ⟨q, -, rfl⟩ := hr
      exact .edit _ h (by simp) (by simp)
  | resolve id =>
    obtain ⟨b, -, rfl⟩ := map_eq_ok_iff.1 hr
    exact .edit _ trivial (by simp) (by simp)
  | connect source target data =>
    obtain ⟨_, _, _, rfl⟩ := read_connect hr
    exact .edit _ trivial (by simp) (by simp)
  | disconnect id =>
    obtain ⟨w, -, rfl⟩ := map_eq_ok_iff.1 hr
    exact .edit _ trivial (by simp) (by simp)
  | rewire id patch =>
    simp only [read, bind_eq_ok_iff, pure_eq_ok_iff] at hr
    obtain ⟨_, -, _, -, rfl⟩ := hr
    exact .edit _ trivial (by simp) (by simp)
  | selectBlock id =>
    obtain ⟨b, -, rfl⟩ := map_eq_ok_iff.1 hr
    exact .edit _ trivial (by simp) (by simp)
  | selectWire id =>
    obtain ⟨w, -, rfl⟩ := map_eq_ok_iff.1 hr
    exact .edit _ trivial (by simp) (by simp)
  | deselect =>
    obtain rfl : Reading.edit (.select .nothing) = r := by simpa [read] using hr
    exact .edit _ trivial (by simp) (by simp)
  | bindCall id name =>
    obtain ⟨b, -, rfl⟩ := map_eq_ok_iff.1 hr
    exact .edit _ h (by simp) (by simp)
  | load d => exact absurd rfl (hload d)

end Instruction

namespace Canvas

variable {p : Palette} {s : Supply} {c : Canvas} {i : Instruction}

/-- What following an instruction to move a block of the canvas comes to. -/
theorem follow_move_eq {id : String} {b : Block} (hb : c.block? id = some b) (position : Value) :
    c.follow p (.move (.text id) position) = (c.moveBlock p id position).map .changed := by
  obtain ⟨-, rfl⟩ := mem_of_block? hb
  have hread : (Instruction.move (.text b.id) position).read p c =
      .ok (.edit (.move b.id position)) := by
    rw [Instruction.read, blockNamed_text hb]
    rfl
  rw [follow, hread]
  rfl

/-- What following an instruction to resolve the parent of a block of the canvas comes to. -/
theorem follow_resolve_eq {id : String} {b : Block} (hb : c.block? id = some b) :
    c.follow p (.resolve (.text id)) = (c.resolve p id).map .changed := by
  obtain ⟨-, rfl⟩ := mem_of_block? hb
  have hread : (Instruction.resolve (.text b.id)).read p c = .ok (.edit (.resolve b.id)) := by
    rw [Instruction.read, blockNamed_text hb]
    rfl
  rw [follow, hread]
  rfl

/-- What following an instruction about one block comes to, where it has a result: the block is
there, and is named by its id. -/
theorem follow_named_eq_ok {v : Value} {f : Block → Reading}
    (hread : i.read p c = (c.blockNamed v).map f) {reply : Reply}
    (h : (c.follow p i).result = .ok reply) :
    ∃ b, v = .text b.id ∧ c.block? b.id = some b ∧ c.follow p i = c.carryOut p (f b) := by
  obtain ⟨reading, hreading, heq⟩ := Outcome.given_eq_ok h
  obtain ⟨b, hb, rfl⟩ := map_eq_ok_iff.1 (hread.symm.trans hreading)
  obtain ⟨hv, hfound⟩ := eq_text_of_blockNamed hb
  exact ⟨b, hv, hfound, heq⟩

/-- What following an instruction to give a block a parent comes to, where it has a result: the
block is named by its id, and so is the parent unless there is to be none. -/
theorem follow_reparent_eq_ok {v parent position : Value} {reply : Reply}
    (h : (c.follow p (.reparent v parent position)).result = .ok reply) :
    ∃ (b : Block) (q : Option String), v = .text b.id ∧ parent = .ofText? q ∧
      c.follow p (.reparent v parent position) =
        (c.reparent p b.id q position).map fun _ ↦ .done := by
  obtain ⟨reading, hread, heq⟩ := Outcome.given_eq_ok h
  have hfollow : c.follow p (.reparent v parent position) = c.carryOut p reading := heq
  simp only [Instruction.read, bind_eq_ok_iff] at hread
  obtain ⟨b, hb, hread⟩ := hread
  refine ⟨b, ?_⟩
  rw [hfollow]
  split at hread
  · next hnull =>
    obtain rfl := pure_eq_ok_iff.1 hread
    obtain rfl : parent = .null := by cases parent <;> simp_all [Value.isNull]
    exact ⟨none, (eq_text_of_blockNamed hb).1, rfl, rfl⟩
  · obtain ⟨k, hk, hread⟩ := bind_eq_ok_iff.1 hread
    obtain rfl := pure_eq_ok_iff.1 hread
    exact ⟨some k.id, (eq_text_of_blockNamed hb).1, (eq_text_of_blockNamed hk).1, rfl⟩

theorem follow_made (h : i.Within s) (hmake : i.MakesBlock) : (c.follow p i).Made p s c :=
  .given fun _ hr ↦ carryOut_made (Instruction.read_making h hmake hr)

theorem follow_changed (h : i.Within s) (hload : ∀ d, i ≠ .load d) (hmake : ¬ i.MakesBlock) :
    (c.follow p i).Changed p s c :=
  .given fun _ hr ↦ carryOut_changed (Instruction.read_changing h hload hmake hr)

/-- **Whatever is asked of a canvas is a trace**, short of loading. -/
theorem follow_traced (h : i.Within s) (hload : ∀ d, i ≠ .load d) :
    (c.follow p i).Traced (Step p s) c := by
  by_cases hmake : i.MakesBlock
  · exact (follow_made h hmake).traced
  · exact (follow_changed h hload hmake).traced.mono .change

end Canvas

end FlowCanvas
