import FlowCanvas.Canvas.Instruction
import FlowCanvas.Proofs.Keyed

/-!
# What an operation can do to a canvas

Every operation other than loading is a sequence of small writes. A `Step` is one such write,
together with **all** the checks that stand in front of it and the events that report it; a `Trace`
is a sequence of writes with their events in order. Whatever is asked of a canvas, in whatever
words, and whether it is refused or not, what happens is a trace.

So a property of canvases that every step keeps is kept by every operation, and what the steps
report is what the operations report. The modules about invariants never open an operation again.

**Kinds of writes.** A `Retouch` leaves every block and wire in its place, under its id (`Kept` says
what it keeps). A `Change` may also take blocks and wires away, join blocks, and select. `Create`
alone makes a block. A trace says of which kind its writes are, for most operations can do far less
than a step can.

**Refused operations are traces too.** Some write before they find out that they cannot go on: a
block may have taken its number, a drag may have moved its block, some of the blocks inside a
deleted container may have been set free. Those writes are steps like all others.

`Supply` says what callers may hand over. It is carried along because some invariants only hold of
what sensible callers do; `Supply.anything` excludes nothing.

Loading is left out: it replaces everything at once.
-/

namespace FlowCanvas

/-- What callers may hand over. -/
structure Supply where
  /-- What may be given for a position. -/
  place : Value → Prop
  /-- What may be given for a property, a label or the name of a function. -/
  value : Value → Prop

/-- Callers may hand over anything. -/
def Supply.anything : Supply := ⟨fun _ ↦ True, fun _ ↦ True⟩

/-- What is asked of a new block is within a supply. -/
def NewBlock.Within (s : Supply) (n : NewBlock) : Prop :=
  s.place n.position ∧ (∀ e ∈ n.properties, s.value e.2) ∧ s.value n.label

/-- What is asked with an edit is within a supply. -/
def Edit.Within (s : Supply) : Edit → Prop
  | .create n | .drop n => n.Within s
  | .update _ patch => ∀ e ∈ patch, s.value e.2
  | .move _ position => s.place position
  | .reparent _ _ position => position = .null ∨ s.place position
  | .bindCall _ name => s.value name
  | _ => True

/-- The entries that a value stands for are within a supply. -/
def Supply.record (s : Supply) (v : Value) : Prop :=
  ∀ entries, Instruction.recordOf v = .ok entries → ∀ e ∈ entries, s.value e.2

/-- What is asked with an instruction is within a supply. -/
def Instruction.Within (s : Supply) : Instruction → Prop
  | .create n | .drop n => s.place n.position ∧ s.record n.properties ∧ s.value n.label
  | .update _ patch => s.record patch
  | .move _ position => s.place position
  | .reparent _ _ position => position = .null ∨ s.place position
  | .bindCall _ name => s.value name
  | _ => True

namespace Canvas

/-- Whether what a selection names is on the canvas. -/
def Has (c : Canvas) : Selection → Prop
  | .nothing => True
  | .block id => ∃ b ∈ c.blocks, b.id = id
  | .wire id => ∃ w ∈ c.wires, w.id = id

/-! ### Parts of deleting and selecting -/

/-- The canvas without a block and the wires at it. -/
def without (c : Canvas) (id : String) : Canvas :=
  { c with
    blocks := c.blocks.filter fun b ↦ b.id != id
    wires := c.wires.filter fun w ↦ !touches id w }

/-- The canvas without a wire. -/
def withoutWire (c : Canvas) (id : String) : Canvas :=
  { c with wires := c.wires.filter fun w ↦ w.id != id }

/-- Clears the selection if what is selected is lost. -/
def deselecting (lost : Prop) [Decidable lost] (c : Canvas) : Canvas × List Event :=
  if lost then c.selecting .nothing else (c, [])

/-- Selecting changes the selection only. -/
@[simp]
theorem selecting_eq (c : Canvas) (s : Selection) :
    (c.selecting s).1 = { c with selection := s } := by
  unfold selecting
  split
  · next h => rw [h]
  · rfl

/-- Nothing is selected afterwards if what was selected is lost. -/
theorem deselecting_eq (lost : Prop) [Decidable lost] (c : Canvas) :
    (deselecting lost c).1 =
      { c with selection := if lost then .nothing else c.selection } := by
  unfold deselecting
  split <;> simp

/-- Selecting reports a change of the selection or nothing. -/
theorem mem_selecting {c : Canvas} {s : Selection} {e : Event} (h : e ∈ (c.selecting s).2) :
    e = .selectionChanged s.block? s.wire? := by
  unfold selecting at h
  split at h
  · exact absurd h List.not_mem_nil
  · exact List.mem_singleton.1 h

theorem mem_deselecting {lost : Prop} [Decidable lost] {c : Canvas} {e : Event}
    (h : e ∈ (deselecting lost c).2) : e = .selectionChanged none none := by
  unfold deselecting at h
  split at h
  · exact mem_selecting h
  · exact absurd h List.not_mem_nil

/-- The ids of the wires at a block. -/
def wireIdsOf (c : Canvas) (id : String) : List String := (c.wiresOf id).map Wire.id

/-- What setting the blocks inside a container free can do to one block. -/
def Freed (id : String) (corner : Point) (b b' : Block) : Prop :=
  b' = b ∨ ∃ spot, b.parent = some id ∧ b.position.plus corner = .ok spot ∧
    b' = { b with position := spot, parent := none }

theorem Freed.id_eq {id : String} {corner : Point} {b b' : Block} (h : Freed id corner b b') :
    b'.id = b.id := by
  obtain rfl | ⟨spot, -, -, rfl⟩ := h <;> rfl

theorem Freed.type_eq {id : String} {corner : Point} {b b' : Block} (h : Freed id corner b b') :
    b'.type = b.type := by
  obtain rfl | ⟨spot, -, -, rfl⟩ := h <;> rfl

/-- **Each block is left alone or set free**, also where a place without a sum ends it. -/
theorem freed_forall₂ (id : String) (corner : Point) (blocks : List Block) :
    List.Forall₂ (Freed id corner) blocks (freed id corner blocks).1 := by
  fun_induction freed id corner blocks with
  | case1 => exact .nil
  | case2 b rest hb fault hspot => exact List.forall₂_same.2 fun b _ ↦ Or.inl rfl
  | case3 b rest hb spot hspot others result hrest ih =>
    rw [hrest] at ih
    exact .cons (.inr ⟨spot, hb, hspot, rfl⟩) ih
  | case4 b rest hb others result hrest ih =>
    rw [hrest] at ih
    exact .cons (.inl rfl) ih

/-! ### Steps -/

/-- Where a patch comes from: the caller, or the definition of the function that a call is bound
to. -/
inductive Patch (s : Supply) (c : Canvas) : Fields Value → Prop
  | given (patch : Fields Value) (values : ∀ e ∈ patch, s.value e.2) : Patch s c patch
  | call (name : Value) (d : Block) (arguments : List Value) (value : s.value name)
      (found : c.definitionOf? name = some d)
      (items : ((Fields.get? d.properties "arguments").getD (.list [])).items? = some arguments) :
      Patch s c [("target_function", name), ("arguments", .list arguments)]

/-- A write that leaves every block and every wire where it is, under its id and with its type or
its ends, with the checks in front of it and the events it fires. -/
inductive Retouch (p : Palette) (s : Supply) : Canvas → List Event → Canvas → Prop
  /-- A number is taken for a block that is then not made. -/
  | number (c : Canvas) : Retouch p s c [] { c with ids := c.ids.afterBlock }
  | update (c : Canvas) (id : String) (b : Block) (patch properties : Fields Value)
      (keys : List Value) (block : c.block? id = some b) (origin : Patch s c patch)
      (valid : validated p b.type (Fields.erase patch "label") = .ok properties) :
      Retouch p s c [.blockUpdated id keys]
        (c.modifyBlock id fun b' ↦
          { b' with
            properties := Fields.merge b'.properties properties
            label := (Fields.get? patch "label").getD b.label })
  | write (c : Canvas) (id : String) (b : Block) (raw entries : List (Value × Value))
      (block : c.block? id = some b) (values : ∀ e ∈ raw, s.value e.2)
      (valid : checkedEntries p b.type raw = .ok entries) :
      Retouch p s c [] (c.writeEntries id entries)
  | relabel (c : Canvas) (id : String) (label : Option Value) (value : ∀ v ∈ label, s.value v)
      (events : List Event) (report : events = [] ∨ ∃ keys, events = [.blockUpdated id keys]) :
      Retouch p s c events (c.modifyBlock id fun b ↦ { b with label := label.getD b.label })
  | move (c : Canvas) (id : String) (b : Block) (position : Value) (place : Point)
      (block : c.block? id = some b) (within : s.place position)
      (read : Point.ofValue position = .ok place) :
      Retouch p s c [.blockMoved id place] (c.modifyBlock id fun b ↦ { b with position := place })
  | nest (c : Canvas) (id : String) (b : Block) (parent : Option String) (position : Value)
      (place : Point) (block : c.block? id = some b)
      (within : position = .null ∨ s.place position)
      (allowed : ∀ q, parent = some q → c.checkParent p id q = .ok ())
      (found : c.placeUnder id parent position = .ok place) :
      Retouch p s c [.blockReparented id parent b.parent place]
        (c.modifyBlock id fun b ↦ { b with parent := parent, position := place })
  /-- The blocks inside a container are set free, as far as their places have a sum. -/
  | free (c : Canvas) (id : String) (corner : Point) (found : c.absolute id = .ok corner) :
      Retouch p s c [] { c with blocks := (freed id corner c.blocks).1 }
  | rewire (c : Canvas) (id : String) (w : Wire) (patch : Fields Value) (kind : ConnectionKind)
      (mapping : Fields Value) (wire : c.wire? id = some w)
      (valid : patchedWire w.kind w.mapping patch = .ok (kind, mapping)) :
      Retouch p s c [.wireUpdated id kind]
        (c.modifyWire id fun w ↦ { w with kind := some kind, mapping := mapping })

/-- Retouching one block and nothing else. -/
def RetouchAt (p : Palette) (s : Supply) (id : String) (c : Canvas) (es : List Event)
    (c' : Canvas) : Prop :=
  Retouch p s c es c' ∧ ∃ f : Block → Block, c' = c.modifyBlock id f

/-- A write that makes no block. -/
inductive Change (p : Palette) (s : Supply) : Canvas → List Event → Canvas → Prop
  | retouch {c : Canvas} {es : List Event} {c' : Canvas} (h : Retouch p s c es c') :
      Change p s c es c'
  | remove (c : Canvas) (id : String) (b : Block) (block : c.block? id = some b)
      (plain : p.isEntryPoint b.type = false) (childless : ∀ b ∈ c.blocks, b.parent ≠ some id) :
      Change p s c
        ((deselecting (c.losesSelection id (c.wireIdsOf id)) (c.without id)).2 ++
          [.blockDeleted id (c.wireIdsOf id)])
        (deselecting (c.losesSelection id (c.wireIdsOf id)) (c.without id)).1
  | connect (c : Canvas) (source target : String) (data : Fields Value) (kind : ConnectionKind)
      (mapping : Fields Value) (ends : c.checkEndpoints source target = .ok ())
      (new : (c.wires.find? fun w ↦ w.source == source && w.target == target) = none)
      (valid : patchedWire (some .simple) [] data = .ok (kind, mapping)) :
      Change p s c [.wireCreated c.ids.wireId source target]
        ({ c with ids := c.ids.afterWire }.putWire
          ⟨c.ids.wireId, source, target, some kind, mapping⟩)
  | disconnect (c : Canvas) (id : String) (w : Wire) (wire : c.wire? id = some w) :
      Change p s c
        ((deselecting (c.selection = .wire id) (c.withoutWire id)).2 ++ [.wireDeleted id])
        (deselecting (c.selection = .wire id) (c.withoutWire id)).1
  | select (c : Canvas) (selection : Selection) (known : c.Has selection) :
      Change p s c (c.selecting selection).2 (c.selecting selection).1

/-- The write that makes a block. It takes the place of a block with the same id. -/
inductive Create (p : Palette) (s : Supply) : Canvas → List Event → Canvas → Prop
  | make (c : Canvas) (n : NewBlock) (t : BlockType) (properties : Fields Value)
      (position : Point) (within : n.Within s) (type : c.checkType p n.type = .ok t)
      (defaults : checkDefaults t = .ok ())
      (valid : validated p n.type (Fields.erase n.properties "label") = .ok properties)
      (place : Point.ofValue n.position = .ok position) :
      Create p s c [.blockCreated c.ids.blockId n.type]
        ({ c with ids := c.ids.afterBlock }.putBlock
          (c.newBlock t properties position ((Fields.get? n.properties "label").getD n.label)))

/-- **One write to a canvas**, with the checks in front of it and the events it fires. -/
inductive Step (p : Palette) (s : Supply) : Canvas → List Event → Canvas → Prop
  | change {c : Canvas} {es : List Event} {c' : Canvas} (h : Change p s c es c') : Step p s c es c'
  | create {c : Canvas} {es : List Event} {c' : Canvas} (h : Create p s c es c') : Step p s c es c'

/-! ### What retouching keeps -/

/-- What no retouching changes of a block. -/
def core (b : Block) : String × String := (b.id, b.type)

/-- What no retouching changes of a wire. -/
def wireCore (w : Wire) : String × String × String := (w.id, w.source, w.target)

/-- **What retouching keeps**: blocks and wires in their order, the selection, and the counters or
more. A wire that was rewired to be simple maps nothing. -/
structure Kept (c c' : Canvas) : Prop where
  blocks : c'.blocks.map core = c.blocks.map core
  wires : c'.wires.map wireCore = c.wires.map wireCore
  simple : ∀ w ∈ c'.wires, w ∈ c.wires ∨ (w.kind = some .simple → w.mapping = [])
  selection : c'.selection = c.selection
  created : c'.created = c.created
  nextBlock : c.ids.nextBlock ≤ c'.ids.nextBlock
  nextWire : c'.ids.nextWire = c.ids.nextWire

theorem Kept.blockIds {c c' : Canvas} (h : Kept c c') :
    c'.blocks.map Block.id = c.blocks.map Block.id := by
  simpa [core, Function.comp_def] using congrArg (List.map Prod.fst) h.blocks

theorem Kept.refl (c : Canvas) : Kept c c :=
  ⟨rfl, rfl, fun _ hw ↦ .inl hw, rfl, rfl, Int.le_refl _, rfl⟩

/-- What both parts of a run keep, the whole run keeps. -/
theorem Kept.trans {c c' c'' : Canvas} (h : Kept c c') (h' : Kept c' c'') : Kept c c'' where
  blocks := h'.blocks.trans h.blocks
  wires := h'.wires.trans h.wires
  simple := fun w hw ↦ (h'.simple w hw).elim (h.simple w) .inr
  selection := h'.selection.trans h.selection
  created := h'.created.trans h.created
  nextBlock := Int.le_trans h.nextBlock h'.nextBlock
  nextWire := h'.nextWire.trans h.nextWire

/-- A block that is there is still found, with its type. -/
theorem Kept.block? {c c' : Canvas} (h : Kept c c') {id : String} {b : Block}
    (hb : c.block? id = some b) : ∃ b', c'.block? id = some b' ∧ b'.type = b.type := by
  have hcore : ∀ c : Canvas, (c.block? id).map core =
      (c.blocks.map core).find? fun k ↦ k.1 == id := fun c ↦ by
    rw [List.find?_map]
    rfl
  have hsame : (c'.block? id).map core = (c.block? id).map core := by
    rw [hcore, hcore, h.blocks]
  rw [hb, Option.map_some] at hsame
  obtain ⟨b', hb', htype⟩ := Option.map_eq_some_iff.1 hsame
  exact ⟨b', hb', congrArg Prod.snd htype⟩

theorem Kept.wireIds {c c' : Canvas} (h : Kept c c') :
    c'.wires.map Wire.id = c.wires.map Wire.id := by
  simpa [wireCore, Function.comp_def] using congrArg (List.map Prod.fst) h.wires

/-- Only the blocks may have changed, and none of them its id or its type. -/
theorem kept_blocks (c : Canvas) {blocks : List Block}
    (h : blocks.map core = c.blocks.map core) : Kept c { c with blocks := blocks } where
  blocks := h
  wires := rfl
  simple := fun _ hw ↦ .inl hw
  selection := rfl
  created := rfl
  nextBlock := Int.le_refl _
  nextWire := rfl

/-- A block may change in everything but its core. -/
theorem kept_modifyBlock (c : Canvas) (id : String) {f : Block → Block}
    (hf : ∀ b, core (f b) = core b) : Kept c (c.modifyBlock id f) := by
  refine kept_blocks c ?_
  rw [List.map_map]
  refine List.map_congr_left fun b _ ↦ ?_
  rw [Function.comp_apply]
  split
  · exact hf b
  · rfl

/-- Writing an entry of a block changes neither its id nor its type, and not its place either. -/
theorem write_eq (b : Block) (entries : List (Value × Value)) :
    ∃ properties strays, entries.foldl Block.write b =
      { b with properties := properties, strays := strays } := by
  induction entries generalizing b with
  | nil => exact ⟨b.properties, b.strays, rfl⟩
  | cons e entries ih =>
    obtain ⟨properties, strays, h⟩ := ih (b.write e)
    rw [List.foldl_cons, h]
    refine ⟨properties, strays, ?_⟩
    unfold Block.write
    split <;> rfl

/-- A wire maps nothing after a patch, unless it is no simple one: then it maps what it did, or
shows what the patch gives. -/
theorem patchedWire_eq_ok {kind : Option ConnectionKind} {mapping patch mapping' : Fields Value}
    {after : ConnectionKind} (h : patchedWire kind mapping patch = .ok (after, mapping')) :
    mapping' = [] ∨ after ≠ .simple ∧
      (mapping' = mapping ∨
        ∃ fields, mapping' = Fields.mapValues (.text ∘ Value.display) fields) := by
  unfold patchedWire at h
  split at h
  · exact absurd h (by simp)
  · split at h
    · split at h
      · exact .inl (Prod.mk.inj (Except.ok.inj h)).2.symm
      next hkind =>
      split at h
      · exact absurd h (by simp)
      · obtain ⟨rfl, rfl⟩ := Prod.mk.inj (Except.ok.inj h)
        exact .inr ⟨hkind, .inr ⟨_, rfl⟩⟩
    · obtain ⟨rfl, rfl⟩ := Prod.mk.inj (Except.ok.inj h)
      split
      · exact .inl rfl
      next hkind =>
      exact .inr ⟨fun hsimple ↦ hkind (by rw [hsimple, decide_eq_true rfl, Bool.true_or]), .inl rfl⟩
    · exact absurd h (by simp)

/-- A wire that is simple after a patch maps nothing. -/
theorem patchedWire_simple {kind : Option ConnectionKind} {mapping patch mapping' : Fields Value}
    (h : patchedWire kind mapping patch = .ok (.simple, mapping')) : mapping' = [] :=
  (patchedWire_eq_ok h).resolve_right fun hkind ↦ hkind.1 rfl

/-- A patch for a wire leaves its ends as they are. -/
theorem kept_rewire {c : Canvas} {id : String} {w : Wire} {patch : Fields Value}
    {kind : ConnectionKind} {mapping : Fields Value}
    (h : patchedWire w.kind w.mapping patch = .ok (kind, mapping)) :
    Kept c (c.modifyWire id fun w ↦ { w with kind := some kind, mapping := mapping }) where
  blocks := rfl
  wires := by
    show (c.wires.map _).map wireCore = c.wires.map wireCore
    rw [List.map_map]
    refine List.map_congr_left fun w _ ↦ ?_
    rw [Function.comp_apply]
    split <;> rfl
  simple := by
    intro w' hw'
    obtain ⟨v, hv, rfl⟩ := List.mem_map.1 hw'
    split
    · refine .inr fun hkind ↦ ?_
      obtain rfl : kind = .simple := by simpa using hkind
      exact patchedWire_simple h
    · exact .inl hv
  selection := rfl
  created := rfl
  nextBlock := Int.le_refl _
  nextWire := rfl

/-- **Retouching keeps what it should.** -/
theorem Retouch.kept {p : Palette} {s : Supply} {c c' : Canvas} {es : List Event}
    (h : Retouch p s c es c') : Kept c c' := by
  cases h with
  | number =>
    exact ⟨rfl, rfl, fun _ hw ↦ .inl hw, rfl, rfl, Int.le_of_lt (Int.lt_succ _), rfl⟩
  | update id b patch properties keys => exact kept_modifyBlock c id fun b ↦ rfl
  | write id b raw entries =>
    refine kept_modifyBlock c id fun b ↦ ?_
    obtain ⟨properties, strays, h⟩ := write_eq b entries
    rw [h]
    rfl
  | relabel id label => exact kept_modifyBlock c id fun b ↦ rfl
  | move id b position place => exact kept_modifyBlock c id fun b ↦ rfl
  | nest id b parent position place => exact kept_modifyBlock c id fun b ↦ rfl
  | free id corner =>
    refine kept_blocks c (map_forall₂ ?_ (freed_forall₂ id corner c.blocks))
    intro b b' hfreed
    rw [core, core, hfreed.id_eq, hfreed.type_eq]
  | rewire id w patch kind mapping hw hvalid => exact kept_rewire hvalid

/-! ### Traces -/

/-- A sequence of writes of some kind, with all their events in order. -/
inductive Trace (R : Canvas → List Event → Canvas → Prop) : Canvas → List Event → Canvas → Prop
  | nil (c : Canvas) : Trace R c [] c
  | cons {c c' c'' : Canvas} {es fs : List Event} (step : R c es c') (rest : Trace R c' fs c'') :
      Trace R c (es ++ fs) c''

variable {R S : Canvas → List Event → Canvas → Prop}

theorem Trace.single {c c' : Canvas} {es : List Event} (h : R c es c') : Trace R c es c' := by
  simpa using Trace.cons h (.nil c')

theorem Trace.trans {c c' c'' : Canvas} {es fs : List Event} (h : Trace R c es c')
    (h' : Trace R c' fs c'') : Trace R c (es ++ fs) c'' := by
  induction h with
  | nil => exact h'
  | cons step _ ih =>
    rw [List.append_assoc]
    exact .cons step (ih h')

/-- A run of narrower steps is one of wider steps. -/
theorem Trace.mono (hRS : ∀ {c es c'}, R c es c' → S c es c') {c c' : Canvas} {es : List Event}
    (h : Trace R c es c') : Trace S c es c' := by
  induction h with
  | nil c => exact .nil c
  | cons step _ ih => exact .cons (hRS step) ih

/-- **A run that only retouches keeps everything that retouching keeps.** -/
theorem Trace.kept {p : Palette} {s : Supply} {c c' : Canvas} {es : List Event}
    (h : Trace (Retouch p s) c es c') : Kept c c' := by
  induction h with
  | nil c => exact .refl c
  | cons step _ ih => exact step.kept.trans ih

/-- **What every write keeps, every trace keeps.** -/
theorem Trace.invariant {P : Canvas → Prop} (keeps : ∀ {c es c'}, R c es c' → P c → P c')
    {c c' : Canvas} {es : List Event} (h : Trace R c es c') (hc : P c) : P c' := by
  induction h with
  | nil => exact hc
  | cons step _ ih => exact ih (keeps step hc)

end Canvas

end FlowCanvas
