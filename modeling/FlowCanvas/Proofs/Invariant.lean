import FlowCanvas.Proofs.Freshness
import FlowCanvas.Proofs.References

/-!
# The invariant of the canvas

What holds of the canvas after **every run**: whatever palette it draws from, whatever is asked of
it in whatever words, and whether that is refused or not. Drawings are loaded from documents only; a
drawing handed over directly is not checked, and nothing can be said of it.

* The graph is consistent: distinct ids, wires between blocks that exist, one entry point at most,
  simple wires without a mapping. **No run breaks this** (`Action.effect_consistent`).
* Blocks are nested one level deep in containers, and what is selected exists. With the rules above
  these are the rules of the canvas (`Canvas.Sound`).

Two things can break the rules, and nothing else can (`Action.effect_sound_iff`). A load that an
overlong id interrupts has laid the new drawing already and keeps the old selection, whether the
drawing has it or not. And since such a load leaves the counters behind, a block made later may take
the id of a container with blocks inside, and **evict** it. So the rules hold all along a run
exactly if no action of the run does either, and they hold after every run without an interrupted
load (`sound_of_run`).
-/

namespace FlowCanvas

namespace Canvas

variable {p : Palette} {s : Supply} {c c' : Canvas} {es : List Event}

/-- **The rules of the canvas.** -/
structure Sound (p : Palette) (c : Canvas) : Prop where
  consistent : Consistent p c.blocks c.wires
  nested : Nested p c.blocks
  single : c.selection.block? = none ∨ c.selection.wire? = none
  selected : c.Has c.selection

theorem selection_single (selection : Selection) :
    selection.block? = none ∨ selection.wire? = none := by
  cases selection with
  | nothing => exact .inl rfl
  | block id => exact .inr rfl
  | wire id => exact .inl rfl

theorem sound_empty (p : Palette) : Sound p empty :=
  ⟨consistent_empty p, nested_empty p, .inl rfl, trivial⟩

/-! ### Changes -/

theorem Change.sound (h : Change p s c es c') (hc : Sound p c) : Sound p c' where
  consistent := (Step.change h).consistent hc.consistent
  nested := h.nested hc.consistent.blockIds hc.nested
  single := selection_single c'.selection
  selected := h.has_selection hc.selected

theorem Trace.consistent (h : Trace (Step p s) c es c') (hc : Consistent p c.blocks c.wires) :
    Consistent p c'.blocks c'.wires :=
  h.invariant (P := fun c ↦ Consistent p c.blocks c.wires) (fun step hc ↦ step.consistent hc) hc

/-- Changes keep blocks nested. -/
theorem Trace.nested (h : Trace (Change p s) c es c') (hc : Consistent p c.blocks c.wires)
    (hn : Nested p c.blocks) : Nested p c'.blocks := by
  refine (h.invariant (P := fun c ↦ Consistent p c.blocks c.wires ∧ Nested p c.blocks) ?_
    ⟨hc, hn⟩).2
  intro c es c' step hc
  exact ⟨step.consistent hc.1, step.nested hc.1.blockIds hc.2⟩

/-- Where no drawing is loaded, keeping the rules is a matter of nesting. -/
theorem Trace.sound_iff (h : Trace (Step p s) c es c') (hc : Sound p c) :
    Sound p c' ↔ Nested p c'.blocks := by
  refine ⟨Sound.nested, fun hn ↦ ⟨h.consistent hc.consistent, hn, selection_single _, ?_⟩⟩
  exact h.invariant (P := fun c ↦ c.Has c.selection) (fun step hc ↦ step.has_selection hc)
    hc.selected

/-! ### Making blocks -/

theorem not_evicts (h : Item.block.allocated es = []) : ¬ Evicts p c es := by
  rintro ⟨id, type, hmem, -⟩
  have hgiven : id ∈ Item.block.allocated es := List.mem_filterMap.2 ⟨_, hmem, rfl⟩
  rw [h] at hgiven
  exact List.not_mem_nil hgiven

/-- Blocks with new ids evict nothing: every parent is on the canvas. -/
theorem not_evicts_of_fresh (hn : Nested p c.blocks)
    (h : ∀ id ∈ Item.block.allocated es, id ∉ c.blocks.map Block.id) : ¬ Evicts p c es := by
  rintro ⟨id, type, hmem, -, b, hb, hparent⟩
  have hgiven : id ∈ Item.block.allocated es := List.mem_filterMap.2 ⟨_, hmem, rfl⟩
  obtain ⟨k, hk, rfl, -⟩ := hn.parents b hb _ hparent
  exact h _ hgiven (List.mem_map_of_mem hk)

/-- A block that evicts a container leaves a block inside itself. -/
theorem Create.evicted (h : Create p s c es c') (hc : Consistent p c.blocks c.wires)
    (hn : Nested p c.blocks) (hevicts : Evicts p c es) :
    ∃ b k, b ∈ c'.blocks ∧ b.id ≠ c.ids.blockId ∧ b.parent = some c.ids.blockId ∧
      c'.block? c.ids.blockId = some k ∧ p.isContainer k.type = false := by
  obtain ⟨n, t, properties, position, within, type, defaults, valid, place⟩ := h
  have hid : t.id = n.type := Palette.id_of_get? (checkType_eq_ok_iff.1 type).1
  obtain ⟨id, type', hmem, hplain, b, hb, hparent⟩ := hevicts
  obtain ⟨rfl, rfl⟩ : id = c.ids.blockId ∧ type' = n.type := by simpa using hmem
  have hne : b.id ≠ c.ids.blockId := by
    intro heq
    obtain ⟨k, hk, hkid, -, htop⟩ := hn.parents b hb _ hparent
    have hbk : b = k := List.inj_on_of_nodup_map hc.blockIds hb hk (heq.trans hkid.symm)
    rw [hbk, htop] at hparent
    exact absurd hparent (by simp)
  have hfound := find?_putBy_self Block.id
    (c.newBlock t properties position ((Fields.get? n.properties "label").getD n.label)) c.blocks
  refine ⟨b, _, mem_putBy_of_ne Block.id hb hne, hne, hparent, hfound, ?_⟩
  show p.isContainer t.id = false
  rw [hid, hplain]

/-- Retouching one block leaves the others alone. -/
theorem Trace.mem_of_ne {id : String} (h : Trace (RetouchAt p s id) c es c') {b : Block}
    (hb : b ∈ c.blocks) (hne : b.id ≠ id) : b ∈ c'.blocks := by
  induction h with
  | nil => exact hb
  | cons step _ ih =>
    obtain ⟨-, f, rfl⟩ := step
    exact ih (List.mem_map.2 ⟨b, hb, if_neg hne⟩)

end Canvas

open Canvas

variable {p : Palette} {s : Supply} {c : Canvas}

/-- **Making a block keeps blocks nested exactly if it evicts no container.** -/
theorem Outcome.Made.nested_iff {α : Type} {o : Outcome α} (h : o.Made p s c)
    (hc : Consistent p c.blocks c.wires) (hn : Nested p c.blocks) :
    Nested p o.canvas.blocks ↔ ¬ Evicts p c o.events := by
  have hafter : Consistent p o.canvas.blocks o.canvas.wires := Trace.consistent h.traced hc
  rcases h with h | ⟨c', es, fs, hcreate, hevents, htrace⟩
  · have hchange : Trace (Change p s) c o.events o.canvas := h.mono .retouch
    exact ⟨fun _ ↦ not_evicts hchange.allocated_block, fun _ ↦ hchange.nested hc hn⟩
  · have hretouch : Trace (Retouch p s) c' fs o.canvas := htrace.mono And.left
    have hchange : Trace (Change p s) c' fs o.canvas := hretouch.mono .retouch
    -- What is done to the new block makes no other, so it is the first write that may evict.
    have hfirst : Evicts p c o.events ↔ Evicts p c es := by
      rw [hevents]
      constructor
      · rintro ⟨id, type, hmem, hevicts⟩
        rcases List.mem_append.1 hmem with hmem | hmem
        · exact ⟨id, type, hmem, hevicts⟩
        · exact absurd ⟨id, type, hmem, hevicts⟩ (not_evicts hchange.allocated_block)
      · rintro ⟨id, type, hmem, hevicts⟩
        exact ⟨id, type, List.mem_append_left _ hmem, hevicts⟩
    rw [hfirst]
    constructor
    · intro hnested hevicts
      obtain ⟨b, k, hb, hne, hparent, hk, hplain⟩ := hcreate.evicted hc hn hevicts
      obtain ⟨q, hq, hqid, hcontainer, -⟩ :=
        hnested.parents b (htrace.mem_of_ne hb hne) _ hparent
      obtain ⟨k', hk', htype⟩ := hretouch.kept.block? hk
      obtain rfl : q = k' := by
        have hq' := (block?_eq_some_iff hafter.blockIds).2 ⟨hq, hqid⟩
        exact Option.some.inj (hq'.symm.trans hk')
      rw [htype, hplain] at hcontainer
      exact absurd hcontainer (by simp)
    · exact fun hroom ↦ hchange.nested ((Step.create hcreate).consistent hc)
        (hcreate.nested hn hroom)

/-- Making a block keeps the rules exactly if it evicts no container. -/
theorem Outcome.Made.sound_iff {α : Type} {o : Outcome α} (h : o.Made p s c) (hc : Sound p c) :
    Sound p o.canvas ↔ ¬ Evicts p c o.events := by
  rw [Trace.sound_iff h.traced hc, h.nested_iff hc.consistent hc.nested]

namespace Canvas

/-! ### Opening documents -/

/-- What an action loads that is checked was read from a document. -/
theorem toDrawing_of_drawing? {a : Action} (ha : a.Checked) {d : Drawing}
    (h : a.drawing? p = some d) : ∃ document : Document, document.toDrawing (some p) = .ok d := by
  cases a with
  | follow i =>
    cases i with
    | load d' => exact absurd ha id
    | _ => simp [Action.drawing?] at h
  | openDocument source =>
    cases source with
    | error complaints => simp [Action.drawing?, Document.open?, Except.toOption] at h
    | ok document =>
      refine ⟨document, ?_⟩
      rcases hd : document.toDrawing (some p) with fault | d'
      · simp [Action.drawing?, Document.open?, hd, Except.toOption] at h
      · simp only [Action.drawing?, Document.open?, hd, Except.toOption, Option.some.injEq] at h
        rw [h]

/-- What an action loads that is checked is consistent and nested. -/
theorem rules_of_drawing? {a : Action} (ha : a.Checked) {d : Drawing}
    (h : a.drawing? p = some d) : Consistent p d.blocks d.wires ∧ Nested p d.blocks := by
  obtain ⟨document, hopen⟩ := toDrawing_of_drawing? ha h
  exact ⟨Document.consistent_of_toDrawing hopen, Document.nested_of_toDrawing hopen⟩

/-- A drawing with distinct ids is laid on the canvas as it is. -/
theorem laid_eq {d : Drawing} (hd : Consistent p d.blocks d.wires) :
    c.laid d = { c with blocks := d.blocks, wires := d.wires, created := d.created } := by
  rw [laid, keyedBy_of_nodup Block.id hd.blockIds, keyedBy_of_nodup Wire.id hd.wireIds]

/-- What loading brings in, if it brings in anything, are the blocks of the drawing, all of which
can be copied. -/
theorem load_blocks {d : Drawing} (hd : Consistent p d.blocks d.wires) :
    (c.load d).canvas.blocks = c.blocks ∧ (c.load d).canvas.wires = c.wires ∨
      (∀ b ∈ d.blocks, b.isCopyable = true) ∧ (c.load d).canvas.blocks = d.blocks ∧
        (c.load d).canvas.wires = d.wires := by
  have hload := load_cases d c
  have hlaid := laid_eq (c := c) hd
  generalize c.load d = o at hload
  cases hload with
  | refused deep => exact .inl ⟨rfl, rfl⟩
  | stoppedAtBlock interrupts long =>
    rw [hlaid]
    exact .inr ⟨interrupts.1, rfl, rfl⟩
  | stoppedAtWire interrupts readable =>
    rw [hlaid]
    exact .inr ⟨interrupts.1, rfl, rfl⟩
  | complete copyable readable =>
    rw [hlaid]
    exact .inr ⟨copyable, rfl, rfl⟩

/-- Loading a nested drawing leaves blocks nested, however it goes. -/
theorem load_nested {d : Drawing} (hd : Consistent p d.blocks d.wires) (hn : Nested p d.blocks)
    (hc : Nested p c.blocks) : Nested p (c.load d).canvas.blocks := by
  rcases load_blocks (c := c) hd with ⟨hsame, -⟩ | ⟨-, hnew, -⟩
  · exact hsame.symm ▸ hc
  · exact hnew.symm ▸ hn

/-- **What loading a checked drawing does to the rules.** -/
theorem load_rules {d : Drawing} (hd : Consistent p d.blocks d.wires) (hn : Nested p d.blocks)
    (hc : Consistent p c.blocks c.wires) :
    Consistent p (c.load d).canvas.blocks (c.load d).canvas.wires ∧
      (Sound p c → (Sound p (c.load d).canvas ↔
        ¬ (d.Interrupts ∧ ¬ (c.load d).canvas.Has c.selection))) := by
  have hload := load_cases d c
  have hlaid := laid_eq (c := c) hd
  generalize c.load d = o at hload
  cases hload with
  | refused deep =>
    refine ⟨hc, fun hsound ↦ ⟨fun _ h ↦ h.2 hsound.selected, fun _ ↦ hsound⟩⟩
  | stoppedAtBlock interrupts long =>
    rw [hlaid]
    refine ⟨hd, fun hsound ↦ ⟨fun h hlost ↦ hlost.2 h.selected, fun h ↦ ?_⟩⟩
    exact ⟨hd, hn, hsound.single, not_not.1 fun hlost ↦ h ⟨interrupts, hlost⟩⟩
  | stoppedAtWire interrupts readable =>
    rw [hlaid]
    refine ⟨hd, fun hsound ↦ ⟨fun h hlost ↦ hlost.2 h.selected, fun h ↦ ?_⟩⟩
    exact ⟨hd, hn, hsound.single, not_not.1 fun hlost ↦ h ⟨interrupts, hlost⟩⟩
  | complete copyable readable =>
    rw [hlaid]
    exact ⟨hd, fun _ ↦ ⟨fun _ hlost ↦ readable hlost.1, fun _ ↦ ⟨hd, hn, .inl rfl, trivial⟩⟩⟩

end Canvas

/-! ### Runs -/

/-- **What breaks the rules**: an interrupted load that leaves a selection without its block or
wire, or a block that evicts a container. -/
def Action.Breaks (p : Palette) (c : Canvas) (a : Action) : Prop :=
  (a.Interrupted p ∧ ¬ (a.effect p c).canvas.Has c.selection) ∨ Evicts p c (a.effect p c).events

/-- No action on documents makes a graph inconsistent. -/
theorem Action.effect_consistent {a : Action} (ha : a.Checked)
    (hc : Consistent p c.blocks c.wires) :
    Consistent p (a.effect p c).canvas.blocks (a.effect p c).canvas.wires := by
  obtain ⟨d, hd, heffect⟩ | ⟨-, htrace⟩ := a.effect_cases c a.within_anything
  · obtain ⟨hconsistent, hnested⟩ := rules_of_drawing? ha hd
    rw [heffect]
    exact (load_rules hconsistent hnested hc).1
  · exact htrace.consistent hc

/-- A load gives no id out and evicts nothing. -/
theorem Action.not_evicts_of_drawing? {a : Action} {d : Drawing} (hd : a.drawing? p = some d) :
    ¬ Evicts p c (a.effect p c).events := by
  refine not_evicts ?_
  rw [Action.effect_of_drawing? hd]
  exact Item.allocated_load .block d c

/-- **An action keeps blocks nested exactly if it evicts no container.** -/
theorem Action.effect_nested_iff {a : Action} (ha : a.Checked) (hc : Consistent p c.blocks c.wires)
    (hn : Nested p c.blocks) :
    Nested p (a.effect p c).canvas.blocks ↔ ¬ Evicts p c (a.effect p c).events := by
  rcases hd : a.drawing? p with - | d
  · -- Nothing is loaded: the action makes a block, or all it does is change.
    cases a with
    | openDocument source =>
      rcases hopen : Document.open? (some p) source with fault | d
      · simp only [Action.effect, hopen]
        exact ⟨fun _ ↦ not_evicts rfl, fun _ ↦ hn⟩
      · simp [Action.drawing?, hopen, Except.toOption] at hd
    | follow i =>
      have hload : ∀ d, i ≠ .load d := by
        rintro d rfl
        exact ha
      have hwithin : i.Within .anything := (Action.follow i).within_anything
      by_cases hmake : i.MakesBlock
      · exact (follow_made hwithin hmake).nested_iff hc hn
      · have hchange : Trace (Change p .anything) c (c.follow p i).events (c.follow p i).canvas :=
          (follow_changed hwithin hload hmake).traced
        exact ⟨fun _ ↦ not_evicts hchange.allocated_block, fun _ ↦ hchange.nested hc hn⟩
  · obtain ⟨hconsistent, hnested⟩ := rules_of_drawing? ha hd
    refine ⟨fun _ ↦ not_evicts_of_drawing? hd, fun _ ↦ ?_⟩
    rw [Action.effect_of_drawing? hd]
    exact load_nested hconsistent hnested hn

/-- **An action keeps the rules exactly if it is none that breaks them.** -/
theorem Action.effect_sound_iff {a : Action} (ha : a.Checked) (hc : Sound p c) :
    Sound p (a.effect p c).canvas ↔ ¬ a.Breaks p c := by
  rcases hd : a.drawing? p with - | d
  · have hcalm : ¬ a.Interrupted p := by simp [Action.Interrupted, hd]
    have htrace := Action.effect_traced (c := c) a.within_anything hd
    rw [htrace.sound_iff hc, Action.effect_nested_iff ha hc.consistent hc.nested, Action.Breaks,
      not_or]
    exact ⟨fun h ↦ ⟨fun hlost ↦ hcalm hlost.1, h⟩, And.right⟩
  · -- A load gives no id out, so all that can be lost is the selection.
    obtain ⟨hconsistent, hnested⟩ := rules_of_drawing? ha hd
    have hinterrupted : a.Interrupted p ↔ d.Interrupts := by simp [Action.Interrupted, hd]
    have hrules := (load_rules hconsistent hnested hc.consistent).2 hc
    rw [Action.Breaks, not_or, and_iff_left (not_evicts_of_drawing? hd), hinterrupted,
      Action.effect_of_drawing? hd]
    exact hrules

/-- No action breaks the rules where the numbers of blocks are below the counter, unless it is
interrupted. -/
theorem Action.not_breaks {a : Action} (hcalm : ¬ a.Interrupted p) (hbelow : Item.block.Below c)
    (hc : Sound p c) : ¬ a.Breaks p c := by
  rintro (⟨hinterrupted, -⟩ | hevicts)
  · exact hcalm hinterrupted
  · refine not_evicts_of_fresh hc.nested (fun id hgiven hmem ↦ ?_) hevicts
    obtain ⟨n, rfl, hle, -⟩ := Item.numbered_of_allocated .block hbelow.1 hgiven
    have hlt : (n : Int) < Item.block.next c := hbelow.2 n hmem
    omega

/-- The rules hold all along a run exactly if none of its actions breaks them. -/
theorem sound_along_iff {actions : List Action} (h : ∀ a ∈ actions, a.Checked) :
    (∀ early, early <+: actions → Sound p (run p early)) ↔
      ∀ early a, early ++ [a] <+: actions → ¬ a.Breaks p (run p early) :=
  run_along_iff (B := fun c a ↦ a.Breaks p c) (sound_empty p)
    (fun _ ha hbefore ↦ Action.effect_sound_iff ha hbefore) h

/-- The graph is consistent after every run. -/
theorem consistent_of_run {actions : List Action} (h : ∀ a ∈ actions, a.Checked) :
    Consistent p (run p actions).blocks (run p actions).wires :=
  run_induction (P := fun c ↦ Consistent p c.blocks c.wires) (consistent_empty p)
    (fun hc ha ↦ Action.effect_consistent ha hc) h

/-- **What every step keeps of a graph, and every drawing that is loaded has, holds after every
run.** A drawing only comes onto the canvas if its blocks can be copied. -/
theorem graph_induction {P : List Block → List Wire → Prop} (hempty : P [] [])
    (hstep : ∀ {c es c'}, Step p s c es c' → Consistent p c.blocks c.wires → P c.blocks c.wires →
      P c'.blocks c'.wires) {actions : List Action}
    (h : ∀ a ∈ actions, a.Checked ∧ a.Within s ∧ ∀ d, a.drawing? p = some d →
      (∀ b ∈ d.blocks, b.isCopyable = true) → P d.blocks d.wires) :
    P (run p actions).blocks (run p actions).wires := by
  refine (run_induction (P := fun c ↦ Consistent p c.blocks c.wires ∧ P c.blocks c.wires)
    ⟨consistent_empty p, hempty⟩ ?_ h).2
  rintro c a ⟨hc, hP⟩ ⟨hchecked, hwithin, hbrings⟩
  refine ⟨Action.effect_consistent hchecked hc, ?_⟩
  obtain ⟨d, hd, heffect⟩ | ⟨-, htrace⟩ := a.effect_cases c hwithin
  · rw [heffect]
    show P (c.load d).canvas.blocks (c.load d).canvas.wires
    rcases load_blocks (c := c) (rules_of_drawing? hchecked hd).1 with ⟨hblocks, hwires⟩ |
      ⟨hcopy, hblocks, hwires⟩
    · rw [hblocks, hwires]
      exact hP
    · rw [hblocks, hwires]
      exact hbrings d hd hcopy
  · refine (htrace.invariant
      (P := fun c ↦ Consistent p c.blocks c.wires ∧ P c.blocks c.wires) ?_ ⟨hc, hP⟩).2
    rintro c es c' step ⟨hc, hP⟩
    exact ⟨step.consistent hc, hstep step hc hP⟩

/-- Blocks are nested all along a run exactly if none of its actions evicts a container. -/
theorem nested_along_iff {actions : List Action} (h : ∀ a ∈ actions, a.Checked) :
    (∀ early, early <+: actions → Nested p (run p early).blocks) ↔
      ∀ early a, early ++ [a] <+: actions →
        ¬ Evicts p (run p early) (a.effect p (run p early)).events :=
  run_along_iff (P := fun c ↦ Nested p c.blocks) (B := fun c a ↦ Evicts p c (a.effect p c).events)
    (nested_empty p)
    (fun hearly ha hbefore ↦ Action.effect_nested_iff ha (consistent_of_run hearly) hbefore) h

/-- **The rules hold after every run without an interrupted load.** -/
theorem sound_of_calm {actions : List Action} (h : ∀ a ∈ actions, a.Checked)
    (hcalm : ∀ a ∈ actions, ¬ a.Interrupted p) : Sound p (run p actions) := by
  induction actions using List.reverseRecOn with
  | nil => exact sound_empty p
  | append_singleton actions a ih =>
    have hearly : ∀ x ∈ actions, ¬ x.Interrupted p :=
      fun x hx ↦ hcalm x (List.mem_append_left _ hx)
    have hbefore : Sound p (run p actions) :=
      ih (fun x hx ↦ h x (List.mem_append_left _ hx)) hearly
    have hlast : a ∈ actions ++ [a] := List.mem_append_right _ (List.mem_singleton_self a)
    rw [run_concat, Action.effect_sound_iff (h a hlast) hbefore]
    exact Action.not_breaks (hcalm a hlast) (Item.below_run hearly) hbefore

/-- **The rules of the canvas, over every run.** For every palette, and whatever is asked of the
canvas in whatever words, drawings being loaded from documents:

* ids are distinct, wires join blocks that exist, one block at most is an entry point, and simple
  wires map nothing, after every run;
* all of the rules hold all along a run exactly if none of its actions breaks them, by a load that
  is interrupted and leaves a selection without its block or wire, or by a block that evicts a
  container;
* none does if no load is interrupted. -/
theorem sound_of_run (p : Palette) {actions : List Action} (h : ∀ a ∈ actions, a.Checked) :
    Consistent p (run p actions).blocks (run p actions).wires ∧
      ((∀ early, early <+: actions → Sound p (run p early)) ↔
        ∀ early a, early ++ [a] <+: actions → ¬ a.Breaks p (run p early)) ∧
      ((∀ a ∈ actions, ¬ a.Interrupted p) → Sound p (run p actions)) :=
  ⟨consistent_of_run h, sound_along_iff h, sound_of_calm h⟩

/-- A block is dropped into the entry point and wired to it, the wire is selected, and a second
entry point and a document are refused: the rules hold. -/
theorem sound_after_refusals :
    let p := Palette.bundled
    let entry : Action := .follow (.drop { type := .text "main" })
    let actions : List Action := [entry, .follow (.drop { type := .text "debug" }),
      .follow (.connect (.text "node_1") (.text "node_0") .null),
      .follow (.selectWire (.text "edge_0")), entry, .openDocument (.error [])]
    (∀ a ∈ actions, a.Checked) ∧ (∀ a ∈ actions, ¬ a.Interrupted p) ∧
      (run p actions).blocks.map Block.parent = [none, some "node_0"] ∧
      (run p actions).selection = .wire "edge_0" ∧ Sound p (run p actions) := by
  intro p entry actions
  have hchecked : ∀ a ∈ actions, a.Checked := by simp [actions, entry, Action.Checked]
  have hcalm : ∀ a ∈ actions, ¬ a.Interrupted p := by
    simp [actions, entry, Action.Interrupted, Action.drawing?, Document.open?, Except.toOption]
  exact ⟨hchecked, hcalm, by decide +kernel, by decide +kernel,
    (sound_of_run p hchecked).2.2 hcalm⟩

/-- **An interrupted load leaves a selection without its block.** A block is made and selected; then
a document is opened whose only block has an overlong id. -/
theorem selection_lost_by_load :
    let p := Palette.bundled
    let actions : List Action := [.follow (.create { type := .text "debug" }),
      .follow (.selectBlock (.text "node_0"))]
    let opened : Action := .openDocument (.ok (.lone overlongId))
    (∀ a ∈ actions ++ [opened], a.Checked) ∧
      (opened.effect p (run p actions)).refused = true ∧
      (run p (actions ++ [opened])).selection = .block "node_0" ∧
      (run p (actions ++ [opened])).blocks.map Block.id = [overlongId] ∧
      ¬ Sound p (run p (actions ++ [opened])) := by
  intro p actions opened
  have hselection : (run p actions).selection = .block "node_0" := by decide +kernel
  rw [run_concat, Action.effect_lone isOverlongId_overlongId]
  generalize run p actions = c at hselection ⊢
  refine ⟨by simp [actions, opened, Action.Checked], rfl, (selection_laid _ c).trans hselection,
    blockIds_laid_lone c overlongId, fun hsound ↦ ?_⟩
  -- What is selected would have to be the block with the overlong id.
  have hhas := hsound.selected
  rw [selection_laid, hselection, has_block_iff, blockIds_laid_lone, List.mem_singleton] at hhas
  have hlong := isOverlongId_overlongId
  rw [← hhas] at hlong
  exact absurd hlong (by decide)

end FlowCanvas
