import FlowCanvas.Proofs.Freshness

/-!
# Watching a canvas

An editor that watches a canvas keeps a *mirror* of it: the ids of the blocks, the wires with their
ends, and the selection. It goes by the events alone (`Mirror.see`); only when it hears that a
drawing was loaded does it look at the canvas again. `Mirror.watch` is the mirror after a run, and
`Mirror.of` what a faithful mirror shows.

**One step at a time.** A step that keeps a faithful mirror faithful is one whose events say all
that it does. Retouching says nothing that a mirror keeps, and does nothing that it shows. Deleting
reports the wires that go with a block by their ids, so wires have to have distinct ids, which they
have after every run (`nodup_wireIds_run`). Whatever is made goes to the end of a mirror. So a step
keeps it faithful exactly if the ids that it gives out are not taken (`Step.seen_iff`).

**One action at a time.** No action makes two changes, and all else that it does is retouching; so
the same is true of actions that load nothing. A load is reported last, when the canvas is as it
will be. A load that is interrupted is not reported at all, and its drawing is there.

The main statement is about all runs, of any actions with any palette (`watch_along_iff`): the
mirror is faithful all along a run **exactly if** no action of the run makes it *drift*, by an
interrupted load of something else or by an id that is taken. No run without an interrupted load
does either.
-/

namespace FlowCanvas

open Canvas (run Trace)

/-- What an editor keeps of the canvas that it watches. -/
structure Mirror where
  /-- The ids of the blocks. -/
  blocks : List String := []
  /-- The ids of the wires, each with its source and its target. -/
  wires : List (String × String × String) := []
  /-- The selected block and the selected wire. -/
  selection : Option String × Option String := (none, none)
deriving DecidableEq

namespace Mirror

/-- What a faithful mirror shows of a canvas. -/
def of (c : Canvas) : Mirror where
  blocks := c.blocks.map Block.id
  wires := c.wires.map Canvas.wireCore
  selection := (c.selection.block?, c.selection.wire?)

/-- **What an editor makes of an event.** It looks at the canvas only where a drawing was loaded. -/
def see (c : Canvas) (m : Mirror) : Event → Mirror
  | .blockCreated id _ => { m with blocks := m.blocks ++ [id] }
  | .blockDeleted id wires =>
    { m with
      blocks := m.blocks.filter fun k ↦ k != id
      wires := m.wires.filter fun w ↦ !wires.contains w.1 }
  | .wireCreated id source target => { m with wires := m.wires ++ [(id, source, target)] }
  | .wireDeleted id => { m with wires := m.wires.filter fun w ↦ w.1 != id }
  | .selectionChanged block wire => { m with selection := (block, wire) }
  | .loaded _ _ => { of c with selection := (none, none) }
  | .blockUpdated _ _ | .blockMoved _ _ | .blockReparented _ _ _ _ | .wireUpdated _ _ => m

/-- A canvas and the mirror of it after an action. -/
def next (p : Palette) (s : Canvas × Mirror) (a : Action) : Canvas × Mirror :=
  ((a.effect p s.1).canvas, (a.effect p s.1).events.foldl (see (a.effect p s.1).canvas) s.2)

/-- The mirror after a run that was watched from the empty canvas on. -/
def watch (p : Palette) (actions : List Action) : Mirror :=
  (actions.foldl (next p) (.empty, {})).2

@[simp]
theorem watch_nil (p : Palette) : watch p [] = {} :=
  rfl

theorem canvas_of_watched (p : Palette) (actions : List Action) :
    (actions.foldl (next p) (.empty, {})).1 = run p actions := by
  induction actions using List.reverseRecOn with
  | nil => rfl
  | append_singleton early a ih =>
    rw [List.foldl_concat, Canvas.run_concat, next, ih]

theorem watch_concat (p : Palette) (actions : List Action) (a : Action) :
    watch p (actions ++ [a]) = (a.effect p (run p actions)).events.foldl
      (see (a.effect p (run p actions)).canvas) (watch p actions) := by
  rw [watch, List.foldl_concat, next, canvas_of_watched]
  rfl

end Mirror

/-- None of the ids that events report as given out is taken. -/
def Canvas.Untaken (c : Canvas) (es : List Event) : Prop :=
  ∀ item : Item, ∀ id ∈ item.allocated es, id ∉ item.ids c

namespace Canvas

open Mirror (see)

variable {p : Palette} {s : Supply} {c c' : Canvas} {es fs : List Event}

theorem untaken_of_quiet (h : ∀ item : Item, item.allocated es = []) : c.Untaken es := by
  intro item id hid
  rw [h item] at hid
  exact absurd hid List.not_mem_nil

/-! ### Retouching -/

/-- What retouching keeps is all that a mirror shows. -/
theorem Kept.mirror_eq (h : Kept c c') : Mirror.of c' = Mirror.of c := by
  rw [Mirror.of, Mirror.of, h.blockIds, h.wires, h.selection]

theorem Kept.ids_eq (h : Kept c c') (item : Item) : item.ids c' = item.ids c := by
  cases item with
  | block => exact h.blockIds
  | wire => exact h.wireIds

/-- Retouching reports nothing that a mirror keeps. -/
theorem Retouch.seen (h : Retouch p s c es c') (x : Canvas) (m : Mirror) :
    es.foldl (see x) m = m := by
  cases h with
  | relabel id label value events report => rcases report with rfl | ⟨keys, rfl⟩ <;> rfl
  | _ => rfl

theorem Trace.seen (h : Trace (Retouch p s) c es c') (x : Canvas) (m : Mirror) :
    es.foldl (see x) m = m := by
  induction h with
  | nil => rfl
  | cons step _ ih => rw [List.foldl_append, step.seen, ih]

theorem Trace.allocated_eq_nil (h : Trace (Retouch p s) c es c') (item : Item) :
    item.allocated es = [] := by
  induction h with
  | nil => rfl
  | cons step _ ih => rw [Item.allocated_append, step.allocated_eq_nil, ih, List.append_nil]

/-! ### Selecting -/

variable {x : Canvas} {m : Mirror}

/-- A selection is reported unless it is the one that is there. -/
theorem seen_selecting (h : m.selection = (Mirror.of c).selection) (selection : Selection) :
    (c.selecting selection).2.foldl (see x) m =
      { m with selection := (selection.block?, selection.wire?) } := by
  unfold selecting
  split
  · next hsame =>
    have hkept : m.selection = (selection.block?, selection.wire?) := by rw [h, hsame, Mirror.of]
    rw [← hkept]
    rfl
  · rfl

theorem seen_deselecting (lost : Prop) [Decidable lost]
    (h : m.selection = (Mirror.of c).selection) :
    (deselecting lost c).2.foldl (see x) m =
      { m with selection := (Mirror.of (deselecting lost c).1).selection } := by
  unfold deselecting
  split
  · rw [seen_selecting h, selecting_eq]
    rfl
  · rw [← h]
    rfl

/-! ### Steps -/

/-- A wire is at a block exactly if its id is among those of the wires there. -/
theorem contains_wireIdsOf (hwires : (c.wires.map Wire.id).Nodup) (id : String) {w : Wire}
    (hw : w ∈ c.wires) : (c.wireIdsOf id).contains w.id = touches id w := by
  rw [Bool.eq_iff_iff, List.contains_iff_mem]
  constructor
  · intro hmem
    obtain ⟨v, hv, hid⟩ := List.mem_map.1 hmem
    obtain ⟨hv, htouches⟩ := List.mem_filter.1 hv
    rwa [← List.inj_on_of_nodup_map hwires hv hw hid]
  · exact fun htouches ↦ List.mem_map_of_mem (List.mem_filter.2 ⟨hw, htouches⟩)

/-- What a mirror makes of a deleted block is the canvas without it. -/
theorem seen_without (hwires : (c.wires.map Wire.id).Nodup) (id : String)
    (selection : Option String × Option String) :
    see x { Mirror.of c with selection := selection } (.blockDeleted id (c.wireIdsOf id)) =
      { Mirror.of (c.without id) with selection := selection } := by
  have hblocks : (c.blocks.map Block.id).filter (fun k ↦ k != id) =
      (c.without id).blocks.map Block.id := by
    rw [List.filter_map]
    rfl
  have hkept : (c.wires.map wireCore).filter (fun w ↦ !(c.wireIdsOf id).contains w.1) =
      (c.without id).wires.map wireCore := by
    rw [List.filter_map]
    refine congrArg (List.map wireCore) (List.filter_congr fun w hw ↦ ?_)
    exact congrArg not (contains_wireIdsOf hwires id hw)
  show Mirror.mk _ _ selection = _
  rw [Mirror.of, hblocks, hkept]
  rfl

theorem seen_withoutWire (id : String) (selection : Option String × Option String) :
    see x { Mirror.of c with selection := selection } (.wireDeleted id) =
      { Mirror.of (c.withoutWire id) with selection := selection } := by
  have hkept : (c.wires.map wireCore).filter (fun w ↦ w.1 != id) =
      (c.withoutWire id).wires.map wireCore := by
    rw [List.filter_map]
    rfl
  show Mirror.mk _ _ selection = _
  rw [Mirror.of, hkept]
  rfl

/-- **A change keeps a mirror faithful exactly if the id that it gives out, if any, is not
taken.** -/
theorem Change.seen_iff (h : Change p s c es c') (hwires : (c.wires.map Wire.id).Nodup)
    (x : Canvas) : es.foldl (see x) (Mirror.of c) = Mirror.of c' ↔ c.Untaken es := by
  cases h with
  | retouch h =>
    refine iff_of_true ?_ (untaken_of_quiet h.allocated_eq_nil)
    rw [h.seen, h.kept.mirror_eq]
  | remove id b block plain childless =>
    refine iff_of_true ?_ (untaken_of_quiet fun item ↦ ?_)
    · have hselection : (Mirror.of c).selection = (Mirror.of (c.without id)).selection := rfl
      rw [List.foldl_concat, seen_deselecting _ hselection, seen_without hwires, deselecting_eq]
      rfl
    · cases item <;> exact allocated_deselecting rfl _
  | connect source target data kind mapping ends new valid =>
    -- The wire goes to the end of the mirror; on the canvas it does if its id is new.
    let new : Wire := ⟨c.ids.wireId, source, target, some kind, mapping⟩
    have huntaken : c.Untaken [.wireCreated new.id source target] ↔
        new.id ∉ c.wires.map Wire.id := by
      refine ⟨fun h ↦ h .wire _ (List.mem_singleton_self _), fun h item id hid ↦ ?_⟩
      cases item with
      | block => exact absurd hid List.not_mem_nil
      | wire =>
        rw [List.mem_singleton.1 hid]
        exact h
    show Mirror.mk _ (c.wires.map wireCore ++ [wireCore new]) _ =
      Mirror.mk _ ((putBy Wire.id new c.wires).map wireCore) _ ↔ _
    rw [huntaken, ← map_putBy_eq_concat_iff Wire.id wireCore, Mirror.mk.injEq]
    exact ⟨fun h ↦ h.2.1.symm, fun h ↦ ⟨rfl, h.symm, rfl⟩⟩
  | disconnect id w wire =>
    refine iff_of_true ?_ (untaken_of_quiet fun item ↦ ?_)
    · have hselection : (Mirror.of c).selection = (Mirror.of (c.withoutWire id)).selection := rfl
      rw [List.foldl_concat, seen_deselecting _ hselection, seen_withoutWire, deselecting_eq]
      rfl
    · cases item <;> exact allocated_deselecting rfl _
  | select selection known =>
    refine iff_of_true ?_ (untaken_of_quiet fun item ↦ ?_)
    · rw [seen_selecting rfl, selecting_eq]
      rfl
    · refine allocated_eq_nil (e := .selectionChanged none none) (by cases item <;> rfl) ?_
      exact fun e he ↦ .inr ⟨_, _, mem_selecting he⟩

/-- **So does a block that is made.** -/
theorem Create.seen_iff (h : Create p s c es c') (x : Canvas) :
    es.foldl (see x) (Mirror.of c) = Mirror.of c' ↔ c.Untaken es := by
  obtain ⟨n, t, properties, position, within, type, defaults, valid, place⟩ := h
  generalize hb : c.newBlock t properties position
    ((Fields.get? n.properties "label").getD n.label) = new
  have hid : new.id = c.ids.blockId := by
    rw [← hb]
    rfl
  have huntaken : c.Untaken [.blockCreated c.ids.blockId n.type] ↔
      new.id ∉ c.blocks.map Block.id := by
    rw [hid]
    refine ⟨fun h ↦ h .block _ (List.mem_singleton_self _), fun h item id hid ↦ ?_⟩
    cases item with
    | block =>
      rw [List.mem_singleton.1 hid]
      exact h
    | wire => exact absurd hid List.not_mem_nil
  show Mirror.mk (c.blocks.map Block.id ++ [c.ids.blockId]) _ _ =
    Mirror.mk ((putBy Block.id new c.blocks).map Block.id) _ _ ↔ _
  rw [huntaken, ← map_putBy_eq_concat_iff Block.id Block.id, Mirror.mk.injEq, hid]
  exact ⟨fun h ↦ h.1.symm, fun h ↦ ⟨h.symm, rfl, rfl⟩⟩

/-! ### Wires have distinct ids -/

theorem Step.nodup_wireIds (h : Step p s c es c') (hwires : (c.wires.map Wire.id).Nodup) :
    (c'.wires.map Wire.id).Nodup := by
  cases h with
  | create h =>
    obtain ⟨n, t, properties, position, within, type, defaults, valid, place⟩ := h
    exact hwires
  | change h =>
    cases h with
    | retouch h =>
      rw [h.kept.wireIds]
      exact hwires
    | remove id b block plain childless =>
      rw [deselecting_eq]
      exact hwires.sublist (List.filter_sublist.map Wire.id)
    | connect source target data kind mapping ends new valid =>
      exact nodup_putBy Wire.id _ hwires
    | disconnect id w wire =>
      rw [deselecting_eq]
      exact hwires.sublist (List.filter_sublist.map Wire.id)
    | select selection known =>
      rw [selecting_eq]
      exact hwires

theorem nodup_wireIds_load (d : Drawing) (hwires : (c.wires.map Wire.id).Nodup) :
    ((c.load d).canvas.wires.map Wire.id).Nodup := by
  have hload := load_cases d c
  generalize c.load d = o at hload
  cases hload with
  | refused deep => exact hwires
  | stoppedAtBlock interrupts long => exact nodup_keyedBy Wire.id d.wires
  | stoppedAtWire interrupts readable => exact nodup_keyedBy Wire.id d.wires
  | complete copyable readable => exact nodup_keyedBy Wire.id d.wires

/-- The wires have distinct ids after every run, whatever was loaded. -/
theorem nodup_wireIds_run (p : Palette) (actions : List Action) :
    ((run p actions).wires.map Wire.id).Nodup := by
  refine run_induction (P := fun c ↦ (c.wires.map Wire.id).Nodup) (Q := fun _ ↦ True)
    List.nodup_nil ?_ fun _ _ ↦ trivial
  intro c a hc _
  obtain ⟨d, -, heffect⟩ | ⟨-, htrace⟩ := a.effect_cases c a.within_anything
  · rw [heffect]
    exact nodup_wireIds_load d hc
  · exact htrace.invariant (P := fun c ↦ (c.wires.map Wire.id).Nodup)
      (fun step hc ↦ step.nodup_wireIds hc) hc

end Canvas

/-! ### Actions -/

section Actions

open Mirror (see)

variable {p : Palette} {s : Supply} {c : Canvas} {α : Type} {o : Outcome α}

theorem Outcome.Changed.seen_iff (h : o.Changed p s c) (hwires : (c.wires.map Wire.id).Nodup)
    (x : Canvas) : o.events.foldl (see x) (Mirror.of c) = Mirror.of o.canvas ↔
      c.Untaken o.events := by
  obtain ⟨c', es, fs, htrace, hevents, hchange⟩ := h
  have hallocated : ∀ item : Item, item.allocated (es ++ fs) = item.allocated fs := fun item ↦ by
    rw [Item.allocated_append, htrace.allocated_eq_nil, List.nil_append]
  rw [hevents, List.foldl_append, htrace.seen]
  rcases hchange with ⟨hcanvas, rfl⟩ | hchange
  · refine iff_of_true ?_ (Canvas.untaken_of_quiet hallocated)
    rw [hcanvas, htrace.kept.mirror_eq]
    rfl
  · have hiff := hchange.seen_iff (htrace.kept.wireIds ▸ hwires) x
    rw [htrace.kept.mirror_eq] at hiff
    rw [hiff]
    simp only [Canvas.Untaken, hallocated, htrace.kept.ids_eq]

theorem Outcome.Made.seen_iff (h : o.Made p s c) (x : Canvas) :
    o.events.foldl (see x) (Mirror.of c) = Mirror.of o.canvas ↔ c.Untaken o.events := by
  rcases h with h | ⟨c', es, fs, hcreate, hevents, htrace⟩
  · refine iff_of_true ?_ (Canvas.untaken_of_quiet h.allocated_eq_nil)
    rw [Canvas.Trace.seen h, h.kept.mirror_eq]
  · have htrace' : Trace (Canvas.Retouch p s) c' fs o.canvas := htrace.mono And.left
    have hallocated : ∀ item : Item, item.allocated (es ++ fs) = item.allocated es := fun item ↦ by
      rw [Item.allocated_append, htrace'.allocated_eq_nil, List.append_nil]
    rw [hevents, List.foldl_append, htrace'.seen, htrace'.kept.mirror_eq, hcreate.seen_iff]
    simp only [Canvas.Untaken, hallocated]

/-- A load that is interrupted is not reported, so the mirror stays as it was. -/
theorem Canvas.load_seen_iff (d : Drawing) (c : Canvas) :
    (c.load d).events.foldl (see (c.load d).canvas) (Mirror.of c) = Mirror.of (c.load d).canvas ↔
      ¬ (d.Interrupts ∧ Mirror.of (c.load d).canvas ≠ Mirror.of c) := by
  have hload := load_cases d c
  generalize c.load d = o at hload
  cases hload with
  | refused deep => exact iff_of_true rfl fun h ↦ h.2 rfl
  | stoppedAtBlock interrupts long =>
    refine ⟨fun h hdrift ↦ hdrift.2 h.symm, fun h ↦ ?_⟩
    exact (not_not.1 fun hne ↦ h ⟨interrupts, hne⟩).symm
  | stoppedAtWire interrupts readable =>
    refine ⟨fun h hdrift ↦ hdrift.2 h.symm, fun h ↦ ?_⟩
    exact (not_not.1 fun hne ↦ h ⟨interrupts, hne⟩).symm
  | complete copyable readable => exact iff_of_true rfl fun h ↦ readable h.1

/-- **What makes a mirror drift**: an interrupted load that leaves something else than was there, or
an id that is given out and taken. -/
def Action.Drifts (p : Palette) (c : Canvas) (a : Action) : Prop :=
  (a.Interrupted p ∧ Mirror.of (a.effect p c).canvas ≠ Mirror.of c) ∨
    ¬ c.Untaken (a.effect p c).events

/-- What an action does that loads nothing is seen exactly if it gives out no id that is taken. -/
theorem Action.seen_iff_of_unloaded {a : Action} (hd : a.drawing? p = none)
    (hwires : (c.wires.map Wire.id).Nodup) (x : Canvas) :
    (a.effect p c).events.foldl (see x) (Mirror.of c) = Mirror.of (a.effect p c).canvas ↔
      c.Untaken (a.effect p c).events := by
  cases a with
  | openDocument source =>
    rcases hopen : Document.open? (some p) source with fault | d
    · simp only [effect, hopen]
      exact iff_of_true rfl (Canvas.untaken_of_quiet fun _ ↦ rfl)
    · simp [drawing?, hopen, Except.toOption] at hd
  | follow i =>
    have hload : ∀ d, i ≠ .load d := by
      rintro d rfl
      simp [drawing?] at hd
    have hwithin : i.Within .anything := (Action.follow i).within_anything
    by_cases hmake : i.MakesBlock
    · exact (Canvas.follow_made hwithin hmake).seen_iff x
    · exact (Canvas.follow_changed hwithin hload hmake).seen_iff hwires x

/-- **An action keeps a faithful mirror faithful exactly if it does not make it drift.** -/
theorem Action.seen_iff (a : Action) (hwires : (c.wires.map Wire.id).Nodup) :
    (a.effect p c).events.foldl (see (a.effect p c).canvas) (Mirror.of c) =
      Mirror.of (a.effect p c).canvas ↔ ¬ a.Drifts p c := by
  rw [Drifts, not_or, not_not]
  rcases hd : a.drawing? p with - | d
  · have hcalm : ¬ a.Interrupted p := by simp [Interrupted, hd]
    rw [seen_iff_of_unloaded hd hwires]
    exact ⟨fun h ↦ ⟨fun hdrift ↦ hcalm hdrift.1, h⟩, And.right⟩
  · -- A load gives no id out.
    have huntaken : c.Untaken (a.effect p c).events := by
      rw [effect_of_drawing? hd]
      exact Canvas.untaken_of_quiet fun item ↦ Item.allocated_load item d c
    have hinterrupted : a.Interrupted p ↔ d.Interrupts := by simp [Interrupted, hd]
    rw [and_iff_left huntaken, hinterrupted, effect_of_drawing? hd]
    exact Canvas.load_seen_iff d c

/-- Where the numbers are below the counters, no id that is given out is taken. -/
theorem Action.untaken_of_below (a : Action) (h : ∀ item : Item, item.Below c) :
    c.Untaken (a.effect p c).events := by
  intro item id hgiven hmem
  obtain ⟨n, rfl, hle, -⟩ := Item.numbered_of_allocated item (h item).1 hgiven
  have hlt : (n : Int) < item.next c := (h item).2 n hmem
  omega

end Actions

/-! ### Runs -/

/-- **A mirror is faithful all along a run exactly if no action makes it drift.** For every palette
and every run, of actions that come through or are refused, with any arguments and loads of any
drawings: after every action the editor that goes by the events alone has the ids of the blocks, the
wires with their ends and the selection, all in order, unless and until an interrupted load leaves
something else than was there, or an id is given out that is taken. No run without an interrupted
load does so. -/
theorem watch_along_iff (p : Palette) (actions : List Action) :
    ((∀ early, early <+: actions → Mirror.watch p early = Mirror.of (run p early)) ↔
        ∀ early a, early ++ [a] <+: actions → ¬ a.Drifts p (run p early)) ∧
      ((∀ a ∈ actions, ¬ a.Interrupted p) →
        ∀ early, early <+: actions → Mirror.watch p early = Mirror.of (run p early)) := by
  have hiff : (∀ early, early <+: actions → Mirror.watch p early = Mirror.of (run p early)) ↔
      ∀ early a, early ++ [a] <+: actions → ¬ a.Drifts p (run p early) := by
    refine Canvas.along_iff (P := fun early ↦ Mirror.watch p early = Mirror.of (run p early))
      (Q := fun _ ↦ True) (B := fun early a ↦ a.Drifts p (run p early)) rfl ?_ fun _ _ ↦ trivial
    intro early a _ _ hearly
    rw [Mirror.watch_concat, Canvas.run_concat, hearly]
    exact a.seen_iff (Canvas.nodup_wireIds_run p early)
  refine ⟨hiff, fun hcalm ↦ hiff.2 fun early a hearly ↦ ?_⟩
  have hearly' : ∀ x ∈ early, ¬ x.Interrupted p := fun x hx ↦
    hcalm x (hearly.subset (List.mem_append_left _ hx))
  rintro (⟨hinterrupted, -⟩ | htaken)
  · exact hcalm a (hearly.subset (List.mem_append_right _ (List.mem_singleton_self a))) hinterrupted
  · exact htaken (a.untaken_of_below fun item ↦ Item.below_run hearly')

/-- A selected wire goes with the block that it ends at: two wires were drawn and one block
deleted. -/
theorem watch_after_cascade :
    let p := Palette.bundled
    let made : Action := .follow (.create { type := .text "debug" })
    let joined : String → String → Action := fun a b ↦ .follow (.connect (.text a) (.text b) .null)
    let actions : List Action := [made, made, made, joined "node_0" "node_1",
      joined "node_2" "node_0", .follow (.selectWire (.text "edge_0")),
      .follow (.delete (.text "node_1")), .follow (.delete (.text "node_1"))]
    (∀ a ∈ actions, ¬ a.Interrupted p) ∧
      (∀ early, early <+: actions → Mirror.watch p early = Mirror.of (run p early)) ∧
      Mirror.of (run p actions) =
        ⟨["node_0", "node_2"], [("edge_1", "node_2", "node_0")], (none, none)⟩ := by
  intro p made joined actions
  have hcalm : ∀ a ∈ actions, ¬ a.Interrupted p := by
    intro a ha
    have hnone : ∀ a ∈ actions, a.drawing? p = none := by
      simp only [actions, List.forall_mem_cons, List.not_mem_nil, false_imp_iff, implies_true,
        and_true]
      exact ⟨rfl, rfl, rfl, rfl, rfl, rfl, rfl, rfl⟩
    rintro ⟨d, hd, -⟩
    rw [hnone a ha] at hd
    exact absurd hd (by simp)
  exact ⟨hcalm, (watch_along_iff p actions).2 hcalm, by decide +kernel⟩

/-- After whatever run, a document whose only block has an overlong id leaves that block on the
canvas and the mirror as it was. -/
theorem unseen_lone {id : String} (hlong : isOverlongId id = true) (early : List Action) :
    let actions := early ++ [.openDocument (.ok (.lone id))]
    Mirror.watch .bundled actions = Mirror.watch .bundled early ∧
      (Mirror.of (run .bundled actions)).blocks = [id] := by
  intro actions
  have heffect := Action.effect_lone hlong (run .bundled early)
  constructor
  · rw [Mirror.watch_concat, heffect]
    rfl
  · rw [Canvas.run_concat, heffect]
    exact Canvas.blockIds_laid_lone (run .bundled early) id

/-- **A load that is interrupted is not seen.** The block that was there is gone and another one
stands on the canvas; the mirror still shows the first. -/
theorem interrupted_load_unseen :
    let p := Palette.bundled
    let made : Action := .follow (.create { type := .text "debug" })
    let actions : List Action := [made] ++ [.openDocument (.ok (.lone overlongId))]
    (Mirror.watch p actions).blocks = ["node_0"] ∧
      (Mirror.of (run p actions)).blocks = [overlongId] ∧
      Mirror.watch p actions ≠ Mirror.of (run p actions) := by
  intro p made actions
  obtain ⟨hwatch, hthere⟩ := unseen_lone isOverlongId_overlongId [made]
  have hseen : (Mirror.watch p actions).blocks = ["node_0"] := by
    rw [hwatch]
    decide +kernel
  refine ⟨hseen, hthere, fun heq ↦ ?_⟩
  have hid : ["node_0"] = [overlongId] := by rw [← hseen, heq, hthere]
  have hlong := isOverlongId_overlongId
  rw [← (List.cons.inj hid).1] at hlong
  exact absurd hlong (by decide)

end FlowCanvas
