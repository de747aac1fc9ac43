import FlowCanvas.Proofs.Numbering

/-!
# Fresh ids

An id that is given out has not been on the canvas before, **at no earlier moment of the run**; the
counters never go back. Ids that are gone, deleted or replaced by a load, count as well, and they
may have come from drawings with ids of any form.

There is one exception. A load that is interrupted by an overlong id leaves its drawing on the
canvas and the counters behind it. An id of that drawing whose number the counter has still ahead is
*stranded* (`Item.Stranded`): the counter will give it out again. `allocated_fresh_iff` says that
this is all: an id is fresh when it is given out **exactly if** it is not stranded.

The invariant (`below_or_stranded`) is about the whole past of a run: every numbered id that was
ever on the canvas has a number below the present value of the counter, or is stranded. It is kept
because the counter only goes forward and what is stranded stays so.
-/

namespace FlowCanvas

open Canvas (run Trace)
open Checks

namespace Item

variable {p : Palette} {c : Canvas} {a : Action} {actions : List Action}

/-! ### Counters -/

/-- Loading never takes a counter back. -/
theorem next_le_load (item : Item) (d : Drawing) (c : Canvas) :
    item.next c ≤ item.next (c.load d).canvas := by
  have hload := Canvas.load_cases d c
  generalize c.load d = o at hload
  cases hload with
  | refused deep => exact Int.le_refl _
  | stoppedAtBlock interrupts long => cases item <;> exact Int.le_refl _
  | stoppedAtWire interrupts readable => cases item <;> exact Int.le_max_left _ _
  | complete copyable readable => cases item <;> exact Int.le_max_left _ _

/-- **Counters never go back**, whatever is asked and whether it is refused or not. -/
theorem next_le_effect (item : Item) (p : Palette) (c : Canvas) (a : Action) :
    item.next c ≤ item.next (a.effect p c).canvas := by
  obtain ⟨d, -, heffect⟩ | ⟨-, htrace⟩ := a.effect_cases c a.within_anything
  · rw [heffect]
    exact next_le_load item d c
  · exact (htrace.counts item).forward

theorem next_nonneg (item : Item) (p : Palette) (actions : List Action) :
    0 ≤ item.next (run p actions) := by
  refine Canvas.run_induction (P := fun c ↦ 0 ≤ item.next c) (Q := fun _ ↦ True) ?_ ?_
    fun _ _ ↦ trivial
  · cases item <;> exact Int.le_refl _
  · intro c a hc _
    exact Int.le_trans hc (next_le_effect item p c a)

/-! ### Ids that were on the canvas -/

/-- Whether an id is stranded in a run: an interrupted load left it on the canvas, with the counter
not beyond its number. -/
def Stranded (item : Item) (p : Palette) (actions : List Action) (id : String) : Prop :=
  ∃ early a, early ++ [a] <+: actions ∧ a.Interrupted p ∧ id ∈ item.ids (run p (early ++ [a])) ∧
    ∃ n : Nat, id = numbered item.stem n ∧ item.next (run p (early ++ [a])) ≤ n

theorem Stranded.append {item : Item} {id : String} (h : item.Stranded p actions id)
    (later : List Action) : item.Stranded p (actions ++ later) id := by
  obtain ⟨early, a, hinit, h⟩ := h
  exact ⟨early, a, hinit.trans (List.prefix_append actions later), h⟩

/-- A drawing that is loaded to the end has all its numbers behind the counter. -/
theorem load_below (item : Item) (d : Drawing) (c : Canvas) :
    (c.load d).canvas = c ∨ d.Interrupts ∨
      ∀ n : Nat, numbered item.stem n ∈ item.ids (c.load d).canvas →
        (n : Int) < item.next (c.load d).canvas := by
  have hload := Canvas.load_cases d c
  generalize c.load d = o at hload
  cases hload with
  | refused deep => exact .inl rfl
  | stoppedAtBlock interrupts long => exact .inr (.inl interrupts)
  | stoppedAtWire interrupts readable => exact .inr (.inl interrupts)
  | complete copyable readable =>
    refine .inr (.inr fun n hn ↦ ?_)
    cases item with
    | block =>
      have hpast := IdSource.lt_past hn (idSuffix?_numbered _ n)
      exact Int.lt_of_lt_of_le hpast (Int.le_max_right _ _)
    | wire =>
      have hpast := IdSource.lt_past hn (idSuffix?_numbered _ n)
      exact Int.lt_of_lt_of_le hpast (Int.le_max_right _ _)

/-- Loading gives nothing out. -/
theorem allocated_load (item : Item) (d : Drawing) (c : Canvas) :
    item.allocated (c.load d).events = [] := by
  have hload := Canvas.load_cases d c
  generalize c.load d = o at hload
  cases hload <;> cases item <;> rfl

/-- An id given out by an action is numbered by the counter, from the old value up to the new. -/
theorem numbered_of_allocated (item : Item) {id : String} (hnonneg : 0 ≤ item.next c)
    (h : id ∈ item.allocated (a.effect p c).events) :
    ∃ n : Nat, id = numbered item.stem n ∧ item.next c ≤ n ∧
      (n : Int) < item.next (a.effect p c).canvas := by
  obtain ⟨d, -, heffect⟩ | ⟨-, htrace⟩ := a.effect_cases c a.within_anything
  · rw [heffect] at h
    exact absurd ((allocated_load item d c) ▸ h) List.not_mem_nil
  · obtain ⟨n, hid, hle, hlt⟩ := (htrace.counts item).counted id h
    have hn : 0 ≤ n := Int.le_trans hnonneg hle
    refine ⟨n.toNat, ?_, ?_, ?_⟩
    · rw [IdSource.numbered_toNat hn]
      exact hid
    · rwa [Int.toNat_of_nonneg hn]
    · rwa [Int.toNat_of_nonneg hn]

/-- **The past of a run**: a numbered id that was ever on the canvas is below the counter or
stranded. -/
theorem below_or_stranded (item : Item) (p : Palette) (actions : List Action) {early : List Action}
    (hearly : early <+: actions) {n : Nat} (hn : numbered item.stem n ∈ item.ids (run p early)) :
    (n : Int) < item.next (run p actions) ∨
      item.Stranded p actions (numbered item.stem n) := by
  -- Over the last action; the moment at which the id was there is any before it, or the very end.
  induction actions using List.reverseRecOn generalizing early with
  | nil =>
    rw [List.prefix_nil.1 hearly] at hn
    cases item <;> exact absurd hn List.not_mem_nil
  | append_singleton actions a ih =>
    have hpast : ∀ {early}, early <+: actions → numbered item.stem n ∈ item.ids (run p early) →
        (n : Int) < item.next (run p (actions ++ [a])) ∨
          item.Stranded p (actions ++ [a]) (numbered item.stem n) := by
      intro early hearly hn
      rcases ih hearly hn with hlt | hstranded
      · rw [Canvas.run_concat]
        exact .inl (Int.lt_of_lt_of_le hlt (next_le_effect item p _ a))
      · exact .inr (hstranded.append [a])
    rcases List.prefix_concat_iff.1 hearly with rfl | hearly
    · rw [Canvas.run_concat] at hn
      obtain ⟨d, hd, heffect⟩ | ⟨-, htrace⟩ := a.effect_cases (run p actions) a.within_anything
      · rw [heffect] at hn
        rcases load_below item d (run p actions) with hsame | hinterrupts | hbelow
        · exact hpast (List.prefix_refl actions) (hsame ▸ hn)
        · -- The load of the last action was interrupted: the counter is beyond the id or not.
          by_cases hlt : (n : Int) < item.next (run p (actions ++ [a]))
          · exact .inl hlt
          · refine .inr ⟨actions, a, List.prefix_refl _, ⟨d, hd, hinterrupts⟩, ?_, n, rfl, ?_⟩
            · rw [Canvas.run_concat, heffect]
              exact hn
            · omega
        · rw [Canvas.run_concat, heffect]
          exact .inl (hbelow n hn)
      · rcases (htrace.counts item).known _ hn with hold | hnew
        · exact hpast (List.prefix_refl actions) hold
        · obtain ⟨m, hm, -, hlt⟩ := numbered_of_allocated item (next_nonneg item p actions) hnew
          rw [Canvas.run_concat, numbered_injective _ hm]
          exact .inl hlt
    · exact hpast hearly hn

/-! ### Numbers below the counter -/

/-- Every numbered id on the canvas has a number below the counter. -/
def Below (item : Item) (c : Canvas) : Prop :=
  0 ≤ item.next c ∧ ∀ n : Nat, numbered item.stem n ∈ item.ids c → (n : Int) < item.next c

/-- The next id is new, where the numbers are below the counter. -/
theorem Below.next_not_mem {item : Item} (h : item.Below c) :
    item.stem ++ "_" ++ toString (item.next c) ∉ item.ids c := by
  intro hmem
  rw [← IdSource.numbered_toNat h.1] at hmem
  have hlt : ((item.next c).toNat : Int) < item.next c := h.2 _ hmem
  rw [Int.toNat_of_nonneg h.1] at hlt
  exact Int.lt_irrefl _ hlt

theorem Below.blockId_not_mem (h : block.Below c) : c.ids.blockId ∉ c.blocks.map Block.id :=
  Canvas.blockId_eq c ▸ h.next_not_mem

theorem Below.wireId_not_mem (h : wire.Below c) : c.ids.wireId ∉ c.wires.map Wire.id :=
  Canvas.wireId_eq c ▸ h.next_not_mem

/-! ### What is replied -/

theorem allocated_createBlock {n : NewBlock} {id : String}
    (h : (c.createBlock p n).result = .ok id) :
    id ∈ block.allocated (c.createBlock p n).events := by
  obtain ⟨t, properties, position, -, -, -, -, heq⟩ := Canvas.createBlock_eq_ok h
  rw [heq]
  exact List.mem_singleton_self id

theorem allocated_dropBlock {n : NewBlock} {id : String} (h : (c.dropBlock p n).result = .ok id) :
    id ∈ block.allocated (c.dropBlock p n).events := by
  obtain ⟨hmade, -, -, hevents⟩ := Canvas.dropBlock_eq_ok h
  rw [hevents, allocated_append]
  exact List.mem_append_left _ (allocated_createBlock hmade)

/-- An edit that makes a block replies with the id it gave out. -/
theorem allocated_apply {make : NewBlock → Edit} (makes : make = .create ∨ make = .drop)
    {n : NewBlock} {r : Reply} (h : (c.apply p (make n)).result = .ok r) :
    ∃ id, r = .id id ∧ id ∈ block.allocated (c.apply p (make n)).events := by
  rcases makes with rfl | rfl
  · obtain ⟨id, hid, rfl⟩ := map_eq_ok_iff.1 h
    exact ⟨id, rfl, allocated_createBlock hid⟩
  · obtain ⟨id, hid, rfl⟩ := map_eq_ok_iff.1 h
    exact ⟨id, rfl, allocated_dropBlock hid⟩

theorem allocated_carryOut {make : NewBlock → Edit} (makes : make = .create ∨ make = .drop)
    {n : BlockRequest} {reading : Reading} (hread : Instruction.readBlock p c make n = .ok reading)
    {r : Reply} (h : (c.carryOut p reading).result = .ok r) :
    ∃ id, r = .id id ∧ id ∈ block.allocated (c.carryOut p reading).events := by
  obtain ⟨t, entries, -, ⟨properties, -, rfl⟩ | ⟨others, -, rfl⟩⟩ :=
    Instruction.readBlock_eq_ok hread
  · exact allocated_apply makes h
  · obtain ⟨r', hr', hresult, hthen⟩ := Outcome.andThen_eq_ok h
    obtain ⟨id, rfl, hid⟩ := allocated_apply makes hr'
    refine ⟨id, ?_, ?_⟩
    · simpa [Outcome.ok] using hresult.symm
    · show id ∈ block.allocated (Outcome.andThen _ _).events
      rw [hthen]
      show id ∈ block.allocated (_ ++ _)
      rw [allocated_append]
      exact List.mem_append_left _ hid

/-- Joining two blocks replies with the id that was given out, or with that of the wire which joins
them already. -/
theorem allocated_createWire {source target : String} {data : Fields Value} {id : String}
    (h : (c.createWire source target data).result = .ok id) :
    id ∈ wire.allocated (c.createWire source target data).events ∨
      id ∈ wire.ids c ∧ (c.createWire source target data).events = [] := by
  obtain ⟨⟨w, hw, rfl, -⟩, heq⟩ | ⟨-, rfl, kind, mapping, heq⟩ := Canvas.createWire_eq_ok h
  · rw [heq]
    exact .inr ⟨List.mem_map_of_mem hw, rfl⟩
  · rw [heq]
    exact .inl (List.mem_singleton_self _)

end Item

/-- What an action is to make. -/
def Action.makes? : Action → Option Item
  | .follow (.create _) | .follow (.drop _) => some .block
  | .follow (.connect _ _ _) => some .wire
  | _ => none

/-- **An action that is to make something replies with an id**: one that it gave out, or that of the
wire that was asked for and is there already. -/
theorem Action.reply_allocated {p : Palette} {c : Canvas} {a : Action} {item : Item}
    (h : a.makes? = some item) {r : Reply} (hr : (a.effect p c).reply = some r) :
    ∃ id, r = .id id ∧ (id ∈ item.allocated (a.effect p c).events ∨
      item = .wire ∧ id ∈ item.ids c ∧ (a.effect p c).events = []) := by
  cases a with
  | openDocument source => simp [makes?] at h
  | follow i =>
    have hresult : (c.follow p i).result = .ok r := by
      rcases hi : (c.follow p i).result with fault | r'
      · simp [effect, Outcome.effect, hi, Except.toOption] at hr
      · simp only [effect, Outcome.effect, hi, Except.toOption, Option.some.injEq] at hr
        rw [hr]
    -- What was answered was answered by carrying out a reading.
    obtain ⟨reading, hread, hcarry⟩ := Outcome.given_eq_ok hresult
    have heq : c.follow p i = c.carryOut p reading := hcarry
    show ∃ id, r = .id id ∧ (id ∈ item.allocated (c.follow p i).events ∨
      item = .wire ∧ id ∈ item.ids c ∧ (c.follow p i).events = [])
    rw [heq] at hresult ⊢
    cases i with
    | create n =>
      obtain rfl : Item.block = item := by simpa [makes?] using h
      obtain ⟨id, rfl, hid⟩ := Item.allocated_carryOut (.inl rfl) hread hresult
      exact ⟨id, rfl, .inl hid⟩
    | drop n =>
      obtain rfl : Item.block = item := by simpa [makes?] using h
      simp only [Instruction.read, bind_eq_ok_iff] at hread
      obtain ⟨_, -, _, -, hread⟩ := hread
      obtain ⟨id, rfl, hid⟩ := Item.allocated_carryOut (.inr rfl) hread hresult
      exact ⟨id, rfl, .inl hid⟩
    | connect source target data =>
      obtain rfl : Item.wire = item := by simpa [makes?] using h
      obtain ⟨source', target', fields, rfl⟩ := Instruction.read_connect hread
      obtain ⟨id, hid, rfl⟩ := map_eq_ok_iff.1 hresult
      refine ⟨id, rfl, ?_⟩
      exact (Item.allocated_createWire hid).imp_right fun hold ↦ ⟨rfl, hold⟩
    | _ => simp [makes?] at h

/-! ### The main result -/

/-- Nothing is stranded in a run without interrupted loads. -/
theorem Item.not_stranded {item : Item} {p : Palette} {actions : List Action}
    (h : ∀ x ∈ actions, ¬ x.Interrupted p) (id : String) : ¬ item.Stranded p actions id := by
  rintro ⟨early, x, hinit, hx, -⟩
  exact h x (hinit.subset (List.mem_append_right early (List.mem_singleton_self x))) hx

/-- In a run without interrupted loads the numbers stay below the counter. -/
theorem Item.below_run {item : Item} {p : Palette} {actions : List Action}
    (h : ∀ x ∈ actions, ¬ x.Interrupted p) : item.Below (run p actions) := by
  refine ⟨Item.next_nonneg item p actions, fun n hn ↦ ?_⟩
  rcases Item.below_or_stranded item p actions (List.prefix_refl actions) hn with hlt | hstranded
  · exact hlt
  · exact absurd hstranded (Item.not_stranded h _)

/-- **Ids are fresh when they are given out, unless they are stranded.** For every run and whatever
is asked next, of blocks and of wires:

* the counter does not go back;
* an id that is given out was never on the canvas before exactly if no interrupted load left it
  stranded, so it was never there if no load was interrupted;
* whoever asks for a block or a wire is told the id that was given out, or that of the wire which
  joins the two blocks already. -/
theorem allocated_fresh_iff (p : Palette) (actions : List Action) (a : Action) (item : Item) :
    item.next (run p actions) ≤ item.next (run p (actions ++ [a])) ∧
      (∀ id ∈ item.allocated (a.effect p (run p actions)).events,
        ((∀ early, early <+: actions → id ∉ item.ids (run p early)) ↔
          ¬ item.Stranded p actions id) ∧
        ((∀ x ∈ actions, ¬ x.Interrupted p) →
          ∀ early, early <+: actions → id ∉ item.ids (run p early))) ∧
      (a.makes? = some item → ∀ r, (a.effect p (run p actions)).reply = some r →
        ∃ id, r = .id id ∧ (id ∈ item.allocated (a.effect p (run p actions)).events ∨
          item = .wire ∧ id ∈ item.ids (run p actions) ∧
            (a.effect p (run p actions)).events = [])) := by
  refine ⟨?_, fun id hid ↦ ?_, fun hmakes r hr ↦ Action.reply_allocated hmakes hr⟩
  · rw [Canvas.run_concat]
    exact Item.next_le_effect item p (run p actions) a
  · obtain ⟨n, rfl, hle, -⟩ := Item.numbered_of_allocated item (Item.next_nonneg item p actions) hid
    have hiff : (∀ early, early <+: actions → numbered item.stem n ∉ item.ids (run p early)) ↔
        ¬ item.Stranded p actions (numbered item.stem n) := by
      constructor
      · rintro hfresh ⟨early, x, hinit, -, hmem, -⟩
        exact hfresh _ hinit hmem
      · intro hstranded early hearly hmem
        -- The number given out is the counter's, or one after it.
        rcases Item.below_or_stranded item p actions hearly hmem with hlt | h
        · omega
        · exact hstranded h
    exact ⟨hiff, fun hcalm ↦ hiff.2 (Item.not_stranded hcalm _)⟩

/-- A block was made and deleted, a drawing loaded over it, and another block made: the next id is
none of theirs. -/
theorem allocated_fresh_after_load :
    let p := Palette.bundled
    let made : Action := .follow (.create { type := .text "debug" })
    let actions : List Action := [made, .follow (.delete (.text "node_0")),
      .follow (.load { blocks := [{ id := "node_7", type := "debug" }] }), made]
    "node_9" ∈ Item.block.allocated (made.effect p (run p actions)).events ∧
      ∀ early, early <+: actions → "node_9" ∉ Item.block.ids (run p early) := by
  intro p made actions
  have hgiven : "node_9" ∈ Item.block.allocated (made.effect p (run p actions)).events := by
    decide +kernel
  refine ⟨hgiven, ((allocated_fresh_iff p actions made .block).2.1 _ hgiven).2 ?_⟩
  intro x hx
  simp only [actions, List.mem_cons, List.not_mem_nil, or_false] at hx
  rcases hx with rfl | rfl | rfl | rfl
  · rintro ⟨d, ⟨⟩, -⟩
  · rintro ⟨d, ⟨⟩, -⟩
  · rintro ⟨d, ⟨⟩, hinterrupts⟩
    exact absurd hinterrupts (by decide +kernel)
  · rintro ⟨d, ⟨⟩, -⟩

/-- **A stranded id is given out again.** The load of a drawing is interrupted by an overlong id and
leaves `node_0` behind; the block that is made next takes the same id. -/
theorem stranded_id_allocated_again :
    let p := Palette.bundled
    let crowded : Drawing :=
      { blocks := [{ id := "node_0", type := "debug" }, { id := overlongId, type := "debug" }] }
    let actions : List Action := [.follow (.load crowded)]
    let made : Action := .follow (.create { type := .text "debug" })
    "node_0" ∈ Item.block.ids (run p actions) ∧
      (made.effect p (run p actions)).reply = some (.id "node_0") ∧
      "node_0" ∈ Item.block.allocated (made.effect p (run p actions)).events := by
  intro p crowded actions made
  have hne : overlongId ≠ "node_0" := by
    intro heq
    have hlong := isOverlongId_overlongId
    rw [heq] at hlong
    exact absurd hlong (by decide)
  have hrun : run p actions = { Canvas.empty with blocks := crowded.blocks } := by
    refine Canvas.run_overlong_block p ?_
      ⟨{ id := overlongId, type := "debug" }, ?_, isOverlongId_overlongId⟩ ?_ rfl
    · intro b hb
      simp only [crowded, List.mem_cons, List.not_mem_nil, or_false] at hb
      rcases hb with rfl | rfl <;> exact Block.isCopyable_of_bare _ _
    · exact List.mem_cons_of_mem _ (List.mem_singleton_self _)
    · simpa [crowded] using hne.symm
  rw [hrun]
  exact ⟨List.mem_cons_self, by decide +kernel, by decide +kernel⟩

end FlowCanvas
