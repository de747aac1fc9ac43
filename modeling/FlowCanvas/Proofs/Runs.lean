import FlowCanvas.Document.Convert
import FlowCanvas.Proofs.Operations
import Mathlib.Data.List.Induction

/-!
# Runs

A run is a list of actions, taken one after the other from the empty canvas. An `Action` is an
instruction in a caller's words, or the opening of a document: its drawing is loaded if the document
is accepted with the palette at hand. `Action.effect` is what an action does, whether it is refused
or not, and `Canvas.run` is the canvas that a run leads to.

**Loading is all that is not a trace.** `effect_cases` says so: an action loads a drawing, or what
it does is a trace. `load_cases` then lists the ways in which loading goes: it is refused at once,
it is carried out, or it is *interrupted* by an id with an overlong number, of a block or of a wire,
the new drawing being there already. Whether a drawing interrupts its loading depends on the drawing
alone (`Drawing.Interrupts`).

A property of canvases that holds of the empty one and that no action breaks holds after every run
(`run_induction`); most later modules only say what actions do.
-/

namespace FlowCanvas

/-- Something asked of a canvas. -/
inductive Action where
  | follow (instruction : Instruction)
  /-- Loads what a document draws. The document has been read; its shape may have been refused. -/
  | openDocument (source : Checked Document)

/-- What an action did: its reply, if it was not refused, the canvas afterwards, and the events
fired. -/
structure Effect where
  reply : Option Reply
  canvas : Canvas
  events : List Event

/-- Whether an action was refused. -/
def Effect.refused (e : Effect) : Bool := e.reply.isNone

/-- What an outcome did. -/
def Outcome.effect (o : Outcome Reply) : Effect := ⟨o.result.toOption, o.canvas, o.events⟩

namespace Action

/-- What an action does to a canvas. -/
def effect (p : Palette) (c : Canvas) : Action → Effect
  | follow i => (c.follow p i).effect
  | openDocument source =>
    match Document.open? (some p) source with
    | .error _ => ⟨none, c, []⟩
    | .ok d => (c.apply p (.load d)).effect

/-- The drawing that an action sets out to load. -/
def drawing? (p : Palette) : Action → Option Drawing
  | follow (.load d) => some d
  | follow _ => none
  | openDocument source => (Document.open? (some p) source).toOption

/-- Whether what an action loads, if it loads anything, comes from a document. -/
def Checked : Action → Prop
  | follow (.load _) => False
  | _ => True

/-- What is asked with an action is within a supply. -/
def Within (s : Supply) : Action → Prop
  | follow i => i.Within s
  | openDocument _ => True

end Action

namespace Canvas

/-- The canvas that a run leads to. -/
def run (p : Palette) (actions : List Action) : Canvas :=
  actions.foldl (fun c a ↦ (a.effect p c).canvas) empty

@[simp]
theorem run_nil (p : Palette) : run p [] = empty :=
  rfl

@[simp]
theorem run_concat (p : Palette) (actions : List Action) (a : Action) :
    run p (actions ++ [a]) = (a.effect p (run p actions)).canvas := by
  simp [run]

/-- **What no action breaks holds after every run.** `Q` is what is known of the actions. -/
theorem run_induction {p : Palette} {P : Canvas → Prop} {Q : Action → Prop} (hempty : P empty)
    (hstep : ∀ {c a}, P c → Q a → P (a.effect p c).canvas) {actions : List Action}
    (h : ∀ a ∈ actions, Q a) : P (run p actions) := by
  induction actions using List.reverseRecOn with
  | nil => exact hempty
  | append_singleton early a ih =>
    rw [run_concat]
    refine hstep (ih fun a ha ↦ h a (List.mem_append_left _ ha)) (h a ?_)
    exact List.mem_append_right _ (List.mem_singleton_self a)

/-- What holds of the empty past holds all along a run exactly if no action of the run breaks it.
`Q` is what is known of the actions. -/
theorem along_iff {α : Type} {P : List α → Prop} {Q : α → Prop} {B : List α → α → Prop}
    (hnil : P []) (hstep : ∀ {early a}, (∀ x ∈ early, Q x) → Q a → P early →
      (P (early ++ [a]) ↔ ¬ B early a))
    {actions : List α} (h : ∀ a ∈ actions, Q a) :
    (∀ early, early <+: actions → P early) ↔
      ∀ early a, early ++ [a] <+: actions → ¬ B early a := by
  have hknown : ∀ {early a}, early ++ [a] <+: actions → (∀ x ∈ early, Q x) ∧ Q a := by
    intro early a hearly
    exact ⟨fun x hx ↦ h x (hearly.subset (List.mem_append_left _ hx)),
      h a (hearly.subset (List.mem_append_right _ (List.mem_singleton_self a)))⟩
  constructor
  · intro hall early a hearly
    obtain ⟨hbefore, ha⟩ := hknown hearly
    rw [← hstep hbefore ha (hall early ((List.prefix_append _ _).trans hearly))]
    exact hall _ hearly
  · intro hbreaks early hearly
    -- From one prefix to the next.
    induction early using List.reverseRecOn with
    | nil => exact hnil
    | append_singleton early a ih =>
      obtain ⟨hbefore, ha⟩ := hknown hearly
      rw [hstep hbefore ha (ih ((List.prefix_append _ _).trans hearly))]
      exact hbreaks early a hearly

/-- What holds of the empty canvas holds all along a run exactly if no action of the run breaks
it. -/
theorem run_along_iff {p : Palette} {P : Canvas → Prop} {Q : Action → Prop}
    {B : Canvas → Action → Prop} (hempty : P empty)
    (hstep : ∀ {early a}, (∀ x ∈ early, Q x) → Q a → P (run p early) →
      (P (a.effect p (run p early)).canvas ↔ ¬ B (run p early) a))
    {actions : List Action} (h : ∀ a ∈ actions, Q a) :
    (∀ early, early <+: actions → P (run p early)) ↔
      ∀ early a, early ++ [a] <+: actions → ¬ B (run p early) a := by
  refine along_iff (P := fun early ↦ P (run p early)) (B := fun early a ↦ B (run p early) a) hempty
    ?_ h
  intro early a hbefore ha hearly
  rw [run_concat]
  exact hstep hbefore ha hearly

end Canvas

/-! ### Loading -/

/-- Whether an id with an overlong number interrupts the loading of a drawing, which is found fit to
be copied before. -/
def Drawing.Interrupts (d : Drawing) : Prop :=
  (∀ b ∈ d.blocks, b.isCopyable = true) ∧
    ((∃ b ∈ d.blocks, isOverlongId b.id = true) ∨ ∃ w ∈ d.wires, isOverlongId w.id = true)

instance (d : Drawing) : Decidable d.Interrupts :=
  inferInstanceAs (Decidable (_ ∧ (_ ∨ _)))

/-- Whether an action sets out to load a drawing and is interrupted. -/
def Action.Interrupted (p : Palette) (a : Action) : Prop :=
  ∃ d, a.drawing? p = some d ∧ d.Interrupts

namespace Canvas

variable {p : Palette} {c : Canvas}

/-- The canvas with a drawing laid on it, before anything else is seen to. -/
def laid (d : Drawing) (c : Canvas) : Canvas :=
  { c with
    blocks := keyedBy Block.id d.blocks
    wires := keyedBy Wire.id d.wires
    created := d.created }

theorem selection_laid (d : Drawing) (c : Canvas) : (c.laid d).selection = c.selection :=
  rfl

/-- **The ways in which loading a drawing goes.** -/
inductive Loading (d : Drawing) (c : Canvas) : Outcome Unit → Prop
  | refused (deep : ∃ b ∈ d.blocks, b.isCopyable = false) : Loading d c (.fail c .tooDeep)
  | stoppedAtBlock (interrupts : d.Interrupts) (long : ∃ b ∈ d.blocks, isOverlongId b.id = true) :
      Loading d c (.fail (c.laid d) .overlongId)
  | stoppedAtWire (interrupts : d.Interrupts)
      (readable : ∀ b ∈ d.blocks, isOverlongId b.id = false) :
      Loading d c (.fail
        { c.laid d with ids := c.ids.reseed ((c.laid d).blocks.map Block.id) [] } .overlongId)
  | complete (copyable : ∀ b ∈ d.blocks, b.isCopyable = true) (readable : ¬ d.Interrupts) :
      Loading d c ⟨.ok (),
        { c.laid d with
          selection := .nothing
          ids := c.ids.reseed ((c.laid d).blocks.map Block.id) ((c.laid d).wires.map Wire.id) },
        [.loaded (c.laid d).blocks.length (c.laid d).wires.length]⟩

/-- Some item of a list has an overlong id exactly if some item does after settling the keys. -/
theorem any_overlong_keyedBy {α : Type} (key : α → String) (xs : List α) :
    (keyedBy key xs).any (fun x ↦ isOverlongId (key x)) = true ↔
      ∃ x ∈ xs, isOverlongId (key x) = true := by
  have hmap : ∀ ys : List α, ys.any (fun x ↦ isOverlongId (key x)) = true ↔
      ∃ k ∈ ys.map key, isOverlongId k = true := by simp
  rw [hmap]
  constructor
  · rintro ⟨k, hk, hlong⟩
    obtain ⟨x, hx, rfl⟩ := List.mem_map.1 ((mem_map_keyedBy key).1 hk)
    exact ⟨x, hx, hlong⟩
  · rintro ⟨x, hx, hlong⟩
    exact ⟨key x, (mem_map_keyedBy key).2 (List.mem_map_of_mem hx), hlong⟩

theorem load_cases (d : Drawing) (c : Canvas) : Loading d c (c.load d) := by
  unfold load
  by_cases hcopy : d.blocks.all Block.isCopyable = true
  · have hcopy' : ∀ b ∈ d.blocks, b.isCopyable = true := List.all_eq_true.1 hcopy
    simp only [hcopy, Bool.not_true, Bool.false_eq_true, if_false]
    split
    · next hblocks =>
      have hlong := (any_overlong_keyedBy Block.id _).1 hblocks
      exact .stoppedAtBlock ⟨hcopy', .inl hlong⟩ hlong
    · next hblocks =>
      split
      · next hwires =>
        have hlong := (any_overlong_keyedBy Wire.id _).1 hwires
        refine .stoppedAtWire ⟨hcopy', .inr hlong⟩ fun b hb ↦ ?_
        rw [Bool.eq_false_iff]
        exact fun hlong ↦ hblocks ((any_overlong_keyedBy Block.id _).2 ⟨b, hb, hlong⟩)
      · next hwires =>
        refine .complete hcopy' ?_
        rintro ⟨-, hlong | hlong⟩
        · exact hblocks ((any_overlong_keyedBy Block.id _).2 hlong)
        · exact hwires ((any_overlong_keyedBy Wire.id _).2 hlong)
  · rw [if_pos (by simpa using hcopy)]
    exact .refused (by simpa using hcopy)

/-- A block with an overlong id stops the loading as soon as the drawing is laid. -/
theorem load_eq_of_overlong_block {d : Drawing} {c : Canvas}
    (hcopy : ∀ b ∈ d.blocks, b.isCopyable = true)
    (hlong : ∃ b ∈ d.blocks, isOverlongId b.id = true) :
    c.load d = .fail (c.laid d) .overlongId := by
  have hload := load_cases d c
  generalize c.load d = o at hload ⊢
  cases hload with
  | refused deep =>
    obtain ⟨b, hb, hdeep⟩ := deep
    exact absurd (hcopy b hb) (by simp [hdeep])
  | stoppedAtBlock interrupts long => rfl
  | stoppedAtWire interrupts readable =>
    obtain ⟨b, hb, hb'⟩ := hlong
    exact absurd hb' (by simp [readable b hb])
  | complete copyable readable => exact absurd ⟨copyable, .inl hlong⟩ readable

end Canvas

/-! ### What actions do -/

namespace Action

variable {p : Palette} {s : Supply} {c : Canvas} {a : Action}

/-- An action that sets out to load a drawing does what loading does. -/
theorem effect_of_drawing? {d : Drawing} (h : a.drawing? p = some d) :
    a.effect p c = ((c.load d).map fun _ ↦ Reply.done).effect := by
  cases a with
  | follow i =>
    cases i with
    | load d' =>
      obtain rfl : d' = d := by simpa [drawing?] using h
      rfl
    | _ => simp [drawing?] at h
  | openDocument source =>
    rcases hopen : Document.open? (some p) source with fault | d'
    · simp [drawing?, hopen, Except.toOption] at h
    · obtain rfl : d' = d := by simpa [drawing?, hopen, Except.toOption] using h
      simp only [effect, hopen]
      rfl

/-- **What an action does that loads nothing is a trace.** -/
theorem effect_traced (hs : a.Within s) (h : a.drawing? p = none) :
    Canvas.Trace (Canvas.Step p s) c (a.effect p c).events (a.effect p c).canvas := by
  cases a with
  | follow i =>
    refine Canvas.follow_traced hs ?_
    rintro d rfl
    simp [drawing?] at h
  | openDocument source =>
    rcases hopen : Document.open? (some p) source with fault | d
    · simp only [effect, hopen]
      exact .nil c
    · simp [drawing?, hopen, Except.toOption] at h

/-- An action loads a drawing, or what it does is a trace. -/
theorem effect_cases (c : Canvas) (hs : a.Within s) :
    (∃ d, a.drawing? p = some d ∧ a.effect p c = ((c.load d).map fun _ ↦ Reply.done).effect) ∨
      a.drawing? p = none ∧
        Canvas.Trace (Canvas.Step p s) c (a.effect p c).events (a.effect p c).canvas := by
  rcases hd : a.drawing? p with - | d
  · exact .inr ⟨rfl, effect_traced hs hd⟩
  · exact .inl ⟨d, rfl, effect_of_drawing? hd⟩

/-- Anything is within the supply of anything. -/
theorem within_anything (a : Action) : a.Within .anything := by
  cases a with
  | openDocument source => exact trivial
  | follow i =>
    cases i with
    | create n => exact ⟨trivial, fun _ _ _ _ ↦ trivial, trivial⟩
    | drop n => exact ⟨trivial, fun _ _ _ _ ↦ trivial, trivial⟩
    | update id patch => exact fun _ _ _ _ ↦ trivial
    | reparent id parent position => exact .inr trivial
    | _ => exact trivial

end Action

/-- A block without properties can be copied. -/
theorem Block.isCopyable_of_bare (id type : String) :
    ({ id := id, type := type } : Block).isCopyable = true :=
  rfl

/-- What the first load of a run leaves that an overlong block id interrupts. -/
theorem Canvas.run_stopped {p : Palette} {a : Action} {d : Drawing} (ha : a.drawing? p = some d)
    (hcopy : ∀ b ∈ d.blocks, b.isCopyable = true)
    (hlong : ∃ b ∈ d.blocks, isOverlongId b.id = true) (hids : (d.blocks.map Block.id).Nodup)
    (hwires : (d.wires.map Wire.id).Nodup) :
    run p [a] = { empty with blocks := d.blocks, wires := d.wires, created := d.created } := by
  have hrun := run_concat p [] a
  rw [Action.effect_of_drawing? ha, load_eq_of_overlong_block hcopy hlong] at hrun
  refine hrun.trans ?_
  show laid d empty = _
  rw [laid, keyedBy_of_nodup Block.id hids, keyedBy_of_nodup Wire.id hwires]

theorem Canvas.run_overlong_block (p : Palette) {d : Drawing}
    (hcopy : ∀ b ∈ d.blocks, b.isCopyable = true)
    (hlong : ∃ b ∈ d.blocks, isOverlongId b.id = true) (hids : (d.blocks.map Block.id).Nodup)
    (hwires : d.wires = []) :
    run p [.follow (.load d)] = { empty with blocks := d.blocks, created := d.created } := by
  have hload : (Action.follow (.load d)).drawing? p = some d := rfl
  rw [run_stopped hload hcopy hlong hids (by simp [hwires]), hwires]
  rfl

/-! ### A document of one block -/

/-- A drawing of one block. -/
def Drawing.lone (id : String) : Drawing where
  blocks := [{ id := id, type := "debug" }]
  wires := []
  name := some "flow"
  created := some "then"

/-- The document of one block. -/
def Document.lone (id : String) : Document where
  version := currentVersion
  metadata := ⟨"flow", "then", "now"⟩
  blocks := [⟨id, some "debug", .origin, [], none⟩]
  wires := []

theorem Canvas.blockIds_laid_lone (c : Canvas) (id : String) :
    (c.laid (.lone id)).blocks.map Block.id = [id] :=
  rfl

/-- **A document whose only block has an overlong id is refused and its drawing laid all the
same.** -/
theorem Action.effect_lone {id : String} (hlong : isOverlongId id = true) (c : Canvas) :
    (openDocument (.ok (.lone id))).effect .bundled c = ⟨none, c.laid (.lone id), []⟩ := by
  have hdrawing : (openDocument (.ok (.lone id))).drawing? .bundled = some (.lone id) := rfl
  have hload : c.load (.lone id) = .fail (c.laid (.lone id)) .overlongId := by
    refine Canvas.load_eq_of_overlong_block (fun b hb ↦ ?_) ⟨_, List.mem_singleton_self _, hlong⟩
    rw [List.mem_singleton.1 hb]
    exact Block.isCopyable_of_bare id "debug"
  rw [effect_of_drawing? hdrawing, hload]
  rfl

end FlowCanvas
