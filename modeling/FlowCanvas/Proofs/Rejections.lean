import FlowCanvas.Proofs.Boxes
import FlowCanvas.Session.Api

/-!
# Rejected requests

A request is *rejected* if the answer has a status from 400 to 499: there is no such route, the body
will not do, or the canvas refuses what is asked. **A rejected request leaves no trace**, except for
a line in the log: the canvas with its counters and its creation stamp and the name of the flow are
what they were, and no event is pushed (`Api.rejected_leaves_no_trace`).

This is more than the canvas promises by itself, where a refusal may use up a number. Two things
come together.

* **A mistake of the caller is noticed before anything is written** (`Canvas.apply_spares`). What is
  noticed later is a fault in the form of a value, which is answered with status 500. Moving and
  dropping write before they are done; after that only an oversized container can stop them.
* **What was done can be shown.** The answer to a request that came through shows the block it was
  about, and its place on the canvas can be found (`Api.showBlock_not_rejects`).

Both need a canvas that can be measured, and every request leaves one (`Api.handle_clean`).
-/

namespace FlowCanvas

open Checks

/-- A fault that is a mistake of the caller, and not one in the form of a value. -/
def Fault.IsMistake (fault : Fault) : Prop := fault.family ≠ .form

/-- What only an oversized container can stop is refused for no mistake. -/
theorem Clear.spares {α : Type} {p : Palette} {blocks : List Block} {o : Outcome α}
    (h : Clear p blocks o.result) (c : Canvas) : o.Spares Fault.IsMistake c := by
  rcases h with ⟨a, ha⟩ | ⟨k, -, -, -, hover⟩
  · exact .of_ok ha
  · intro fault hmistake hfault
    obtain rfl : Fault.oversized k.id = fault := Except.error.inj (hover.symm.trans hfault)
    exact absurd rfl hmistake

/-! ### Mistakes are noticed first -/

namespace Canvas

variable {p : Palette} {c : Canvas} {id : String}

/-- Making a block looks for every mistake before it uses a number up. -/
theorem createBlock_spares {n : NewBlock} : (c.createBlock p n).Spares Fault.IsMistake c := by
  refine .given fun t _ ↦ .given fun _ _ ↦ .given fun properties _ ↦ ?_
  split
  · exact .fail _
  · split
    · -- The number of the block is used up by now, but a bad place is no mistake.
      intro fault hmistake hfault
      obtain rfl := Except.error.inj hfault
      exact absurd rfl hmistake
    · exact .of_ok rfl

/-- Where everything can be measured, only an oversized container can stop a block that has been
moved by then. -/
theorem moveBlock_spares (hp : p.Tidy) (hsized : p.Sized) (hc : Measured p c) {position : Value}
    (hposition : position.Floating) : (c.moveBlock p id position).Spares Fault.IsMistake c := by
  rcases hblock : c.block id with fault | b
  · rw [moveBlock, hblock]
    exact .fail fault
  · rcases hplace : Point.ofValue position with why | place
    · rw [moveBlock, hblock, hplace]
      exact .fail _
    · have hb : c.block? id = some b := block_eq_ok_iff.1 hblock
      exact (moveBlock_clear hp hsized hc hb hposition hplace).spares c

/-- Where everything can be measured, only an oversized container can stop a block that has been
made by then. -/
theorem dropBlock_spares (hp : p.Tidy) (hsized : p.Sized) (hc : Measured p c) {n : NewBlock}
    (hn : n.Within .floating) : (c.dropBlock p n).Spares Fault.IsMistake c := by
  rcases hmake : (c.createBlock p n).result with fault | id
  · unfold dropBlock
    split
    · exact .fail _
    · refine .given fun _ _ ↦ ?_
      -- The block is not made, and that is all.
      refine .andThen createBlock_spares fun id hid ↦ ?_
      exact absurd (hmake.symm.trans hid) (by simp)
  · exact (dropBlock_clear hp hsized hc hn ⟨id, hmake⟩).spares c

/-- **A mistake of the caller is noticed before anything is written.** -/
theorem apply_spares (hp : p.Tidy) (hsized : p.Sized) (hc : Measured p c) {edit : Edit}
    (h : edit.Within .floating) (hload : ∀ d, edit ≠ .load d) :
    (c.apply p edit).Spares Fault.IsMistake c := by
  cases edit with
  | create n => exact .map _ createBlock_spares
  | drop n => exact .map _ (dropBlock_spares hp hsized hc h)
  | delete id => exact .map _ (deleteBlock_spares hc.hung hc.placed)
  | update id patch => exact .map _ updateBlock_spares
  | move id position => exact .map _ (moveBlock_spares hp hsized hc h)
  | reparent id parent position => exact .map _ reparent_spares
  | resolve id => exact .map _ resolve_spares
  | connect source target data => exact .map _ createWire_spares
  | disconnect id => exact .map _ deleteWire_spares
  | rewire id patch => exact .map _ updateWire_spares
  | select selection => exact .map _ select_spares
  | bindCall id name => exact .map _ bindCall_spares
  | load d => exact absurd rfl (hload d)

/-! ### What can be measured stays so -/

/-- **Edits with floats for places keep a canvas measured.** -/
theorem apply_measured (hp : p.Tidy) (hc : Measured p c) {edit : Edit} (h : edit.Within .floating)
    (hload : ∀ d, edit ≠ .load d) : Measured p (c.apply p edit).canvas := by
  have hmakes : ∀ {make : NewBlock → Edit} {n : NewBlock}, make = .create ∨ make = .drop →
      n.Within .floating → Measured p (c.apply p (make n)).canvas :=
    fun makes hn ↦ (apply_makes makes hn).1.traced.measured hp hc
  by_cases hmake : ∀ n, edit ≠ .create n ∧ edit ≠ .drop n
  · have hchanged : (c.apply p edit).Changed p .floating c := apply_changed h hload hmake
    exact Trace.measured hp (hchanged.traced.mono .change) hc
  · cases edit with
    | create n => exact hmakes (.inl rfl) h
    | drop n => exact hmakes (.inr rfl) h
    | _ => exact absurd (fun n ↦ ⟨by simp, by simp⟩) hmake

/-- A document that is opened leaves a canvas that can be measured, however that goes. -/
theorem load_measured (hp : p.Tidy) (hc : Measured p c) {v : Value} {d : Drawing}
    (hd : Drawing.ofValue (some p) v = .ok d) : Measured p (c.load d).canvas := by
  let opening : Action := .openDocument (Document.ofInput v)
  have hopening : opening.FromOutside := ⟨v, rfl⟩
  have hdrawing : opening.drawing? p = some d := toOption_eq_some_iff.2 hd
  obtain ⟨hconsistent, hnested⟩ := rules_of_drawing? hopening.checked hdrawing
  rcases load_blocks (c := c) hconsistent with ⟨hblocks, hwires⟩ | ⟨hcopy, hblocks, hwires⟩
  · exact hc.congr hblocks hwires
  · have hdrawn : Measured p { c with blocks := d.blocks, wires := d.wires } :=
      ⟨hconsistent, hnested.hung hconsistent.blockIds, placed_of_drawing? hopening hdrawing,
        brings_fitting hp hopening.checked d hdrawing hcopy⟩
    exact hdrawn.congr hblocks hwires

/-- Loading is refused for no mistake of the caller. -/
theorem load_not_isMistake {d : Drawing} {fault : Fault} (h : (c.load d).result = .error fault) :
    ¬ fault.IsMistake := by
  have hload := load_cases d c
  generalize c.load d = o at h hload
  cases hload with
  | complete => exact absurd h (by simp)
  | _ =>
    obtain rfl := Except.error.inj h
    exact fun hmistake ↦ hmistake rfl

end Canvas

/-! ### Sessions -/

namespace Session

variable {s s' : Session} {p : Palette}

/-- The canvas of a session can be measured. -/
structure Measured (p : Palette) (s : Session) : Prop where
  palette : s.palette = p
  canvas : Canvas.Measured p s.canvas

/-- **The flow that is open is the same**: only what the editor shows beside it may differ. -/
structure SameFlow (s s' : Session) : Prop where
  palette : s'.palette = s.palette
  canvas : s'.canvas = s.canvas
  flowName : s'.flowName = s.flowName

/-- Whether a session is measured depends on its flow only. -/
theorem Measured.of_sameFlow (hs : s.Measured p) (h : s.SameFlow s') : s'.Measured p :=
  ⟨h.palette.trans hs.palette, h.canvas ▸ hs.canvas⟩

namespace SameFlow

theorem refl (s : Session) : s.SameFlow s :=
  ⟨rfl, rfl, rfl⟩

theorem log (h : s.SameFlow s') (line : String) : s.SameFlow (s'.log line) :=
  ⟨h.palette, h.canvas, h.flowName⟩

theorem print (h : s.SameFlow s') (text : String) : s.SameFlow (s'.print text) :=
  ⟨h.palette, h.canvas, h.flowName⟩

theorem sent (h : s.SameFlow s') (sent : List Service.Request) :
    s.SameFlow { s' with sent := sent } :=
  ⟨h.palette, h.canvas, h.flowName⟩

theorem clearTerminal (h : s.SameFlow s') : s.SameFlow s'.clearTerminal :=
  ⟨h.palette, h.canvas, h.flowName⟩

theorem compile (h : s.SameFlow s') (service : Service) : s.SameFlow (s'.compile service).2 := by
  unfold Session.compile
  split
  · exact h
  · exact h.sent _

theorem giveUp (h : s.SameFlow s') (fault : ServiceFault) : s.SameFlow (s'.giveUp fault) :=
  ((h.log _).print _).print _

theorem report (h : s.SameFlow s') (e : Service.Execution) : s.SameFlow (s'.report e) := by
  have hshown : ∀ {s' : Session} (text : String), s.SameFlow s' →
      s.SameFlow (if text = "" then s' else s'.print text) := by
    intro s' text h
    split
    · exact h
    · exact h.print text
  unfold Session.report
  dsimp only
  split
  · exact (hshown _ (hshown _ (h.log _))).log _
  · exact hshown _ (h.log _)

end SameFlow

/-- Generating code leaves the flow alone. -/
theorem sameFlow_generate (service : Service) (s : Session) :
    s.SameFlow (s.generate service).session ∧ (s.generate service).events = [] := by
  have hafter := ((SameFlow.refl s).log "Generating Rust code...").compile service
  unfold generate
  generalize (s.log "Generating Rust code...").compile service = compiled at hafter
  obtain ⟨result, after⟩ := compiled
  dsimp only
  split
  · exact ⟨hafter.log _, rfl⟩
  · split
    · exact ⟨(hafter.log _).print _, rfl⟩
    · exact ⟨hafter, rfl⟩

/-- Running the flow leaves it alone. -/
theorem sameFlow_run (service : Service) (s : Session) :
    s.SameFlow (s.run service).session ∧ (s.run service).events = [] := by
  have hafter :=
    ((SameFlow.refl s).log "Generating and running code...").clearTerminal.compile service
  unfold run
  generalize (s.log "Generating and running code...").clearTerminal.compile service = compiled
    at hafter
  obtain ⟨result, after⟩ := compiled
  dsimp only
  split
  · split
    · exact ⟨hafter.giveUp _, rfl⟩
    · exact ⟨hafter, rfl⟩
  · -- The code is generated; what is left is to have it executed.
    split
    · split
      · exact ⟨(((hafter.log _).print _).sent _).giveUp _, rfl⟩
      · exact ⟨((hafter.log _).print _).sent _, rfl⟩
    · exact ⟨((((hafter.log _).print _).sent _).report _).print _, rfl⟩

/-- Deleting a block that is protected is only noted in the log. -/
theorem Measured.delete (hp : p.Tidy) (hs : s.Measured p) (id : String) :
    (s.delete id).session.Measured p ∧ ((s.delete id).result = .ok false →
      s.SameFlow (s.delete id).session ∧ (s.delete id).events = []) := by
  have hafter : Canvas.Measured p (s.canvas.deleteBlock s.palette id).canvas := by
    have hedit : Edit.Within .floating (.delete id) := trivial
    rw [hs.palette]
    exact Canvas.apply_measured hp hs.canvas hedit (by simp)
  unfold Session.delete
  dsimp only
  split
  · next fault hfault =>
    split
    · have hsame := (SameFlow.refl s).log s!"Cannot delete: {fault.message}"
      exact ⟨hs.of_sameFlow hsame, fun _ ↦ ⟨hsame, rfl⟩⟩
    · refine ⟨⟨hs.palette, hafter⟩, fun h ↦ absurd h ?_⟩
      simp [Turn.map, accept, hfault, Except.map, Except.mapError]
  · next hok =>
    refine ⟨⟨hs.palette, hafter⟩, fun h ↦ absurd h ?_⟩
    simp [Turn.map, accept, hok, Except.map, Except.mapError]

/-- Saving keeps a stamp, and can only fail in writing. -/
theorem Measured.save (hs : s.Measured p) (clock : Clock) :
    (s.save clock).session.Measured p ∧
      ∀ fault, (s.save clock).result = .error fault → ∃ f, fault = .writing f := by
  unfold Session.save
  dsimp only
  split
  · exact ⟨hs, fun fault h ↦ ⟨_, (Except.error.inj h).symm⟩⟩
  · refine ⟨⟨hs.palette, hs.canvas.congr rfl rfl⟩, fun fault h ↦ ?_⟩
    obtain ⟨f, -, rfl⟩ := mapError_eq_error_iff.1 h
    exact ⟨f, rfl⟩

end Session

namespace Api

variable {s : Session} {p : Palette}

/-! ### Responses that reject -/

/-- **The response rejects the request.** -/
def Response.Rejects (r : Response) : Prop := 400 ≤ r.status ∧ r.status < 500

instance (r : Response) : Decidable r.Rejects :=
  inferInstanceAs (Decidable (400 ≤ r.status ∧ r.status < 500))

theorem crash_not_rejects : ¬ crash.Rejects := by
  decide

theorem done_not_rejects : ¬ (⟨204, .empty⟩ : Response).Rejects := by
  decide

theorem json_not_rejects {status : Nat} (hstatus : status < 400) (v : Value) :
    ¬ (json status v).Rejects := by
  have hcases : json status v = ⟨status, .json v.portable⟩ ∨ json status v = crash :=
    ite_eq_or_eq _ _ _
  rcases hcases with hjson | hcrash
  · rw [hjson]
    exact fun h ↦ absurd h.1 (Nat.not_le.2 hstatus)
  · rw [hcrash]
    exact crash_not_rejects

/-- **What an edit is rejected for** is a mistake. -/
theorem isMistake_of_rejects {fault : Fault} (h : (refusal (.edit fault)).Rejects) :
    fault.IsMistake := by
  intro hform
  have hcrash : refusal (.edit fault) = crash := by simp [refusal, statusOf, hform]
  exact crash_not_rejects (hcrash ▸ h)

/-- **A block that is there can be shown.** -/
theorem showBlock_not_rejects {status : Nat} (hstatus : status < 400) (id : String)
    (hs : s.Measured p) : ¬ (showBlock status id s).Rejects := by
  unfold showBlock
  split
  · exact crash_not_rejects
  · next b hb =>
    obtain ⟨spot, hspot, -⟩ := Canvas.absolute_isOk hs.canvas.hung hs.canvas.placed hb
    have hid : b.id = id := (Canvas.mem_of_block? hb).2
    rw [blockView, hid, hspot]
    exact json_not_rejects hstatus _

/-- A wire that cannot be shown is a crash, not a rejection. -/
theorem showWire_not_rejects {status : Nat} (hstatus : status < 400) (id : String) (s : Session) :
    ¬ (showWire status id s).Rejects := by
  unfold showWire
  split
  · exact json_not_rejects hstatus _
  · exact crash_not_rejects

/-- Nor is a flow that cannot be shown. -/
theorem showFlow_not_rejects (s : Session) : ¬ (showFlow s).Rejects := by
  unfold showFlow
  split
  · exact json_not_rejects (by decide) _
  · exact crash_not_rejects

/-! ### Places in bodies -/

theorem readBody_eq_ok {α : Type} {body : String} {check : Value → Checked α} {a : α}
    (h : readBody body check = .ok a) : ∃ v, check v = .ok a := by
  unfold readBody at h
  split at h
  · exact absurd h (by simp)
  · split at h
    · exact absurd h (by simp)
    · split at h <;> exact absurd h (by simp)
    · next v _ =>
      rcases hcheck : check v with complaints | a'
      · exact absurd h (by simp [hcheck, Except.mapError])
      · obtain rfl : a' = a := by simpa [hcheck, Except.mapError] using h
        exact ⟨v, hcheck⟩

/-- What a body gives for a place is a point of floats. -/
theorem floating_pointValue {v : Value} {q : Point} (h : positionOf v = .ok q) :
    (pointValue q).Floating := by
  intro r hr
  obtain ⟨x, y, rfl⟩ := Document.pointOf_eq_ok h
  exact ⟨x, y, (Except.ok.inj hr).symm⟩

theorem floating_pointValue? {fs : Fields Value} {position : Option Point}
    (h : Checked.optional fs "position" positionOf = .ok position) :
    (pointValue? position).Floating := by
  rcases position with - | q
  · exact Value.floating_of_ne_point (by simp [pointValue?])
  · obtain ⟨v, hv⟩ := Checked.optional_eq_ok h
    exact floating_pointValue hv

/-- The place in the body of a request for a block is made of floats. -/
theorem floating_of_newBlockOf {v : Value} {type : String} {position : Option Point}
    {data : Fields Value} {label : Value} (h : newBlockOf v = .ok (type, position, data, label)) :
    (pointValue? position).Floating := by
  obtain ⟨fs, -, h⟩ := bind_eq_ok_iff.1 h
  obtain ⟨⟨type', position', data', label'⟩, hpair, heq⟩ := map_eq_ok_iff.1 h
  obtain ⟨-, rfl, -⟩ : type' = type ∧ position' = position ∧ _ := by simpa using heq
  obtain ⟨-, hpair⟩ := Checked.pair_eq_ok_iff.1 hpair
  exact floating_pointValue? (Checked.pair_eq_ok_iff.1 hpair).1

/-- The place in the body of a request for a parent is made of floats. -/
theorem floating_of_parentOf {v : Value} {parent : Option String} {position : Option Point}
    (h : parentOf v = .ok (parent, position)) : (pointValue? position).Floating := by
  obtain ⟨fs, -, h⟩ := bind_eq_ok_iff.1 h
  exact floating_pointValue? (Checked.pair_eq_ok_iff.1 h).2

/-! ### Requests -/

/-- **What a request may do**: it leaves a canvas that can be measured, and if it is rejected, it
leaves the flow as it was and pushes nothing. -/
structure Handled.Clean (p : Palette) (s : Session) (h : Handled) : Prop where
  measured : h.session.Measured p
  traceless : h.response.Rejects → s.SameFlow h.session ∧ h.events = []

namespace Handled.Clean

/-- A request that leaves the flow alone may be answered in any way. -/
theorem of_sameFlow (hs : s.Measured p) {h : Handled}
    (hsame : s.SameFlow h.session ∧ h.events = []) : h.Clean p s :=
  ⟨hs.of_sameFlow hsame.1, fun _ ↦ hsame⟩

/-- A request that does nothing may be answered in any way. -/
theorem stays (hs : s.Measured p) (response : Response) : Clean p s ⟨response, s, []⟩ :=
  of_sameFlow hs ⟨.refl s, rfl⟩

/-- A request that is not rejected may do anything. -/
theorem of_not_rejects {h : Handled} (hmeasured : h.session.Measured p)
    (hresponse : ¬ h.response.Rejects) : h.Clean p s :=
  ⟨hmeasured, fun hrejects ↦ absurd hrejects hresponse⟩

/-- A body is refused before anything is done. -/
theorem withBody (hs : s.Measured p) {α : Type} {body : Except BodyComplaint α} {go : α → Handled}
    (hgo : ∀ a, body = .ok a → (go a).Clean p s) : (withBody s body go).Clean p s := by
  cases body with
  | error complaint => exact stays hs _
  | ok a => exact hgo a rfl

section Edits

variable (hp : p.Tidy) (hsized : p.Sized) (hs : s.Measured p) {edit : Edit}

include hp hsized hs

/-- **An edit that is refused for a mistake has done nothing**, and one that comes through is
shown. -/
theorem perform (h : edit.Within .floating) (hload : ∀ d, edit ≠ .load d)
    {respond : Session → Reply → Response}
    (hrespond : ∀ after reply, after.Measured p → ¬ (respond after reply).Rejects) :
    (ofTurn (s.perform edit) respond).Clean p s := by
  have hafter : Canvas.Measured p (s.canvas.apply s.palette edit).canvas := by
    rw [hs.palette]
    exact Canvas.apply_measured hp hs.canvas h hload
  have hmeasured : (s.perform edit).session.Measured p := ⟨hs.palette, hafter⟩
  have hspares : (s.canvas.apply s.palette edit).Spares Fault.IsMistake s.canvas := by
    rw [hs.palette]
    exact Canvas.apply_spares hp hsized hs.canvas h hload
  unfold ofTurn
  split
  · next reply _ => exact of_not_rejects hmeasured (hrespond _ reply hmeasured)
  · next fault hfault =>
    refine ⟨hmeasured, fun hrejects ↦ ?_⟩
    obtain ⟨f, hf, rfl⟩ := mapError_eq_error_iff.1 hfault
    obtain ⟨hcanvas, hevents⟩ := hspares f (isMistake_of_rejects hrejects) hf
    exact ⟨⟨rfl, hcanvas.symm, rfl⟩, hevents⟩

theorem editBlock {status : Nat} (hstatus : status < 400) (id : String)
    (h : edit.Within .floating) (hload : ∀ d, edit ≠ .load d) :
    (editBlock s status id edit).Clean p s :=
  perform hp hsized hs h hload fun _ _ hafter ↦ showBlock_not_rejects hstatus _ hafter

theorem editWire {status : Nat} (hstatus : status < 400) (id : String)
    (h : edit.Within .floating) (hload : ∀ d, edit ≠ .load d) :
    (editWire s status id edit).Clean p s :=
  perform hp hsized hs h hload fun after _ _ ↦ showWire_not_rejects hstatus _ after

end Edits

end Handled.Clean

theorem handleDelete_clean (hp : p.Tidy) (hs : s.Measured p) (id : String) :
    (handleDelete id s).Clean p s := by
  obtain ⟨hmeasured, hkept⟩ := hs.delete hp id
  unfold handleDelete
  split
  · exact .stays hs _
  · dsimp only
    split
    · exact .of_not_rejects hmeasured done_not_rejects
    · next hfalse => exact .of_sameFlow hs (hkept hfalse)
    · exact .of_not_rejects hmeasured crash_not_rejects

/-- Saving is not rejected, though the name is there by then. -/
theorem save_clean (hs : s.Measured p) (clock : Clock) (name : Option String) :
    (ofTurn ({ s with flowName := (name.map Value.text).getD s.flowName }.save clock)
      fun _ document ↦ json 200 document).Clean p s := by
  have hnamed : Session.Measured p { s with flowName := (name.map Value.text).getD s.flowName } :=
    ⟨hs.palette, hs.canvas⟩
  obtain ⟨hmeasured, hfaults⟩ := hnamed.save clock
  unfold ofTurn
  split
  · exact .of_not_rejects hmeasured (json_not_rejects (by decide) _)
  · next fault hfault =>
    obtain ⟨f, rfl⟩ := hfaults fault hfault
    exact .of_not_rejects hmeasured crash_not_rejects

theorem load_clean (hp : p.Tidy) (hs : s.Measured p) (v : Value) :
    (ofTurn (s.load v) fun after _ ↦ showFlow after).Clean p s := by
  unfold Session.load
  split
  · next fault _ =>
    -- What is no document is turned away at the door.
    refine .of_sameFlow hs ⟨?_, rfl⟩
    show s.SameFlow (if fault.isMalformed = true then s.log "Failed to load flow" else s)
    split
    · exact (Session.SameFlow.refl s).log _
    · exact .refl s
  · next d hd =>
    rw [hs.palette] at hd
    have hafter : (s.accept (s.canvas.load d)).session.Measured p :=
      ⟨hs.palette, Canvas.load_measured hp hs.canvas hd⟩
    dsimp only
    split
    · next fault hfault =>
      obtain ⟨f, hf, rfl⟩ := mapError_eq_error_iff.1 hfault
      rw [ofTurn, hfault]
      exact .of_not_rejects hafter fun hrejects ↦
        Canvas.load_not_isMistake hf (isMistake_of_rejects hrejects)
    · next hok =>
      rw [ofTurn, hok]
      exact .of_not_rejects ⟨hafter.palette, hafter.canvas⟩ (showFlow_not_rejects _)

/-- **No route does more than it may.** -/
theorem handleRoute_clean (hp : p.Tidy) (hsized : p.Sized) (hs : s.Measured p) (service : Service)
    (clock : Clock) (body : String) (route : Route) :
    (handleRoute service clock body s route).Clean p s := by
  cases route with
  | health | palette | flow | logs => exact .stays hs _
  | program =>
    rw [handleRoute]
    split <;> exact .stays hs _
  | createBlock =>
    refine .withBody hs fun a ha ↦ ?_
    obtain ⟨type, position, data, label⟩ := a
    obtain ⟨v, hv⟩ := readBody_eq_ok ha
    have hn : NewBlock.Within .floating ⟨type, pointValue? position, data, label⟩ :=
      ⟨floating_of_newBlockOf hv, fun _ _ ↦ trivial, trivial⟩
    dsimp only
    split
    · exact .editBlock hp hsized hs (by decide) "" hn (by simp)
    · exact .editBlock hp hsized hs (by decide) "" hn (by simp)
  | deleteBlock id => exact handleDelete_clean hp hs id
  | updateBlock id =>
    exact .withBody hs fun patch _ ↦
      .editBlock hp hsized hs (by decide) id (fun _ _ ↦ trivial) (by simp)
  | moveBlock id =>
    refine .withBody hs fun q hq ↦ ?_
    obtain ⟨v, hv⟩ := readBody_eq_ok hq
    exact .editBlock hp hsized hs (by decide) id (floating_pointValue hv) (by simp)
  | reparentBlock id =>
    refine .withBody hs fun a ha ↦ ?_
    obtain ⟨parent, position⟩ := a
    obtain ⟨v, hv⟩ := readBody_eq_ok ha
    exact .editBlock hp hsized hs (by decide) id (.inr (floating_of_parentOf hv)) (by simp)
  | bindCall id =>
    exact .withBody hs fun name _ ↦ .editBlock hp hsized hs (by decide) id trivial (by simp)
  | createWire =>
    exact .withBody hs fun a _ ↦ .editWire hp hsized hs (by decide) "" trivial (by simp)
  | deleteWire id =>
    have hedit : Edit.Within .floating (.disconnect id) := trivial
    exact .perform hp hsized hs hedit (by simp) fun _ _ _ ↦ done_not_rejects
  | updateWire id =>
    exact .withBody hs fun patch _ ↦ .editWire hp hsized hs (by decide) id trivial (by simp)
  | candidates id =>
    rw [handleRoute]
    split <;> exact .stays hs _
  | select =>
    refine .withBody hs fun selection _ ↦ ?_
    have hedit : Edit.Within .floating (.select selection) := trivial
    exact .perform hp hsized hs hedit (by simp) fun _ _ _ ↦ done_not_rejects
  | save => exact .withBody hs fun name _ ↦ save_clean hs clock name
  | load => exact .withBody hs fun fields _ ↦ load_clean hp hs (.object fields)
  | generate =>
    refine .of_sameFlow hs ?_
    have hsame := s.sameFlow_generate service
    rw [handleRoute, ofTurn]
    split <;> exact hsame
  | run =>
    refine .of_sameFlow hs ?_
    have hsame := s.sameFlow_run service
    rw [handleRoute]
    split <;> exact hsame
  | clearLogs => exact .of_sameFlow hs ⟨⟨rfl, rfl, rfl⟩, rfl⟩

/-- **Every request is handled cleanly**, by cases on its route. -/
theorem handle_clean (hp : p.Tidy) (hsized : p.Sized) (hs : s.Measured p) (service : Service)
    (clock : Clock) (request : Request) : (handle service clock request s).Clean p s := by
  -- Leaving out the body of a response changes nothing that counts.
  have hbodiless : ∀ h : Handled, h.Clean p s →
      Handled.Clean p s (if request.method = "HEAD" then
        { h with response := { h.response with payload := .empty } } else h) := by
    intro h hclean
    split
    · exact ⟨hclean.measured, hclean.traceless⟩
    · exact hclean
  unfold handle
  refine hbodiless _ ?_
  split
  · exact .stays hs _
  · exact handleRoute_clean hp hsized hs service clock request.body _

/-- The session after some requests, each with the clock at its time. -/
def serve (service : Service) (s : Session) (requests : List (Clock × Request)) : Session :=
  requests.foldl (fun s r ↦ (handle service r.1 r.2 s).session) s

/-- **A session that is asked by requests only can be measured**, after any of them. -/
theorem serve_measured (hp : p.Tidy) (hsized : p.Sized) (service : Service) (hs : s.Measured p)
    (requests : List (Clock × Request)) : (serve service s requests).Measured p := by
  induction requests generalizing s with
  | nil => exact hs
  | cons r rest ih => exact ih (handle_clean hp hsized hs service r.1 r.2).measured

/-- **A rejected request leaves no trace.** After any requests to a new session with the bundled
types, let one more be answered with a status from 400 to 499. Then the canvas is what it was, with
its blocks, wires, selection, counters and creation stamp, so is the name of the flow, and no event
is pushed. -/
theorem rejected_leaves_no_trace (service : Service) (client : Client)
    (requests : List (Clock × Request)) (clock : Clock) (request : Request) :
    let s := serve service { palette := .bundled, client := client } requests
    let h := handle service clock request s
    400 ≤ h.response.status → h.response.status < 500 →
      h.session.canvas = s.canvas ∧ h.session.flowName = s.flowName ∧ h.events = [] := by
  intro s h hlow hhigh
  have hp : Palette.bundled.Tidy := Palette.bundled_tidy
  have hsized : Palette.bundled.Sized := Palette.bundled_sized
  have hempty : Canvas.Measured .bundled (Canvas.run .bundled []) :=
    Canvas.measured_of_run hp (by simp)
  have hs : s.Measured .bundled := serve_measured hp hsized service ⟨rfl, hempty⟩ requests
  obtain ⟨hsame, hevents⟩ := (handle_clean hp hsized hs service clock request).traceless
    ⟨hlow, hhigh⟩
  exact ⟨hsame.canvas, hsame.flowName, hevents⟩

/-- A second entry point is dropped next to the first. It is rejected after the search for a
container under it, and not even the number of its id is used up. -/
theorem second_entry_point_leaves_no_trace :
    let service : Service := fun _ _ ↦ .failed "unreachable"
    let clock : Clock := ⟨2024, 2, 29, 12, 0, 0, 0⟩
    let client : Client := ⟨"http://localhost"⟩
    let drop : Request := ⟨"POST", "/api/nodes".toList,
      "\x7b\"pluginId\": \"main\", \"position\": \x7b\"x\": 20, \"y\": 30\x7d\x7d"⟩
    let s := serve service { palette := .bundled, client := client } [(clock, drop)]
    let h := handle service clock drop s
    s.canvas.blocks.map Block.id = ["node_0"] ∧ s.canvas.ids.nextBlock = 1 ∧
      h.response.status = 409 ∧
      h.session.canvas = s.canvas ∧ h.session.flowName = s.flowName ∧ h.events = [] := by
  intro service clock client drop s h
  have hstatus : h.response.status = 409 := by decide +kernel
  have hlow : 400 ≤ h.response.status := by omega
  have hhigh : h.response.status < 500 := by omega
  refine ⟨by decide +kernel, by decide +kernel, hstatus, ?_⟩
  exact rejected_leaves_no_trace service client [(clock, drop)] clock drop hlow hhigh

end Api

end FlowCanvas
